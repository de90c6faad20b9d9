import FabricSurvey.Node
import FabricSurvey.Settings
import Std.Data.String.ToNat

/-!
# Payloads and reports

The decoded body of one category: a record, a table by index or by key, or an ARP table. A payload is
projected to what a node keeps of it, in the order of the keys; interfaces and bridge domains take the
index they were served under, whatever their own text says. Every fetch ends in one report: which node,
which category, and either the decoded body or why there is none.

A table whose entries lie in buckets is walked through in an order of which nothing is known. Its
values come out of such a walk in the order of their keys: the entries are sorted first, by a sort that
may leave two entries of one key either way round, and then their values are taken from front to back.
-/

namespace FabricSurvey

open Json
open Std (ExtTreeMap TransOrd)

inductive Payload where
  | liveness (liveness : Liveness)
  | interfaces (table : ExtTreeMap UInt32 Interface)
  | bridgeDomains (table : ExtTreeMap UInt32 BridgeDomain)
  | l2Entries (table : ExtTreeMap String L2Entry)
  | telemetry (table : ExtTreeMap String Telemetry)
  | arp (table : ArpTable)
  deriving DecidableEq

namespace Payload

def category : Payload → Category
  | .liveness _ => .liveness
  | .interfaces _ => .interfaces
  | .bridgeDomains _ => .bridgeDomains
  | .l2Entries _ => .l2Entries
  | .telemetry _ => .telemetry
  | .arp _ => .arp

def ofDraft (category : Category) (draft : Draft) : Except Error Payload :=
  match category with
  | .liveness => (Json.decode Liveness draft).map .liveness
  | .interfaces => (decodeTable UInt32 Interface draft).map .interfaces
  | .bridgeDomains => (decodeTable UInt32 BridgeDomain draft).map .bridgeDomains
  | .l2Entries => (decodeTable String L2Entry draft).map .l2Entries
  | .telemetry => (decodeTable String Telemetry draft).map .telemetry
  | .arp => (ArpTable.decode draft).map .arp

/-- Reads the body of a category. -/
def decode (category : Category) (body : Bytes) : Except Error Payload :=
  readWhole (ofDraft category) body

end Payload

/-- The values of a table by index in ascending order, each one tagged with its index by a function
that may carry a state from one value to the next. -/
def sortedByIndexM {α σ : Type} (table : ExtTreeMap UInt32 α) (tag : UInt32 → α → StateM σ α) :
    StateM σ (List α) :=
  table.toList.mapM fun entry => tag entry.1 entry.2

/-- The values of a table by index in ascending order, each one tagged with its index. -/
def sortedByIndex {α : Type} (table : ExtTreeMap UInt32 α) (tag : UInt32 → α → α) : List α :=
  table.toList.map fun entry => tag entry.1 entry.2

/-- The values of a table by key in ascending order of the keys. -/
def sortedByKey {α : Type} (table : ExtTreeMap String α) : List α :=
  table.toList.map (·.2)

/-- The entries of an ARP table in the order in which a node keeps them. -/
def ArpTable.project : ArpTable → List ArpEntry
  | .list entries => entries
  | .keyed table => sortedByKey table

/-- A way to sort entries by their keys. -/
structure Arrangement {κ : Type} (lt : κ → κ → Prop) (α : Type) where
  arrange : List (κ × α) → List (κ × α)
  perm (walk : List (κ × α)) : (arrange walk).Perm walk
  ordered (walk : List (κ × α)) : (arrange walk).Pairwise fun a b => ¬ lt b.1 a.1

/-- Texts are sorted by their bytes. -/
def BytesLt (a b : String) : Prop := utf8 a < utf8 b

namespace Arrangement

variable {α σ : Type}

def byIndexM (arrangement : Arrangement (fun a b : UInt32 => a < b) α) (walk : List (UInt32 × α))
    (tag : UInt32 → α → StateM σ α) : StateM σ (List α) :=
  (arrangement.arrange walk).mapM fun entry => tag entry.1 entry.2

def byKey (arrangement : Arrangement BytesLt α) (walk : List (String × α)) : List α :=
  (arrangement.arrange walk).map (·.2)

end Arrangement

/-- Why a fetch gave no payload. -/
inductive FetchError where
  /-- The request could not be sent, or the response could not be read. -/
  | transport (reason : String)
  | status (code : Nat)
  /-- The body is not what the category is served as. -/
  | decode (reason : String)
  deriving DecidableEq, Repr

/-- The text of a failure. A transport failure has its reason from the HTTP client; a body that is not
JSON has the kind of its fault for a reason, see `Json.Fault.message`. -/
def FetchError.message : FetchError → String
  | .transport reason => "transport failure: " ++ reason
  | .status code => "unexpected HTTP status " ++ toString code
  | .decode reason => "decode failure: " ++ reason

namespace FetchError

def initial : FetchError → Char
  | .transport _ => 't'
  | .status _ => 'u'
  | .decode _ => 'd'

theorem head?_message (cause : FetchError) : cause.message.toList.head? = some cause.initial := by
  cases cause <;> exact Json.head?_append_of_head? rfl

/-- A message names its cause: the kind of failure by its initial, and the rest word by word. -/
theorem message_injective {a b : FetchError} (same : a.message = b.message) : a = b := by
  have begins : some a.initial = some b.initial := by rw [← head?_message, ← head?_message, same]
  cases a <;> cases b
  case transport.transport => exact congrArg transport ((String.append_right_inj _).1 same)
  case status.status => exact congrArg status (Nat.repr_inj.1 ((String.append_right_inj _).1 same))
  case decode.decode => exact congrArg decode ((String.append_right_inj _).1 same)
  all_goals simp [initial] at begins

end FetchError

structure Report where
  node : String
  category : Category
  outcome : Except FetchError Payload

namespace Report

/-- What becomes of a body that has arrived. -/
def outcomeOfBody (category : Category) (body : Json.Bytes) : Except FetchError Payload :=
  match Payload.decode category body with
  | .ok payload => .ok payload
  | .error cause => .error (.decode cause.message)

theorem outcomeOfBody_of_refused {category : Category} {body : Json.Bytes}
    (refused : ∀ payload, Payload.decode category body ≠ .ok payload) :
    ∃ cause, Payload.decode category body = .error cause ∧
      outcomeOfBody category body = .error (.decode cause.message) := by
  cases found : Payload.decode category body with
  | ok payload => exact absurd found (refused payload)
  | error cause => exact ⟨cause, rfl, by rw [outcomeOfBody, found]⟩

def ofBody (node : String) (category : Category) (body : Json.Bytes) : Report :=
  ⟨node, category, outcomeOfBody category body⟩

end Report

end FabricSurvey
