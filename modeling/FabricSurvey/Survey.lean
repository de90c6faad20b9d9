import FabricSurvey.Collection.Network
import FabricSurvey.Collection.Pass
import FabricSurvey.Validation

/-!
# Surveys

A survey is one pass over all nodes of a store: its reports are written into the store, the store is
validated, and what came of both is summed up. What earlier surveys noted is dropped first. Every survey
is printed with an identifier of its own and the time at which it was made.
-/

namespace FabricSurvey

open Json

structure Stamp where
  runId : String
  collectedAt : String
  deriving DecidableEq, Repr

namespace Stamp

def hexadecimal (bytes : List UInt8) : List Char :=
  bytes.flatMap fun b => [Nat.digitChar (b.toNat / 16), Nat.digitChar (b.toNat % 16)]

/-- Sets the bits of two bytes that say of an identifier that it is random. -/
def markRandom (bytes : List UInt8) : List UInt8 :=
  (bytes.modify 6 fun b => b &&& 0x0F ||| 0x40).modify 8 fun b => b &&& 0x3F ||| 0x80

/-- The identifier made of sixteen random bytes, in five groups of digits. -/
def randomId (bytes : List UInt8) : String :=
  let part (start length : Nat) := hexadecimal (((markRandom bytes).drop start).take length)
  String.ofList <|
    part 0 4 ++ '-' :: part 4 2 ++ '-' :: part 6 2 ++ '-' :: part 8 2 ++ '-' :: part 10 6

end Stamp

structure Survey where
  expected : Nat
  received : Nat
  complete : Bool
  failures : List Failure
  valid : Bool
  unconfirmed : List String
  missingLoopback : List String
  errors : List (String × List String)
  nodes : List Node
  deriving DecidableEq, Repr

namespace Survey

def healthy (survey : Survey) : Bool := survey.complete && survey.valid

/-- Surveys a store with the reports that arrive in time, in the order in which they arrive. There has to
be a time until which they are waited for: `CommandLine.Options.outlastsClock` tells if the clock does not
go that far, and then no survey is made. -/
def run (collection : CollectionSettings) (validation : ValidationSettings) (store : Store)
    (reports : List Report) : Store × Survey :=
  let store := store.clearDiagnostics
  let names := store.names
  let pass := Pass.run collection.categories store names reports
  let (store, verdict) := Validation.run validation pass.store names
  (store, {
    expected := pass.summary.expected
    received := pass.summary.received
    complete := pass.summary.complete
    failures := pass.summary.failures
    valid := verdict.valid
    unconfirmed := verdict.unconfirmed
    missingLoopback := verdict.missingLoopback
    errors := store.diagnostics.toList
    nodes := store.all })

/-- Surveys a store over a network. A request that hangs is waited for if it ends before the pass. -/
def overNetwork (collection : CollectionSettings) (validation : ValidationSettings) (store : Store)
    (network : Network) : Store × Survey :=
  let waits := collection.requestTimeout < collection.collectTimeout
  run collection validation store (network.reports waits (collection.collect store.all).requests)

def texts (values : List String) : Value := .array (values.map .string)

def failureValue (failure : Failure) : Value :=
  .object [("node", .string failure.node), ("category", .string failure.category.name),
    ("error", .string failure.reason)]

def entries (survey : Survey) : List (String × Value) :=
  [("expected", .integer survey.expected), ("received", .integer survey.received),
    ("complete", .flag survey.complete),
    ("failures", .array (survey.failures.map failureValue)),
    ("valid", .flag survey.valid), ("unconfirmed", texts survey.unconfirmed),
    ("missing_loopback", texts survey.missingLoopback),
    ("errors", .object (survey.errors.map fun noted => (noted.1, texts noted.2))),
    ("nodes", .array (survey.nodes.map encode))]

def value (stamp : Stamp) (survey : Survey) : Value :=
  .object (("run_id", .string stamp.runId) :: ("collected_at", .string stamp.collectedAt) ::
    survey.entries)

end Survey

end FabricSurvey
