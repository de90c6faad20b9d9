import FabricSurvey.Json.Error
import FabricSurvey.Node
import Std.Data.ExtTreeMap

/-!
# The store

All nodes by name, the indices that lead from an address to a node, and the diagnostics noted on each
node. The first node to claim an address keeps it; a later claim by another node changes nothing and
learns who holds it. Operations give the new store, or say why there is none, in which case the old one
stands.
-/

namespace FabricSurvey

open Std (ExtTreeMap)

inductive FileError where
  | notFound
  | notPermitted
  | isDirectory
  | notDirectory
  | nameTooLong
  | notText
  | other (reason : String)
  deriving DecidableEq, Repr

def FileError.message : FileError → String
  | .notFound => "No such file or directory (os error 2)"
  | .notPermitted => "Permission denied (os error 13)"
  | .isDirectory => "Is a directory (os error 21)"
  | .notDirectory => "Not a directory (os error 20)"
  | .nameTooLong => "File name too long (os error 36)"
  | .notText => "stream did not contain valid UTF-8"
  | .other reason => reason

inductive SurveyError where
  | notFound (name : String)
  | duplicateName (name : String)
  | incomplete (expected received : Nat)
  | invalidIdentity (text : String)
  | file (cause : FileError)
  | json (cause : Json.Error)
  | noNodes
  deriving DecidableEq, Repr

namespace SurveyError

def message : SurveyError → String
  | .notFound name => "value with given key not found: " ++ name
  | .duplicateName name => "duplicate key found: " ++ name
  | .incomplete expected received =>
    "incomplete collection: received " ++ toString received ++ " of " ++ toString expected ++
      " reports"
  | .invalidIdentity text => "invalid node identity: " ++ text
  | .file cause => "IO error: " ++ cause.message
  | .json cause => "JSON error: " ++ cause.message
  | .noNodes => "no nodes given, use --node or --nodes-file"

/-- The error beneath this one, if it merely passes one on. -/
def cause? : SurveyError → Option String
  | .file cause => some cause.message
  | .json cause => some cause.message
  | _ => none

end SurveyError

/-- The name of the node that holds each address. -/
abbrev Index := ExtTreeMap String String

namespace Index

/-- The other node that already holds an address, if one does. -/
def rival? (index : Index) (address owner : String) : Option String :=
  index[address]?.filter (· != owner)

/-- Gives an address to a node, unless it is held already. -/
def claim (index : Index) (address owner : String) : Index := index.insertIfNew address owner

/-- Takes every address away from a node. -/
def release (index : Index) (owner : String) : Index := index.filter fun _ holder => holder != owner

theorem getElem?_claim (index : Index) (address owner key : String) :
    (index.claim address owner)[key]? =
      if address = key ∧ address ∉ index then some owner else index[key]? := by
  simp [claim, ExtTreeMap.getElem?_insertIfNew]

/-- A held address stays with its holder. -/
theorem claim_of_held {index : Index} {address key holder : String} (owner : String)
    (h : index[key]? = some holder) : (index.claim address owner)[key]? = some holder := by
  rw [getElem?_claim, if_neg, h]
  rintro ⟨rfl, hn⟩
  rw [ExtTreeMap.getElem?_eq_none hn] at h
  cases h

end Index

/-- The two kinds of address that a loopback interface has. -/
inductive AddressKind where
  | ip
  | mac
  deriving DecidableEq, Repr

structure Store where
  nodes : ExtTreeMap String Node
  management : Index
  /-- Holders of loopback IP addresses, with their mask length. -/
  loopbackIP : Index
  loopbackMAC : Index
  /-- What was found wrong with each node, oldest first. -/
  diagnostics : ExtTreeMap String (List String)
  deriving DecidableEq

namespace Store

def empty : Store := ⟨∅, ∅, ∅, ∅, ∅⟩

def names (store : Store) : List String := store.nodes.keys

def all (store : Store) : List Node := store.nodes.toList.map (·.2)

def size (store : Store) : Nat := store.nodes.size

def get? (store : Store) (name : String) : Option Node := store.nodes[name]?

def get (store : Store) (name : String) : Except SurveyError Node :=
  match store.get? name with
  | some node => .ok node
  | none => .error (.notFound name)

/-- Adds a node of which nothing has been collected. A management address that another node holds
stays with that node. -/
def add (store : Store) (identity : Identity) : Except SurveyError Store :=
  if identity.name ∈ store.nodes then .error (.duplicateName identity.name)
  else .ok { store with
    nodes := store.nodes.insert identity.name (Node.ofIdentity identity)
    management := store.management.claim identity.managementAddress identity.name }

/-- Removes a node, its index entries and its diagnostics. -/
def delete (store : Store) (name : String) : Except SurveyError (Node × Store) := do
  let node ← store.get name
  return (node, {
    nodes := store.nodes.erase name
    management := store.management.release name
    loopbackIP := store.loopbackIP.release name
    loopbackMAC := store.loopbackMAC.release name
    diagnostics := store.diagnostics.erase name })

/-- Changes a node in place; the indices stay as they are. -/
def update (store : Store) (name : String) (change : Node → Node) : Except SurveyError Store :=
  if name ∈ store.nodes then .ok { store with nodes := store.nodes.modify name change }
  else .error (.notFound name)

def setLiveness (store : Store) (name : String) (liveness : Option Liveness) :
    Except SurveyError Store :=
  store.update name fun node => { node with liveness }

def setInterfaces (store : Store) (name : String) (interfaces : List Interface) :
    Except SurveyError Store :=
  store.update name fun node => { node with interfaces }

def setBridgeDomains (store : Store) (name : String) (bridgeDomains : List BridgeDomain) :
    Except SurveyError Store :=
  store.update name fun node => { node with bridgeDomains }

def setL2Entries (store : Store) (name : String) (l2Entries : List L2Entry) :
    Except SurveyError Store :=
  store.update name fun node => { node with l2Entries }

def setTelemetry (store : Store) (name : String) (telemetry : List Telemetry) :
    Except SurveyError Store :=
  store.update name fun node => { node with telemetry }

def setArpEntries (store : Store) (name : String) (arpEntries : List ArpEntry) :
    Except SurveyError Store :=
  store.update name fun node => { node with arpEntries }

/-- The node that an index leads to. -/
def lookup (store : Store) (index : Index) (address : String) : Option Node :=
  index[address]?.bind store.get?

def byManagement (store : Store) (address : String) : Option Node :=
  store.lookup store.management address

def loopback (store : Store) : AddressKind → Index
  | .ip => store.loopbackIP
  | .mac => store.loopbackMAC

def byLoopback (store : Store) (kind : AddressKind) (address : String) : Option Node :=
  store.lookup (store.loopback kind) address

def loopbackRival? (store : Store) (kind : AddressKind) (address owner : String) : Option String :=
  (store.loopback kind).rival? address owner

def claimLoopback (store : Store) (kind : AddressKind) (address owner : String) : Store :=
  match kind with
  | .ip => { store with loopbackIP := store.loopbackIP.claim address owner }
  | .mac => { store with loopbackMAC := store.loopbackMAC.claim address owner }

def clearLoopbacks (store : Store) : Store := { store with loopbackIP := ∅, loopbackMAC := ∅ }

/-- Notes something wrong with a node, after what was noted before. -/
def record (store : Store) (name message : String) : Store :=
  { store with
    diagnostics := store.diagnostics.alter name fun noted => some (noted.getD [] ++ [message]) }

def noted (store : Store) (name : String) : List String := store.diagnostics.getD name []

def clearDiagnostics (store : Store) : Store := { store with diagnostics := ∅ }

@[simp] theorem noted_record (store : Store) (name message other : String) :
    (store.record name message).noted other =
      if name = other then store.noted other ++ [message] else store.noted other := by
  simp only [noted, record, ExtTreeMap.getD_eq_getD_getElem?, ExtTreeMap.getElem?_alter,
    Std.LawfulEqCmp.compare_eq_iff_eq]
  split <;> simp_all

@[simp] theorem nodes_record (store : Store) (name message : String) :
    (store.record name message).nodes = store.nodes := rfl

@[simp] theorem nodes_claimLoopback (store : Store) (kind : AddressKind) (address owner : String) :
    (store.claimLoopback kind address owner).nodes = store.nodes := by
  cases kind <;> rfl

def addNew (seeded : Store × Nat) (identity : Identity) : Store × Nat :=
  match seeded.1.add identity with
  | .ok store => (store, seeded.2 + 1)
  | .error _ => seeded

/-- Adds the nodes whose names are not taken, and counts them. -/
def seed (store : Store) (identities : List Identity) : Store × Nat :=
  identities.foldl addNew (store, 0)

/-- The identities that a nodes file lists. -/
def identitiesOfFile (content : Except FileError Json.Bytes) : Except SurveyError (List Identity) :=
  match content with
  | .error cause => .error (.file cause)
  | .ok bytes =>
    if (Json.utf8? bytes).isNone then .error (.file .notText)
    else match Json.parse (List Identity) bytes with
      | .ok identities => .ok identities
      | .error cause => .error (.json cause)

/-- Adds the nodes that a nodes file lists; a file with any fault in it adds none. -/
def seedFile (store : Store) (content : Except FileError Json.Bytes) :
    Except SurveyError (Store × Nat) := do
  return store.seed (← identitiesOfFile content)

end Store

end FabricSurvey
