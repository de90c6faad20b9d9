import FabricSurvey.Settings
import FabricSurvey.Store
import Std.Data.ExtTreeSet

/-!
# Validation

Every node has a hardware address and IP addresses on its loopback interface. An ARP entry that a node
has learned on that interface names a hardware address and an IP address, and the two have to belong
to one and the same node.

Validation first rebuilds the loopback indices from the nodes it is given, the first node that has an
address holding it, and then looks up every such ARP entry. The first entry whose addresses belong to
two nodes ends it. Otherwise the nodes without an entry that could be resolved are unconfirmed.
-/

namespace FabricSurvey

open Std (ExtTreeSet)

/-- The result of validation. -/
structure Verdict where
  valid : Bool
  /-- Nodes without a resolved ARP entry, by name; found out only if no entry is inconsistent. -/
  unconfirmed : List String
  /-- Nodes without the loopback interface, in the order in which they were given. -/
  missingLoopback : List String
  deriving DecidableEq, Repr

namespace AddressKind

def message : AddressKind → String
  | .ip => "IP"
  | .mac => "MAC"

end AddressKind

namespace Validation

def missingMessage (settings : ValidationSettings) : String :=
  "node does not have a " ++ settings.loopbackName ++ " interface"

def duplicateMessage (kind : AddressKind) (address other : String) : String :=
  "duplicate loopback " ++ kind.message ++ " " ++ address ++ " also on " ++ other

def mismatchMessage (entry : ArpEntry) (byMAC byIP : Node) : String :=
  "ARP entry " ++ entry.macAddress ++ " / " ++ entry.ipAddress ++ " resolves to " ++ byMAC.name ++
    " by MAC and " ++ byIP.name ++ " by IP"

def unconfirmedMessage : String := "no loopback ARP entry resolved to a known node"

/-- The loopback interface of a node. -/
def loopback? (settings : ValidationSettings) (node : Node) : Option Interface :=
  node.internal? settings.loopbackName

/-- Claims an address for a node. If another node holds it, that is noted on both. -/
def claim (kind : AddressKind) (name : String) (store : Store) (address : String) : Store :=
  match store.loopbackRival? kind address name with
  | some owner =>
    (store.record name (duplicateMessage kind address owner)).record owner
      (duplicateMessage kind address name)
  | none => store.claimLoopback kind address name

def macAddresses (interface : Interface) : List String :=
  if interface.macAddress.isEmpty then [] else [interface.macAddress]

def claimAll (name : String) (store : Store) (interface : Interface) : Store :=
  (macAddresses interface).foldl (claim .mac name) <|
    interface.ipAddresses.foldl (claim .ip name) store

/-- Enters one node into the loopback indices, or notes that it has no loopback. -/
def enter (settings : ValidationSettings) (state : Store × List String) (name : String) :
    Store × List String :=
  match state.1.get? name with
  | none => state
  | some node =>
    match loopback? settings node with
    | none => (state.1.record name (missingMessage settings), state.2 ++ [name])
    | some interface => (claimAll name state.1 interface, state.2)

/-- Rebuilds the loopback indices; gives the nodes that have no loopback. -/
def populate (settings : ValidationSettings) (store : Store) (names : List String) :
    Store × List String :=
  names.foldl (enter settings) (store.clearLoopbacks, [])

def ipKey (settings : ValidationSettings) (entry : ArpEntry) : String :=
  entry.ipAddress ++ "/" ++ toString settings.maskLength.toNat

/-- The nodes that an ARP entry leads to by its hardware address and by its IP address. -/
def resolve? (settings : ValidationSettings) (store : Store) (entry : ArpEntry) :
    Option (Node × Node) := do
  let byMAC ← store.byLoopback .mac entry.macAddress
  let byIP ← store.byLoopback .ip (ipKey settings entry)
  return (byMAC, byIP)

/-- Looks up ARP entries until one of them leads to two nodes. Gives whether one before it could be
resolved, and the message of that entry. -/
def walkEntries (settings : ValidationSettings) (store : Store) (confirmed : Bool) :
    List ArpEntry → Bool × Option String
  | [] => (confirmed, none)
  | entry :: entries =>
    match resolve? settings store entry with
    | none => walkEntries settings store confirmed entries
    | some (byMAC, byIP) =>
      if byMAC.name = byIP.name then walkEntries settings store true entries
      else (confirmed, some (mismatchMessage entry byMAC byIP))

/-- Looks up the ARP entries of one node after the other. An inconsistent entry is noted and ends the
walk; at its end the nodes that are still pending are noted. -/
def walkNames (settings : ValidationSettings) (store : Store) (pending : ExtTreeSet String) :
    List String → Store × Option (List String)
  | [] =>
    (pending.toList.foldl (fun store name => store.record name unconfirmedMessage) store,
      some pending.toList)
  | name :: names =>
    match store.get? name with
    | none => walkNames settings store pending names
    | some node =>
      match loopback? settings node with
      | none => walkNames settings store pending names
      | some interface =>
        match walkEntries settings store false
            (node.arpEntries.filter (·.interfaceIndex == interface.index)) with
        | (_, some message) => (store.record name message, none)
        | (true, none) => walkNames settings store (pending.erase name) names
        | (false, none) => walkNames settings store pending names

/-- Looks up the ARP entries of the given nodes. Gives the unconfirmed nodes, or nothing if an entry
is inconsistent. -/
def check (settings : ValidationSettings) (store : Store) (names : List String) :
    Store × Option (List String) :=
  walkNames settings store (ExtTreeSet.ofList store.names) names

def run (settings : ValidationSettings) (store : Store) (names : List String) : Store × Verdict :=
  let (store, missingLoopback) := populate settings store names
  match check settings store names with
  | (store, some unconfirmed) => (store, ⟨true, unconfirmed, missingLoopback⟩)
  | (store, none) => (store, ⟨false, [], missingLoopback⟩)

end Validation

end FabricSurvey
