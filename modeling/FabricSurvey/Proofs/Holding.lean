import FabricSurvey.Collection.Pass
import FabricSurvey.Store.Lemmas
import Mathlib.Data.List.Sort

/-!
# What a node has of one category

The six categories of a node are written in one way: a payload leaves what it projects to, a failure
leaves nothing. A holding is the value of one category, whichever it is, so that one equation
describes all writes.

A store finds a node by its key, while requests and messages take the name from the node itself. In
a named store the two are the same, so that every key stands for exactly one node.
-/

namespace FabricSurvey

open Std (ExtTreeMap TransOrd LawfulEqOrd)

inductive Holding where
  | liveness (liveness : Option Liveness)
  | interfaces (interfaces : List Interface)
  | bridgeDomains (bridgeDomains : List BridgeDomain)
  | l2Entries (l2Entries : List L2Entry)
  | telemetry (telemetry : List Telemetry)
  | arp (entries : List ArpEntry)
  deriving DecidableEq, Repr

namespace Holding

def category : Holding → Category
  | .liveness _ => .liveness
  | .interfaces _ => .interfaces
  | .bridgeDomains _ => .bridgeDomains
  | .l2Entries _ => .l2Entries
  | .telemetry _ => .telemetry
  | .arp _ => .arp

def empty : Category → Holding
  | .liveness => .liveness none
  | .interfaces => .interfaces []
  | .bridgeDomains => .bridgeDomains []
  | .l2Entries => .l2Entries []
  | .telemetry => .telemetry []
  | .arp => .arp []

@[simp] theorem category_empty (category : Category) : (empty category).category = category := by
  cases category <;> rfl

end Holding

namespace Node

def identity (node : Node) : Identity :=
  ⟨node.id, node.name, node.ipAddress, node.managementAddress⟩

def holding (node : Node) : Category → Holding
  | .liveness => .liveness node.liveness
  | .interfaces => .interfaces node.interfaces
  | .bridgeDomains => .bridgeDomains node.bridgeDomains
  | .l2Entries => .l2Entries node.l2Entries
  | .telemetry => .telemetry node.telemetry
  | .arp => .arp node.arpEntries

def put (node : Node) : Holding → Node
  | .liveness liveness => { node with liveness }
  | .interfaces interfaces => { node with interfaces }
  | .bridgeDomains bridgeDomains => { node with bridgeDomains }
  | .l2Entries l2Entries => { node with l2Entries }
  | .telemetry telemetry => { node with telemetry }
  | .arp arpEntries => { node with arpEntries }

@[simp] theorem identity_put (node : Node) (held : Holding) :
    (node.put held).identity = node.identity := by cases held <;> rfl

/-- A write is seen in its own category and in no other. -/
theorem holding_put (node : Node) (held : Holding) (category : Category) :
    (node.put held).holding category =
      if held.category = category then held else node.holding category := by
  cases held <;> cases category <;> rfl

/-- Nothing is in a node beside its identity and its six categories. -/
theorem eq_of_holding {a b : Node} (identity : a.identity = b.identity)
    (holding : ∀ category, a.holding category = b.holding category) : a = b := by
  have liveness := holding .liveness
  have interfaces := holding .interfaces
  have bridgeDomains := holding .bridgeDomains
  have l2Entries := holding .l2Entries
  have telemetry := holding .telemetry
  have arp := holding .arp
  cases a
  cases b
  simp_all [Node.identity, Node.holding]

end Node

/-- The entries of a table, each of them once, in ascending order of their keys. -/
structure Ascending {κ α : Type} [Ord κ] [TransOrd κ] (table : ExtTreeMap κ α)
    (entries : List (κ × α)) : Prop where
  ordered : entries.Pairwise fun a b => compare a.1 b.1 = .lt
  mem_iff : ∀ key value, (key, value) ∈ entries ↔ table[key]? = some value

theorem ascending_toList {κ α : Type} [Ord κ] [TransOrd κ] [LawfulEqOrd κ]
    (table : ExtTreeMap κ α) : Ascending table table.toList :=
  ⟨ExtTreeMap.ordered_keys_toList, fun _ _ => ExtTreeMap.mem_toList_iff_getElem?_eq_some⟩

theorem Ascending.eq_toList {κ α : Type} [Ord κ] [TransOrd κ] [LawfulEqOrd κ]
    {table : ExtTreeMap κ α} {entries : List (κ × α)} (h : Ascending table entries) :
    entries = table.toList := by
  have irrefl : Std.Irrefl fun a b : κ × α => compare a.1 b.1 = .lt :=
    ⟨fun a h => by simp at h⟩
  have antisymm : Std.Antisymm fun a b : κ × α => compare a.1 b.1 = .lt :=
    ⟨fun a b hab hba => absurd hba (Std.OrientedCmp.not_lt_of_lt hab)⟩
  refine h.ordered.eq_of_mem_iff (ascending_toList table).ordered fun entry => ?_
  rw [h.mem_iff, (ascending_toList table).mem_iff]

namespace Payload

def holding : Payload → Holding
  | .liveness state => .liveness (some state)
  | .interfaces table => .interfaces (sortedByIndex table fun index i => { i with index })
  | .bridgeDomains table => .bridgeDomains (sortedByIndex table fun index d => { d with index })
  | .l2Entries table => .l2Entries (sortedByKey table)
  | .telemetry table => .telemetry (sortedByKey table)
  | .arp table => .arp table.project

@[simp] theorem category_holding (payload : Payload) :
    payload.holding.category = payload.category := by cases payload <;> rfl

/-- A holding is the projection of a payload: tables in ascending order of their keys, interfaces
and bridge domains under the index that they were served under, ARP lists as they were served. -/
inductive Keeps : Payload → Holding → Prop
  | liveness (state : Liveness) : Keeps (.liveness state) (.liveness (some state))
  | interfaces {table : ExtTreeMap UInt32 Interface} {entries : List (UInt32 × Interface)} :
      Ascending table entries →
      Keeps (.interfaces table) (.interfaces (entries.map fun e => { e.2 with index := e.1 }))
  | bridgeDomains {table : ExtTreeMap UInt32 BridgeDomain} {entries : List (UInt32 × BridgeDomain)} :
      Ascending table entries →
      Keeps (.bridgeDomains table) (.bridgeDomains (entries.map fun e => { e.2 with index := e.1 }))
  | l2Entries {table : ExtTreeMap String L2Entry} {entries : List (String × L2Entry)} :
      Ascending table entries →
      Keeps (.l2Entries table) (.l2Entries (entries.map (·.2)))
  | telemetry {table : ExtTreeMap String Telemetry} {entries : List (String × Telemetry)} :
      Ascending table entries →
      Keeps (.telemetry table) (.telemetry (entries.map (·.2)))
  | arpList (entries : List ArpEntry) : Keeps (.arp (.list entries)) (.arp entries)
  | arpKeyed {table : ExtTreeMap String ArpEntry} {entries : List (String × ArpEntry)} :
      Ascending table entries →
      Keeps (.arp (.keyed table)) (.arp (entries.map (·.2)))

/-- A payload has one projection, and it is what is written. -/
theorem keeps_iff {payload : Payload} {held : Holding} :
    payload.Keeps held ↔ held = payload.holding := by
  constructor
  · intro h
    cases h with
    | liveness state => rfl
    | interfaces h => rw [h.eq_toList]; rfl
    | bridgeDomains h => rw [h.eq_toList]; rfl
    | l2Entries h => rw [h.eq_toList]; rfl
    | telemetry h => rw [h.eq_toList]; rfl
    | arpList entries => rfl
    | arpKeyed h => rw [h.eq_toList]; rfl
  · rintro rfl
    cases payload with
    | liveness state => exact .liveness state
    | interfaces table => exact .interfaces (ascending_toList table)
    | bridgeDomains table => exact .bridgeDomains (ascending_toList table)
    | l2Entries table => exact .l2Entries (ascending_toList table)
    | telemetry table => exact .telemetry (ascending_toList table)
    | arp table =>
        cases table with
        | list entries => exact .arpList entries
        | keyed table => exact .arpKeyed (ascending_toList table)

end Payload

namespace Store

/-- Storing a payload puts its projection into the node, whatever its category. -/
theorem storePayload_eq_update (store : Store) (name : String) (payload : Payload) :
    store.storePayload name payload = store.update name (·.put payload.holding) := by
  cases payload <;> rfl

theorem clearCategory_eq_update (store : Store) (name : String) (category : Category) :
    store.clearCategory name category = store.update name (·.put (.empty category)) := by
  cases category <;> rfl

/-- A change of one node, seen on all nodes at once. A node that is not there is not made. -/
theorem orUnchanged_update (store : Store) (name : String) (change : Node → Node) :
    store.orUnchanged (store.update name change) =
      { store with
        nodes := store.nodes.map fun other node => if name = other then change node else node } := by
  have absent (h : name ∉ store.nodes) :
      store.nodes.map (fun other node => if name = other then change node else node) =
        store.nodes := by
    ext other node
    rw [ExtTreeMap.getElem?_map]
    by_cases hn : name = other
    · subst hn
      simp [ExtTreeMap.getElem?_eq_none h]
    · simp [hn]
  have present : store.nodes.modify name change =
      store.nodes.map fun other node => if name = other then change node else node := by
    ext other node
    rw [ExtTreeMap.getElem?_map, ExtTreeMap.getElem?_modify]
    by_cases hn : name = other <;> simp [hn]
  rw [update]
  split
  · rw [orUnchanged, present]
  · next h => rw [orUnchanged, absent h]

/-- Every node is stored under its own name. -/
def Named (store : Store) : Prop := ∀ name node, store.get? name = some node → node.name = name

variable {store next : Store} {node : Node}

theorem mem_toList_nodes_iff {name : String} :
    (name, node) ∈ store.nodes.toList ↔ store.get? name = some node :=
  ExtTreeMap.mem_toList_iff_getElem?_eq_some

theorem named_iff : store.Named ↔ ∀ entry ∈ store.nodes.toList, entry.2.name = entry.1 := by
  constructor
  · rintro named ⟨name, node⟩ hm
    exact named name node (mem_toList_nodes_iff.1 hm)
  · intro h name node hn
    exact h (name, node) (mem_toList_nodes_iff.2 hn)

instance : DecidablePred Named := fun _ => decidable_of_iff _ named_iff.symm

theorem mem_all_iff : node ∈ store.all ↔ ∃ name, store.get? name = some node := by
  simp only [all, List.mem_map, Prod.exists, mem_toList_nodes_iff, exists_eq_right]

namespace Named

theorem get?_name (named : store.Named) (h : node ∈ store.all) :
    store.get? node.name = some node := by
  obtain ⟨name, hn⟩ := mem_all_iff.1 h
  rw [named name node hn, hn]

theorem map_name_all (named : store.Named) : store.all.map Node.name = store.names := by
  rw [all, names, List.map_map, ← ExtTreeMap.map_fst_toList_eq_keys]
  exact List.map_congr_left fun entry hm => named_iff.1 named entry hm

theorem nodup_map_name_all (named : store.Named) : (store.all.map Node.name).Nodup :=
  named.map_name_all ▸ ExtTreeMap.nodup_keys

theorem of_identity (named : store.Named)
    (same : ∀ name, (next.get? name).map Node.identity = (store.get? name).map Node.identity) :
    next.Named := by
  intro name found hf
  have h := same name
  rw [hf, Option.map_some, eq_comm, Option.map_eq_some_iff] at h
  obtain ⟨node, hn, identity⟩ := h
  exact (congrArg Identity.name identity).symm.trans (named name node hn)

end Named

end Store

end FabricSurvey
