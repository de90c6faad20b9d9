import FabricSurvey.Store

/-!
# What the operations of a store do

A store is seen through the node of each name, the holder of each address and the diagnostics of each
node. Every operation is described here by what it does to these, and by what it leaves alone.
-/

namespace FabricSurvey

open Std (ExtTreeMap)

namespace Index

/-- Releasing a node takes away what it holds and nothing else. -/
theorem getElem?_release (index : Index) (owner key : String) :
    (index.release owner)[key]? = index[key]?.filter (· != owner) := by
  simp [release]

theorem rival?_eq_some_iff {index : Index} {address owner other : String} :
    index.rival? address owner = some other ↔ index[address]? = some other ∧ other ≠ owner := by
  simp [rival?, Option.filter_eq_some_iff]

/-- Nobody stands in the way of a claim that leaves the claimant with the address. -/
theorem rival?_eq_none_iff {index : Index} {address owner : String} :
    index.rival? address owner = none ↔ (index.claim address owner)[address]? = some owner := by
  cases h : index[address]? with
  | none =>
    have hn : address ∉ index := by simp [ExtTreeMap.mem_iff_isSome_getElem?, h]
    rw [getElem?_claim, if_pos ⟨rfl, hn⟩]
    simp [rival?, h]
  | some holder =>
    rw [claim_of_held owner h]
    simp [rival?, h]

end Index

namespace Store

variable {store next : Store} {name other address : String} {node : Node} {identity : Identity}

theorem get?_empty : empty.get? name = none := by simp [empty, get?]

theorem mem_nodes_iff : name ∈ store.nodes ↔ ∃ node, store.get? name = some node := by
  rw [ExtTreeMap.mem_iff_isSome_getElem?, Option.isSome_iff_exists]
  rfl

theorem mem_names_iff : name ∈ store.names ↔ ∃ node, store.get? name = some node := by
  rw [names, ExtTreeMap.mem_keys, mem_nodes_iff]

/-- Names are listed once each, in ascending order. -/
theorem names_ascending (store : Store) :
    store.names.Pairwise fun a b => compare a b = .lt := ExtTreeMap.ordered_keys

theorem length_names (store : Store) : store.names.length = store.size := ExtTreeMap.length_keys

theorem length_all (store : Store) : store.all.length = store.size := by
  rw [all, List.length_map, ExtTreeMap.length_toList]
  rfl

theorem get_eq_ok_iff : store.get name = .ok node ↔ store.get? name = some node := by
  unfold get
  split <;> simp_all

theorem add_eq_error_iff {cause : SurveyError} :
    store.add identity = .error cause ↔
      (∃ node, store.get? identity.name = some node) ∧ cause = .duplicateName identity.name := by
  rw [← mem_nodes_iff, add]
  split <;> simp_all [eq_comm]

theorem add_eq_ok_iff :
    store.add identity = .ok next ↔
      store.get? identity.name = none ∧ next = { store with
        nodes := store.nodes.insert identity.name (.ofIdentity identity)
        management := store.management.claim identity.managementAddress identity.name } := by
  have absent : store.get? identity.name = none ↔ identity.name ∉ store.nodes := by
    rw [mem_nodes_iff, ← Option.ne_none_iff_exists', ne_eq, Decidable.not_not]
  rw [absent, add]
  split <;> simp_all [eq_comm]

theorem get?_of_add (h : store.add identity = .ok next) (other : String) :
    next.get? other =
      if identity.name = other then some (.ofIdentity identity) else store.get? other := by
  unfold add at h
  split at h
  · simp at h
  · cases h
    simp [get?, ExtTreeMap.getElem?_insert]

theorem get?_eq_none_of_add (h : store.add identity = .ok next) :
    store.get? identity.name = none := by
  cases hn : store.get? identity.name with
  | none => rfl
  | some node =>
      have rejected := add_eq_error_iff.2 ⟨⟨node, hn⟩, rfl⟩
      rw [h] at rejected
      cases rejected

theorem management_of_add (h : store.add identity = .ok next) :
    next.management = store.management.claim identity.managementAddress identity.name := by
  unfold add at h
  split at h
  · simp at h
  · cases h
    rfl

theorem loopback_of_add (h : store.add identity = .ok next) (kind : AddressKind) :
    next.loopback kind = store.loopback kind := by
  unfold add at h
  split at h
  · simp at h
  · cases h
    cases kind <;> rfl

theorem diagnostics_of_add (h : store.add identity = .ok next) :
    next.diagnostics = store.diagnostics := by
  obtain ⟨-, rfl⟩ := add_eq_ok_iff.1 h
  rfl

theorem noted_of_add (h : store.add identity = .ok next) (other : String) :
    next.noted other = store.noted other := by
  rw [noted, noted, diagnostics_of_add h]

theorem exists_add_of_free (free : store.get? identity.name = none) :
    ∃ next, store.add identity = .ok next := ⟨_, add_eq_ok_iff.2 ⟨free, rfl⟩⟩

theorem size_of_add (added : store.add identity = .ok next) : next.size = store.size + 1 := by
  obtain ⟨free, rfl⟩ := add_eq_ok_iff.1 added
  have absent : ¬ store.nodes.contains identity.name = true := by
    intro present
    obtain ⟨node, stored⟩ := mem_nodes_iff.1 present
    rw [stored] at free
    cases free
  rw [size, ExtTreeMap.size_insert, if_neg absent]
  rfl

theorem delete_eq_ok_iff :
    store.delete name = .ok (node, next) ↔
      store.get? name = some node ∧ next = {
        nodes := store.nodes.erase name
        management := store.management.release name
        loopbackIP := store.loopbackIP.release name
        loopbackMAC := store.loopbackMAC.release name
        diagnostics := store.diagnostics.erase name } := by
  rw [← get_eq_ok_iff, delete]
  cases store.get name with
  | error cause => simp [bind, Except.bind]
  | ok found => simp [bind, Except.bind, pure, Except.pure, eq_comm]

theorem get?_of_delete (h : store.delete name = .ok (node, next)) (other : String) :
    next.get? other = if name = other then none else store.get? other := by
  obtain ⟨-, rfl⟩ := delete_eq_ok_iff.1 h
  simp [get?, ExtTreeMap.getElem?_erase]

theorem management_of_delete (h : store.delete name = .ok (node, next)) :
    next.management = store.management.release name := by
  obtain ⟨-, rfl⟩ := delete_eq_ok_iff.1 h
  rfl

theorem loopback_of_delete (h : store.delete name = .ok (node, next)) (kind : AddressKind) :
    next.loopback kind = (store.loopback kind).release name := by
  obtain ⟨-, rfl⟩ := delete_eq_ok_iff.1 h
  cases kind <;> rfl

theorem noted_of_delete (h : store.delete name = .ok (node, next)) (other : String) :
    next.noted other = if name = other then [] else store.noted other := by
  obtain ⟨-, rfl⟩ := delete_eq_ok_iff.1 h
  simp [noted, ExtTreeMap.getD_erase]

theorem update_eq_ok_iff {change : Node → Node} :
    store.update name change = .ok next ↔
      (∃ node, store.get? name = some node) ∧
        next = { store with nodes := store.nodes.modify name change } := by
  rw [← mem_nodes_iff, update]
  split <;> simp_all [eq_comm]

theorem get?_of_update {change : Node → Node} (h : store.update name change = .ok next)
    (other : String) :
    next.get? other =
      if name = other then (store.get? other).map change else store.get? other := by
  obtain ⟨-, rfl⟩ := update_eq_ok_iff.1 h
  simp only [get?, ExtTreeMap.getElem?_modify, Std.LawfulEqCmp.compare_eq_iff_eq]
  split <;> simp_all

theorem lookup_eq_some_iff {index : Index} :
    store.lookup index address = some node ↔
      ∃ holder, index[address]? = some holder ∧ store.get? holder = some node := by
  simp [lookup, Option.bind_eq_some_iff]

theorem loopback_claimLoopback (store : Store) (kind other : AddressKind) (address owner : String) :
    (store.claimLoopback kind address owner).loopback other =
      if kind = other then (store.loopback other).claim address owner else store.loopback other := by
  cases kind <;> cases other <;> rfl

@[simp] theorem loopback_clearLoopbacks (store : Store) (kind : AddressKind) :
    store.clearLoopbacks.loopback kind = ∅ := by cases kind <;> rfl

@[simp] theorem loopback_record (store : Store) (name message : String) (kind : AddressKind) :
    (store.record name message).loopback kind = store.loopback kind := by cases kind <;> rfl

@[simp] theorem noted_claimLoopback (store : Store) (kind : AddressKind)
    (address owner name : String) :
    (store.claimLoopback kind address owner).noted name = store.noted name := by cases kind <;> rfl

@[simp] theorem noted_clearDiagnostics (store : Store) (name : String) :
    store.clearDiagnostics.noted name = [] := by simp [noted, clearDiagnostics]

end Store

end FabricSurvey
