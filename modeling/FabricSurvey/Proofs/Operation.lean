import FabricSurvey.Proofs.Pass
import FabricSurvey.Proofs.Verdict

/-!
# What one operation does to nodes and management addresses

Everything that can be done to a store is an operation here, passes and validation included. There are
two kinds of them. A deletion takes one node away with all addresses that it holds. All others extend
the store: nobody leaves, nobody loses an address, and who joins holds the address that it came with
unless another node does. What has been collected from a stored node is written by a pass or by hand,
and all other extensions leave it as it was.
-/

namespace FabricSurvey

open Std (ExtTreeMap)

namespace Store

inductive Operation where
  | add (identity : Identity)
  | delete (name : String)
  | seed (identities : List Identity)
  | seedFile (content : Except FileError Json.Bytes)
  | set (name : String) (held : Holding)
  | claimLoopback (kind : AddressKind) (address owner : String)
  | clearLoopbacks
  | record (name message : String)
  | clearDiagnostics
  | pass (categories : List Category) (names : List String) (reports : List Report)
  | populate (settings : ValidationSettings) (names : List String)
  | check (settings : ValidationSettings) (names : List String)
  | validate (settings : ValidationSettings) (names : List String)

/-- Replaces what a node has of one category. -/
def set (store : Store) (name : String) : Holding → Except SurveyError Store
  | .liveness liveness => store.setLiveness name liveness
  | .interfaces interfaces => store.setInterfaces name interfaces
  | .bridgeDomains bridgeDomains => store.setBridgeDomains name bridgeDomains
  | .l2Entries l2Entries => store.setL2Entries name l2Entries
  | .telemetry telemetry => store.setTelemetry name telemetry
  | .arp entries => store.setArpEntries name entries

/-- The store after an operation, which is the same store if the operation fails. -/
def perform (store : Store) : Operation → Store
  | .add identity => store.orUnchanged (store.add identity)
  | .delete name => store.orUnchanged ((store.delete name).map (·.2))
  | .seed identities => (store.seed identities).1
  | .seedFile content => store.orUnchanged ((store.seedFile content).map (·.1))
  | .set name held => store.orUnchanged (store.set name held)
  | .claimLoopback kind address owner => store.claimLoopback kind address owner
  | .clearLoopbacks => store.clearLoopbacks
  | .record name message => store.record name message
  | .clearDiagnostics => store.clearDiagnostics
  | .pass categories names reports => (Pass.run categories store names reports).store
  | .populate settings names => (Validation.populate settings store names).1
  | .check settings names => (Validation.check settings store names).1
  | .validate settings names => (Validation.run settings store names).1

section

variable {R : Store → Store → Prop} (refl : ∀ store, R store store)
  (added : ∀ store identity next, store.add identity = .ok next → R store next)

include refl added

/-- What relates a store to itself and to what an addition makes of it holds for one that may fail. -/
theorem relates_add (store : Store) (identity : Identity) :
    R store (store.orUnchanged (store.add identity)) := by
  cases h : store.add identity with
  | ok next => exact added store identity next h
  | error cause => exact refl store

theorem relates_addNew (seeded : Store × Nat) (identity : Identity) :
    R seeded.1 (addNew seeded identity).1 := by
  unfold addNew
  cases h : seeded.1.add identity with
  | ok next => exact added seeded.1 identity next h
  | error cause => exact refl seeded.1

variable (trans : ∀ store next last, R store next → R next last → R store last)

include trans

theorem relates_seed (store : Store) (identities : List Identity) :
    R store (store.seed identities).1 := by
  have seeded (start : Store × Nat) : R start.1 (identities.foldl addNew start).1 := by
    induction identities generalizing start with
    | nil => exact refl start.1
    | cons identity identities ih =>
        exact trans _ _ _ (relates_addNew refl added start identity) (ih _)
  exact seeded (store, 0)

theorem relates_seedFile (store : Store) (content : Except FileError Json.Bytes) :
    R store (store.orUnchanged ((store.seedFile content).map (·.1))) := by
  unfold seedFile
  cases identitiesOfFile content with
  | error cause => exact refl store
  | ok identities => exact relates_seed refl added trans store identities

end

/-- Every node is still there and holds what it held. A new node goes by its own name and its address
is held by somebody; an address that was free is held by a new node that has it. -/
structure Extends (store next : Store) : Prop where
  kept : ∀ name node, store.get? name = some node →
    ∃ found, next.get? name = some found ∧ found.identity = node.identity
  held : ∀ (address : String) holder, store.management[address]? = some holder →
    next.management[address]? = some holder
  joined : ∀ name node, store.get? name = none → next.get? name = some node →
    node.name = name ∧ ∃ holder, next.management[node.managementAddress]? = some holder
  taken : ∀ (address : String) holder, store.management[address]? = none →
    next.management[address]? = some holder → store.get? holder = none ∧
      ∃ node, next.get? holder = some node ∧ node.managementAddress = address

variable {store next last : Store}

theorem Extends.of_identity
    (same : ∀ name, (next.get? name).map Node.identity = (store.get? name).map Node.identity)
    (management : next.management = store.management) : store.Extends next where
  kept name node hn := by
    have h := same name
    rwa [hn, Option.map_some, Option.map_eq_some_iff] at h
  held address holder h := by rwa [management]
  joined name node absent hn := by
    have h := same name
    rw [absent, hn] at h
    cases h
  taken address holder free h := by
    rw [management, free] at h
    cases h

theorem Extends.of_nodes (nodes : next.nodes = store.nodes)
    (management : next.management = store.management) : store.Extends next :=
  .of_identity (fun name => by rw [get?, get?, nodes]) management

theorem Extends.refl (store : Store) : store.Extends store := .of_nodes rfl rfl

theorem Extends.trans (first : store.Extends next) (second : next.Extends last) :
    store.Extends last where
  kept name node hn := by
    obtain ⟨found, hf, identity⟩ := first.kept name node hn
    obtain ⟨latest, hl, identity'⟩ := second.kept name found hf
    exact ⟨latest, hl, identity'.trans identity⟩
  held address holder h := second.held address holder (first.held address holder h)
  joined name node absent hn := by
    cases hf : next.get? name with
    | none => exact second.joined name node hf hn
    | some found =>
        obtain ⟨own, holder, h⟩ := first.joined name found absent hf
        obtain ⟨latest, hl, identity⟩ := second.kept name found hf
        rw [hn, Option.some.injEq] at hl
        subst hl
        have same := Identity.mk.inj identity
        refine ⟨same.2.1.trans own, holder, ?_⟩
        rw [same.2.2.2]
        exact second.held _ holder h
  taken address holder free h := by
    -- The address may have been taken in the second step, or in the first and kept in the second.
    cases hm : next.management[address]? with
    | none =>
        obtain ⟨absent, found⟩ := second.taken address holder hm h
        refine ⟨?_, found⟩
        by_contra present
        obtain ⟨node, hn⟩ := Option.ne_none_iff_exists'.1 present
        obtain ⟨still, hs, -⟩ := first.kept holder node hn
        rw [absent] at hs
        cases hs
    | some claimant =>
        have same := second.held address claimant hm
        rw [h, Option.some.injEq] at same
        subst same
        obtain ⟨absent, node, hn, own⟩ := first.taken address holder free hm
        obtain ⟨found, hf, identity⟩ := second.kept holder node hn
        exact ⟨absent, found, hf, (congrArg Identity.managementAddress identity).trans own⟩

theorem extends_of_add {identity : Identity} (h : store.add identity = .ok next) :
    store.Extends next where
  kept name node hn := by
    have other : identity.name ≠ name := by
      intro same
      rw [← same, get?_eq_none_of_add h] at hn
      cases hn
    exact ⟨node, by rw [get?_of_add h, if_neg other, hn], rfl⟩
  held address holder hm := by
    rw [management_of_add h]
    exact Index.claim_of_held _ hm
  joined name node absent hn := by
    rw [get?_of_add h] at hn
    split_ifs at hn with own
    · cases hn
      refine ⟨own, ?_⟩
      rw [management_of_add h, Index.getElem?_claim_or]
      cases store.management[(Node.ofIdentity identity).managementAddress]? with
      | none => exact ⟨identity.name, if_pos rfl⟩
      | some holder => exact ⟨holder, rfl⟩
    · rw [absent] at hn
      cases hn
  taken address holder free hm := by
    rw [management_of_add h, Index.getElem?_claim_or, free, Option.none_or] at hm
    split_ifs at hm with own
    cases hm
    refine ⟨get?_eq_none_of_add h, .ofIdentity identity, ?_, own⟩
    rw [get?_of_add h, if_pos rfl]

theorem extends_add (store : Store) (identity : Identity) :
    store.Extends (store.orUnchanged (store.add identity)) :=
  relates_add .refl (fun _ _ _ => extends_of_add) store identity

theorem extends_seed (store : Store) (identities : List Identity) :
    store.Extends (store.seed identities).1 :=
  relates_seed .refl (fun _ _ _ => extends_of_add) (fun _ _ _ => .trans) store identities

theorem extends_seedFile (store : Store) (content : Except FileError Json.Bytes) :
    store.Extends (store.orUnchanged ((store.seedFile content).map (·.1))) :=
  relates_seedFile .refl (fun _ _ _ => extends_of_add) (fun _ _ _ => .trans) store content

theorem set_eq_update (store : Store) (name : String) (held : Holding) :
    store.set name held = store.update name (·.put held) := by cases held <;> rfl

theorem extends_set (store : Store) (name : String) (held : Holding) :
    store.Extends (store.orUnchanged (store.set name held)) := by
  rw [set_eq_update, orUnchanged_update]
  refine .of_identity (fun other => ?_) rfl
  unfold get?
  rw [ExtTreeMap.getElem?_map, Option.map_map]
  refine congrFun (congrArg _ (funext fun node => ?_)) _
  rw [Function.comp_apply]
  split_ifs
  · exact node.identity_put held
  · rfl

theorem extends_pass (categories : List Category) (store : Store) (names : List String)
    (reports : List Report) : store.Extends (Pass.run categories store names reports).store := by
  refine .of_identity (Pass.identity_run store names reports) ?_
  rw [Pass.store_run]

theorem extends_populate (settings : ValidationSettings) (store : Store) (names : List String) :
    store.Extends (Validation.populate settings store names).1 := by
  have entered := Validation.entered_populate settings store names
  exact .of_nodes entered.nodes entered.management

theorem extends_check (settings : ValidationSettings) (store : Store) (names : List String) :
    store.Extends (Validation.check settings store names).1 := by
  rw [Validation.check_fst]
  exact .of_nodes rfl rfl

theorem extends_validate (settings : ValidationSettings) (store : Store) (names : List String) :
    store.Extends (Validation.run settings store names).1 :=
  .of_nodes (Validation.nodes_run settings store names)
    (Validation.management_run settings store names)

/-- Only a deletion takes anything away. -/
theorem delete_or_extends (store : Store) (operation : Operation) :
    (∃ name, operation = .delete name) ∨ store.Extends (store.perform operation) := by
  cases operation with
  | delete name => exact .inl ⟨name, rfl⟩
  | add identity => exact .inr (extends_add store identity)
  | seed identities => exact .inr (extends_seed store identities)
  | seedFile content => exact .inr (extends_seedFile store content)
  | set name held => exact .inr (extends_set store name held)
  | claimLoopback kind address owner => cases kind <;> exact .inr (.of_nodes rfl rfl)
  | clearLoopbacks => exact .inr (.of_nodes rfl rfl)
  | record name message => exact .inr (.of_nodes rfl rfl)
  | clearDiagnostics => exact .inr (.of_nodes rfl rfl)
  | pass categories names reports => exact .inr (extends_pass categories store names reports)
  | populate settings names => exact .inr (extends_populate settings store names)
  | check settings names => exact .inr (extends_check settings store names)
  | validate settings names => exact .inr (extends_validate settings store names)

theorem perform_delete_of_absent {name : String} (absent : store.get? name = none) :
    store.perform (.delete name) = store := by
  have failed : store.delete name = .error (.notFound name) := by
    rw [delete, get, absent]
    rfl
  rw [perform, failed]
  rfl

theorem perform_delete {name : String} {node : Node} (h : store.delete name = .ok (node, next)) :
    store.perform (.delete name) = next := by
  rw [perform, h]
  rfl

theorem get?_perform_delete (store : Store) (name other : String) :
    (store.perform (.delete name)).get? other =
      if name = other then none else store.get? other := by
  cases hn : store.get? name with
  | none =>
      rw [perform_delete_of_absent hn]
      split_ifs with same
      · rw [← same, hn]
      · rfl
  | some node =>
      have h := delete_eq_ok_iff.2 ⟨hn, rfl⟩
      rw [perform_delete h, get?_of_delete h]

/-- Every node is still there as it was, and those that are new have nothing collected. -/
structure Joins (store next : Store) : Prop where
  kept : ∀ name node, store.get? name = some node → next.get? name = some node
  fresh : ∀ name node, store.get? name = none → next.get? name = some node →
    ∃ identity, node = .ofIdentity identity

theorem Joins.of_nodes (nodes : next.nodes = store.nodes) : store.Joins next where
  kept name node hn := by rwa [get?, nodes]
  fresh name node absent hn := by
    rw [get?, nodes] at hn
    rw [get?, hn] at absent
    cases absent

theorem Joins.trans (first : store.Joins next) (second : next.Joins last) : store.Joins last where
  kept name node hn := second.kept name node (first.kept name node hn)
  fresh name node absent hn := by
    cases hf : next.get? name with
    | none => exact second.fresh name node hf hn
    | some found =>
        obtain rfl : found = node := Option.some.inj ((second.kept name found hf).symm.trans hn)
        exact first.fresh name found absent hf

theorem joins_of_add {identity : Identity} (h : store.add identity = .ok next) :
    store.Joins next where
  kept name node hn := by
    have other : identity.name ≠ name := by
      intro same
      rw [← same, get?_eq_none_of_add h] at hn
      cases hn
    rw [get?_of_add h, if_neg other, hn]
  fresh name node absent hn := by
    rw [get?_of_add h] at hn
    split_ifs at hn
    · cases hn
      exact ⟨identity, rfl⟩
    · rw [absent] at hn
      cases hn

theorem joins_add (store : Store) (identity : Identity) :
    store.Joins (store.orUnchanged (store.add identity)) :=
  relates_add (fun _ => .of_nodes rfl) (fun _ _ _ => joins_of_add) store identity

theorem joins_seed (store : Store) (identities : List Identity) :
    store.Joins (store.seed identities).1 :=
  relates_seed (fun _ => .of_nodes rfl) (fun _ _ _ => joins_of_add) (fun _ _ _ => .trans) store
    identities

theorem joins_seedFile (store : Store) (content : Except FileError Json.Bytes) :
    store.Joins (store.orUnchanged ((store.seedFile content).map (·.1))) :=
  relates_seedFile (fun _ => .of_nodes rfl) (fun _ _ _ => joins_of_add) (fun _ _ _ => .trans) store
    content

inductive Operation.Writes : Operation → Prop
  | delete (name : String) : Writes (.delete name)
  | set (name : String) (held : Holding) : Writes (.set name held)
  | pass (categories : List Category) (names : List String) (reports : List Report) :
      Writes (.pass categories names reports)

/-- Stored nodes are left alone by all but three operations. -/
theorem writes_or_joins (store : Store) (operation : Operation) :
    operation.Writes ∨ store.Joins (store.perform operation) := by
  cases operation with
  | delete name => exact .inl (.delete name)
  | set name held => exact .inl (.set name held)
  | pass categories names reports => exact .inl (.pass categories names reports)
  | add identity => exact .inr (joins_add store identity)
  | seed identities => exact .inr (joins_seed store identities)
  | seedFile content => exact .inr (joins_seedFile store content)
  | claimLoopback kind address owner => exact .inr (.of_nodes (nodes_claimLoopback ..))
  | clearLoopbacks => exact .inr (.of_nodes rfl)
  | record name message => exact .inr (.of_nodes rfl)
  | clearDiagnostics => exact .inr (.of_nodes rfl)
  | populate settings names =>
      exact .inr (.of_nodes (Validation.entered_populate settings store names).nodes)
  | check settings names =>
      refine .inr (.of_nodes ?_)
      rw [perform, Validation.check_fst]
      rfl
  | validate settings names => exact .inr (.of_nodes (Validation.nodes_run settings store names))

theorem get?_perform_set (store : Store) (name other : String) (held : Holding) :
    (store.perform (.set name held)).get? other =
      (store.get? other).map fun node => if name = other then node.put held else node := by
  rw [perform, set_eq_update, orUnchanged_update]
  exact ExtTreeMap.getElem?_map

end Store

end FabricSurvey
