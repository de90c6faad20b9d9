import FabricSurvey.Proofs.History
import FabricSurvey.Proofs.Ownership

/-!
# What a deletion leaves

Four maps of a store refer to nodes by name: the three indices and the diagnostics. A name in one of
them that no node goes by would be taken up by the next node that comes under it. As long as addresses
are claimed for stored nodes and messages noted on stored nodes there is no such name. A deleted node
then leaves nothing behind, and a node that comes and goes again has changed nothing.
-/

namespace FabricSurvey

open Std (ExtTreeMap)

namespace Index

variable {index : Index} {owner : String}

theorem unheld_release (index : Index) (owner address : String) :
    (index.release owner)[address]? ≠ some owner := by
  rw [getElem?_release]
  intro h
  exact bne_iff_ne.1 (Option.filter_eq_some_iff.1 h).2 rfl

/-- One who holds nothing has nothing to release. -/
theorem release_of_unheld (unheld : ∀ address : String, index[address]? ≠ some owner) :
    index.release owner = index := by
  refine ExtTreeMap.ext_getElem? fun address => ?_
  rw [getElem?_release]
  cases held : index[address]? with
  | none => rfl
  | some holder =>
      have other : holder ≠ owner := fun same => unheld address (same ▸ held)
      exact Option.filter_eq_some_iff.2 ⟨rfl, bne_iff_ne.2 other⟩

theorem release_claim (unheld : ∀ address : String, index[address]? ≠ some owner)
    (address : String) : (index.claim address owner).release owner = index := by
  refine ExtTreeMap.ext_getElem? fun key => ?_
  rw [getElem?_release, getElem?_claim_or]
  cases held : index[key]? with
  | none => by_cases same : address = key <;> simp [same]
  | some holder =>
      have other : holder ≠ owner := fun same => unheld key (same ▸ held)
      exact Option.filter_eq_some_iff.2 ⟨rfl, bne_iff_ne.2 other⟩

end Index

namespace Store

variable {store next again : Store} {name : String} {node : Node} {identity : Identity}

/-- Beside the management index, the loopback indices and the diagnostics name stored nodes only. -/
structure Closed (store : Store) : Prop extends Sound store where
  holders : ∀ kind (address : String) holder,
    (store.loopback kind)[address]? = some holder → holder ∈ store.nodes
  noted : ∀ name ∈ store.diagnostics, name ∈ store.nodes

theorem closed_empty : empty.Closed where
  toSound := sound_empty
  holders kind address holder h := by
    have none_held : empty.loopback kind = ∅ := by cases kind <;> rfl
    rw [none_held, ExtTreeMap.getElem?_empty] at h
    cases h
  noted name h := absurd h ExtTreeMap.not_mem_empty

theorem Extends.mem_nodes (h : store.Extends next) (stored : name ∈ store.nodes) :
    name ∈ next.nodes := by
  obtain ⟨node, hn⟩ := mem_nodes_iff.1 stored
  obtain ⟨found, hf, -⟩ := h.kept name node hn
  exact mem_nodes_iff.2 ⟨found, hf⟩

/-- Whoever comes to hold an address, or has something noted on it, has to be stored by then. -/
theorem Closed.extend (closed : store.Closed) (h : store.Extends next)
    (holders : ∀ kind (address : String) holder, (next.loopback kind)[address]? = some holder →
      (store.loopback kind)[address]? = some holder ∨ holder ∈ next.nodes)
    (noted : ∀ name ∈ next.diagnostics, name ∈ store.diagnostics ∨ name ∈ next.nodes) :
    next.Closed where
  toSound := closed.toSound.extend h
  holders kind address holder hh :=
    (holders kind address holder hh).elim
      (fun before => h.mem_nodes (closed.holders kind address holder before)) id
  noted name hn :=
    (noted name hn).elim (fun before => h.mem_nodes (closed.noted name before)) id

theorem Closed.extend_nodes (closed : store.Closed) (h : store.Extends next)
    (loopback : ∀ kind, next.loopback kind = store.loopback kind)
    (diagnostics : next.diagnostics = store.diagnostics) : next.Closed := by
  refine closed.extend h (fun kind address holder hh => .inl ?_) fun name hn => .inl ?_
  · rwa [← loopback kind]
  · rwa [← diagnostics]

theorem Closed.add (closed : store.Closed) (h : store.add identity = .ok next) : next.Closed := by
  refine closed.extend_nodes (extends_of_add h) (loopback_of_add h) ?_
  obtain ⟨-, rfl⟩ := add_eq_ok_iff.1 h
  rfl

theorem Closed.set (closed : store.Closed) (name : String) (held : Holding) :
    (store.orUnchanged (store.set name held)).Closed := by
  have extension := extends_set store name held
  rw [set_eq_update, orUnchanged_update] at extension ⊢
  exact closed.extend_nodes extension (fun kind => by cases kind <;> rfl) rfl

theorem Closed.claimLoopback (closed : store.Closed) {owner : String} (stored : owner ∈ store.nodes)
    (kind : AddressKind) (address : String) :
    (store.claimLoopback kind address owner).Closed := by
  refine closed.extend (.of_nodes (nodes_claimLoopback ..) (by cases kind <;> rfl))
    (fun other key holder hh => ?_) fun name hn => .inl ?_
  · rw [loopback_claimLoopback] at hh
    split_ifs at hh
    · rw [Index.getElem?_claim_or, Option.or_eq_some_iff] at hh
      rcases hh with before | ⟨-, claimed⟩
      · exact .inl before
      · split_ifs at claimed
        cases claimed
        exact .inr (by rwa [nodes_claimLoopback])
    · exact .inl hh
  · cases kind <;> exact hn

theorem Closed.clearLoopbacks (closed : store.Closed) : store.clearLoopbacks.Closed := by
  refine closed.extend (.of_nodes rfl rfl) (fun kind address holder hh => ?_) fun name hn => .inl hn
  rw [loopback_clearLoopbacks, ExtTreeMap.getElem?_empty] at hh
  cases hh

theorem Closed.recordAll (closed : store.Closed) {notes : List Note}
    (stored : ∀ note ∈ notes, note.1 ∈ store.nodes) : (store.recordAll notes).Closed := by
  refine closed.extend (.of_nodes rfl rfl) (fun kind address holder hh => .inl ?_) fun name hn => ?_
  · rwa [loopback_recordAll] at hh
  · rcases mem_noteAll_iff.1 hn with before | ⟨note, hm, rfl⟩
    · exact .inl before
    · exact .inr (stored note hm)

theorem Closed.record (closed : store.Closed) (stored : name ∈ store.nodes) (message : String) :
    (store.record name message).Closed := by
  have all_stored : ∀ note ∈ [(name, message)], note.1 ∈ store.nodes :=
    List.forall_mem_singleton.2 stored
  exact closed.recordAll all_stored

theorem Closed.clearDiagnostics (closed : store.Closed) : store.clearDiagnostics.Closed := by
  refine closed.extend (.of_nodes rfl rfl) (fun kind address holder hh => .inl ?_) fun name hn => ?_
  · cases kind <;> exact hh
  · exact absurd hn ExtTreeMap.not_mem_empty

theorem Closed.pass (closed : store.Closed) (categories : List Category) (names : List String)
    (reports : List Report) : (Pass.run categories store names reports).store.Closed := by
  refine closed.extend_nodes (extends_pass categories store names reports) (fun kind => ?_) ?_
  · rw [Pass.store_run]
    cases kind <;> rfl
  · rw [Pass.store_run]

theorem Closed.populate (closed : store.Closed) (settings : ValidationSettings)
    (names : List String) : (Validation.populate settings store names).1.Closed := by
  have entered := Validation.entered_populate settings store names
  have stored {holder : String} (present : ∃ node, store.nodes[holder]? = some node) :
      holder ∈ (Validation.populate settings store names).1.nodes := by
    rw [entered.nodes]
    exact mem_nodes_iff.2 present
  refine closed.extend (extends_populate settings store names) (fun kind address holder hh => ?_)
    fun name hn => ?_
  · rw [entered.loopback] at hh
    exact .inr (stored (Validation.exists_node_of_advertises (Validation.owner?_eq_some hh).2))
  · rw [entered.diagnostics, mem_noteAll_iff] at hn
    rcases hn with before | ⟨note, hm, rfl⟩
    · exact .inl before
    · exact .inr (stored (Validation.faulty_of_mem_notesAfter hm).2.exists_node)

theorem Closed.check (closed : store.Closed) (settings : ValidationSettings)
    (names : List String) : (Validation.check settings store names).1.Closed := by
  rw [Validation.check_fst]
  exact closed.recordAll fun note hm =>
    mem_nodes_iff.2 (Validation.exists_node_of_mem_findings hm)

theorem Closed.validate (closed : store.Closed) (settings : ValidationSettings)
    (names : List String) : (Validation.run settings store names).1.Closed := by
  rw [Validation.run_eq]
  exact (closed.populate settings names).check settings names

theorem Closed.delete (closed : store.Closed) (name : String) :
    (store.perform (.delete name)).Closed := by
  cases hn : store.get? name with
  | none => rwa [perform_delete_of_absent hn]
  | some node =>
      have h := delete_eq_ok_iff.2 ⟨hn, rfl⟩
      have stays {other : String} (stored : other ∈ store.nodes) (different : other ≠ name) :
          other ∈ (store.perform (.delete name)).nodes := by
        obtain ⟨found, hf⟩ := mem_nodes_iff.1 stored
        refine mem_nodes_iff.2 ⟨found, ?_⟩
        rw [get?_perform_delete, if_neg (Ne.symm different), hf]
      refine ⟨closed.toSound.delete name, fun kind address holder hh => ?_, fun other ho => ?_⟩
      · rw [perform_delete h, loopback_of_delete h, Index.getElem?_release,
          Option.filter_eq_some_iff] at hh
        exact stays (closed.holders kind address holder hh.1) (bne_iff_ne.1 hh.2)
      · rw [perform_delete h] at ho
        obtain ⟨different, noted⟩ := ExtTreeMap.mem_erase.1 ho
        rw [ne_eq, Std.LawfulEqCmp.compare_eq_iff_eq] at different
        exact stays (closed.noted other noted) (Ne.symm different)

/-- An address is claimed for a node, and a message noted on one, only while the node is stored. -/
def Operation.Refers (store : Store) : Operation → Prop
  | .claimLoopback _ _ owner => owner ∈ store.nodes
  | .record name _ => name ∈ store.nodes
  | _ => True

instance (store : Store) (operation : Operation) : Decidable (operation.Refers store) :=
  match operation with
  | .claimLoopback _ _ owner => inferInstanceAs (Decidable (owner ∈ store.nodes))
  | .record name _ => inferInstanceAs (Decidable (name ∈ store.nodes))
  | .add .. | .delete .. | .seed .. | .seedFile .. | .set .. | .clearLoopbacks
  | .clearDiagnostics | .pass .. | .populate .. | .check .. | .validate .. => .isTrue trivial

/-- Every operation refers to nodes that are stored when its turn comes. -/
def Orderly (store : Store) : List Operation → Prop
  | [] => True
  | operation :: operations =>
      operation.Refers store ∧ (store.perform operation).Orderly operations

theorem Closed.perform (closed : store.Closed) {operation : Operation}
    (refers : operation.Refers store) : (store.perform operation).Closed := by
  -- Seeding is one addition after the other, so it is enough that each of them keeps a store closed.
  have refl (store : Store) : store.Closed → store.Closed := id
  have added (store : Store) (identity : Identity) (next : Store)
      (h : store.add identity = .ok next) : store.Closed → next.Closed := fun closed => closed.add h
  have trans (store next last : Store) (first : store.Closed → next.Closed)
      (second : next.Closed → last.Closed) : store.Closed → last.Closed := second ∘ first
  cases operation with
  | add identity => exact relates_add refl added store identity closed
  | delete name => exact closed.delete name
  | seed identities => exact relates_seed refl added trans store identities closed
  | seedFile content => exact relates_seedFile refl added trans store content closed
  | set name held => exact closed.set name held
  | claimLoopback kind address owner => exact closed.claimLoopback refers kind address
  | clearLoopbacks => exact closed.clearLoopbacks
  | record name message => exact closed.record refers message
  | clearDiagnostics => exact closed.clearDiagnostics
  | pass categories names reports => exact closed.pass categories names reports
  | populate settings names => exact closed.populate settings names
  | check settings names => exact closed.check settings names
  | validate settings names => exact closed.validate settings names

theorem Closed.foldl_perform (closed : store.Closed) {operations : List Operation}
    (orderly : store.Orderly operations) : (operations.foldl Store.perform store).Closed := by
  induction operations generalizing store with
  | nil => exact closed
  | cons operation operations ih => exact ih (closed.perform orderly.1) orderly.2

theorem closed_after {operations : List Operation} (orderly : empty.Orderly operations) :
    (after operations).Closed := closed_empty.foldl_perform orderly

/-- No look-up finds a node of this name, and nothing is noted on it. -/
structure Traceless (store : Store) (name : String) : Prop where
  absent : store.get? name = none
  byManagement : ∀ address found, store.byManagement address = some found → found.name ≠ name
  byLoopback : ∀ kind address found, store.byLoopback kind address = some found → found.name ≠ name
  unnoted : name ∉ store.diagnostics

/-- Two stores that differ at most in what they have of one name. -/
structure SameBeside (name : String) (store next : Store) : Prop where
  nodes : ∀ other ≠ name, next.get? other = store.get? other
  management : ∀ (address : String), ∀ holder ≠ name,
    next.management[address]? = some holder ↔ store.management[address]? = some holder
  loopback : ∀ kind (address : String), ∀ holder ≠ name,
    (next.loopback kind)[address]? = some holder ↔ (store.loopback kind)[address]? = some holder
  diagnostics : ∀ other : String, other ≠ name → next.diagnostics[other]? = store.diagnostics[other]?

theorem Named.name_of_lookup (named : store.Named) {index : Index} {address : String}
    {found : Node} (unheld : index[address]? ≠ some name)
    (h : store.lookup index address = some found) : found.name ≠ name := by
  obtain ⟨holder, held, hf⟩ := lookup_eq_some_iff.1 h
  rw [named holder found hf]
  rintro rfl
  exact unheld held

theorem traceless_of_delete (sound : store.Sound) (h : store.delete name = .ok (node, next)) :
    next.Traceless name := by
  have named : next.Named := by
    rw [← perform_delete h]
    exact (sound.delete name).named
  refine ⟨?_, fun address found hf => ?_, fun kind address found hf => ?_, ?_⟩
  · rw [get?_of_delete h, if_pos rfl]
  · rw [byManagement, management_of_delete h] at hf
    exact named.name_of_lookup (Index.unheld_release store.management name address) hf
  · rw [byLoopback, loopback_of_delete h] at hf
    exact named.name_of_lookup (Index.unheld_release (store.loopback kind) name address) hf
  · obtain ⟨-, rfl⟩ := delete_eq_ok_iff.1 h
    simp [ExtTreeMap.mem_erase]

theorem sameBeside_of_delete (h : store.delete name = .ok (node, next)) :
    SameBeside name store next := by
  have released (index : Index) (address : String) {holder : String} (other : holder ≠ name) :
      (index.release name)[address]? = some holder ↔ index[address]? = some holder := by
    rw [Index.getElem?_release, Option.filter_eq_some_iff, and_iff_left (bne_iff_ne.2 other)]
  refine ⟨fun other different => ?_, fun address holder other => ?_,
    fun kind address holder other => ?_, fun other different => ?_⟩
  · rw [get?_of_delete h, if_neg (Ne.symm different)]
  · rw [management_of_delete h, released _ _ other]
  · rw [loopback_of_delete h, released _ _ other]
  · obtain ⟨-, rfl⟩ := delete_eq_ok_iff.1 h
    simp [ExtTreeMap.getElem?_erase, Ne.symm different]

/-- A node that comes after a deletion has its own identity only, and no loopback address. -/
theorem add_of_delete (sound : store.Sound) (h : store.delete identity.name = .ok (node, next))
    (ha : next.add identity = .ok again) :
    again.get? identity.name = some (.ofIdentity identity) ∧
      ∀ kind address found, again.byLoopback kind address = some found →
        found.name ≠ identity.name := by
  have named : again.Named := by
    rw [← perform_delete h] at ha
    exact ((sound.delete identity.name).extend (extends_of_add ha)).named
  refine ⟨by rw [get?_of_add ha, if_pos rfl], fun kind address found hf => ?_⟩
  rw [byLoopback, loopback_of_add ha, loopback_of_delete h] at hf
  exact named.name_of_lookup (Index.unheld_release (store.loopback kind) identity.name address) hf

theorem holding_ofIdentity (identity : Identity) (category : Category) :
    (Node.ofIdentity identity).holding category = .empty category := by
  cases category <;> rfl

/-- A node that comes and goes again leaves the store as it was, indices and diagnostics included. -/
theorem Closed.delete_add (closed : store.Closed) (h : store.add identity = .ok next) :
    next.delete identity.name = .ok (.ofIdentity identity, store) := by
  have stored : next.get? identity.name = some (.ofIdentity identity) := by
    rw [get?_of_add h, if_pos rfl]
  obtain ⟨absent, rfl⟩ := add_eq_ok_iff.1 h
  have unstored : identity.name ∉ store.nodes := by
    intro present
    obtain ⟨node, hn⟩ := mem_nodes_iff.1 present
    rw [absent] at hn
    cases hn
  have managed (address : String) : store.management[address]? ≠ some identity.name := by
    intro held
    obtain ⟨node, hn, -⟩ := closed.managed address identity.name held
    rw [absent] at hn
    cases hn
  have unheld (kind : AddressKind) : (store.loopback kind).release identity.name =
      store.loopback kind :=
    Index.release_of_unheld fun address held =>
      unstored (closed.holders kind address identity.name held)
  have nodes : (store.nodes.insert identity.name (.ofIdentity identity)).erase identity.name =
      store.nodes := by
    refine ExtTreeMap.ext_getElem? fun name => ?_
    rw [ExtTreeMap.getElem?_erase, ExtTreeMap.getElem?_insert]
    split_ifs with same
    · rw [← Std.LawfulEqCmp.eq_of_compare same]
      exact absent.symm
    · rfl
  have diagnostics : store.diagnostics.erase identity.name = store.diagnostics := by
    refine ExtTreeMap.ext_getElem? fun name => ?_
    rw [ExtTreeMap.getElem?_erase]
    split_ifs with same
    · rw [← Std.LawfulEqCmp.eq_of_compare same, eq_comm]
      exact ExtTreeMap.getElem?_eq_none fun noted => unstored (closed.noted identity.name noted)
    · rfl
  refine delete_eq_ok_iff.2 ⟨stored, ?_⟩
  have ip := unheld .ip
  have mac := unheld .mac
  simp only [loopback] at ip mac
  simp only [nodes, Index.release_claim managed, ip, mac, diagnostics]

/-- A deleted node is gone from every look-up and from the diagnostics, and all else is as before. A
node that comes under its name again has nothing collected and no loopback address. A name that was
not stored can come and go without a difference. -/
theorem deletion_leaves_no_trace {operations : List Operation}
    (orderly : empty.Orderly operations) :
    (∀ name node, (after operations).get? name = some node →
        ∃ next, (after operations).delete name = .ok (node, next) ∧
          next.Traceless name ∧ SameBeside name (after operations) next ∧
          ∀ identity, identity.name = name → ∃ again added, next.add identity = .ok again ∧
            again.get? name = some added ∧ added.identity = identity ∧
            (∀ category, added.holding category = .empty category) ∧
            ∀ kind address found, again.byLoopback kind address = some found →
              found.name ≠ name) ∧
      ∀ identity, (after operations).get? identity.name = none →
        ∃ added node, (after operations).add identity = .ok added ∧
          added.delete identity.name = .ok (node, after operations) := by
  have closed := closed_after orderly
  constructor
  · intro name node stored
    have deleted := delete_eq_ok_iff.2 ⟨stored, rfl⟩
    have traceless := traceless_of_delete closed.toSound deleted
    refine ⟨_, deleted, traceless, sameBeside_of_delete deleted, ?_⟩
    intro identity own
    subst own
    have added := add_eq_ok_iff.2 ⟨traceless.absent, rfl⟩
    obtain ⟨fresh, unclaimed⟩ := add_of_delete closed.toSound deleted added
    exact ⟨_, _, added, fresh, rfl, holding_ofIdentity identity, unclaimed⟩
  · intro identity absent
    have added := add_eq_ok_iff.2 ⟨absent, rfl⟩
    exact ⟨_, _, added, closed.delete_add added⟩

/-- Two nodes with one management address, of which the first holds a loopback address and has a
message. -/
def sharing : List Operation :=
  [.add ⟨1, "a", "", "10.20.0.2"⟩, .add ⟨2, "b", "", "10.20.0.2"⟩,
    .claimLoopback .ip "10.0.0.1" "a", .record "a" "unreachable"]

theorem orderly_sharing : empty.Orderly sharing := ⟨trivial, trivial, by decide, by decide, trivial⟩

/-- The address goes with its holder, and a third node with it leaves the holder alone. -/
theorem deletion_from_sharing :
    (∃ next, (after sharing).delete "a" = .ok (.ofIdentity ⟨1, "a", "", "10.20.0.2"⟩, next) ∧
        next.Traceless "a" ∧ SameBeside "a" (after sharing) next) ∧
      ∃ added node, (after sharing).add ⟨3, "c", "", "10.20.0.2"⟩ = .ok added ∧
        added.delete "c" = .ok (node, after sharing) := by
  obtain ⟨deletion, restored⟩ := deletion_leaves_no_trace orderly_sharing
  obtain ⟨next, deleted, traceless, same, -⟩ :=
    deletion "a" (.ofIdentity ⟨1, "a", "", "10.20.0.2"⟩) (by decide)
  exact ⟨⟨next, deleted, traceless, same⟩, restored ⟨3, "c", "", "10.20.0.2"⟩ (by decide)⟩

end Store

end FabricSurvey
