import FabricSurvey.Proofs.Operation
import FabricSurvey.Survey

/-!
# Stores over whole histories

A history is a list of operations on a store that was empty at first. In every store that a history
leads to, nodes go by their own names and an address in the management index leads to a node that has
it. A holder keeps its address until it is deleted itself. Its address is then held by nobody, even
if another node has it too, until a new node brings it in again.
-/

namespace FabricSurvey

open Std (ExtTreeMap)

namespace Store

def after (operations : List Operation) : Store := operations.foldl perform empty

theorem fst_survey (collection : CollectionSettings) (validation : ValidationSettings)
    (store : Store) (reports : List Report) :
    (Survey.run collection validation store reports).1 =
      [.clearDiagnostics, .pass collection.categories store.names reports,
        .validate validation store.names].foldl perform store := rfl

theorem after_concat (operations : List Operation) (operation : Operation) :
    after (operations ++ [operation]) = (after operations).perform operation := by
  rw [after, List.foldl_append]
  rfl

/-- Every node is stored under its own name, and an address leads to a node that has it. -/
structure Sound (store : Store) : Prop where
  named : store.Named
  managed : ∀ (address : String) name, store.management[address]? = some name →
    ∃ node, store.get? name = some node ∧ node.managementAddress = address

theorem sound_empty : empty.Sound where
  named name node h := by
    rw [get?_empty] at h
    cases h
  managed address name h := by
    rw [empty, ExtTreeMap.getElem?_empty] at h
    cases h

variable {store next : Store} {address holder : String}

theorem Sound.extend (sound : store.Sound) (h : store.Extends next) : next.Sound where
  named name found hf := by
    cases hn : store.get? name with
    | none => exact (h.joined name found hn hf).1
    | some node =>
        obtain ⟨still, hs, identity⟩ := h.kept name node hn
        rw [hf, Option.some.injEq] at hs
        subst hs
        exact (congrArg Identity.name identity).trans (sound.named name node hn)
  managed address name hm := by
    cases hs : store.management[address]? with
    | none => exact (h.taken address name hs hm).2
    | some holder =>
        have same := h.held address holder hs
        rw [hm, Option.some.injEq] at same
        subst same
        obtain ⟨node, hn, own⟩ := sound.managed address name hs
        obtain ⟨found, hf, identity⟩ := h.kept name node hn
        exact ⟨found, hf, (congrArg Identity.managementAddress identity).trans own⟩

theorem Sound.management_perform_delete (sound : store.Sound) (name address : String) :
    (store.perform (.delete name)).management[address]? =
      store.management[address]?.filter (· != name) := by
  cases hn : store.get? name with
  | none =>
      rw [perform_delete_of_absent hn]
      cases hm : store.management[address]? with
      | none => rfl
      | some holder =>
          have other : holder ≠ name := by
            intro same
            obtain ⟨node, h, -⟩ := sound.managed address holder hm
            rw [same, hn] at h
            cases h
          exact (Option.filter_eq_some_iff.2 ⟨rfl, by simpa using other⟩).symm
  | some node =>
      have h := delete_eq_ok_iff.2 ⟨hn, rfl⟩
      rw [perform_delete h, management_of_delete h, Index.getElem?_release]

theorem Sound.delete (sound : store.Sound) (name : String) :
    (store.perform (.delete name)).Sound where
  named other node hn := by
    rw [get?_perform_delete] at hn
    split_ifs at hn
    exact sound.named other node hn
  managed address holder hm := by
    rw [sound.management_perform_delete, Option.filter_eq_some_iff] at hm
    obtain ⟨hm, other⟩ := hm
    obtain ⟨node, hn, own⟩ := sound.managed address holder hm
    refine ⟨node, ?_, own⟩
    rw [get?_perform_delete, if_neg (Ne.symm (bne_iff_ne.1 other)), hn]

theorem Sound.perform (sound : store.Sound) (operation : Operation) :
    (store.perform operation).Sound := by
  rcases delete_or_extends store operation with ⟨name, rfl⟩ | extension
  · exact sound.delete name
  · exact sound.extend extension

theorem sound_after (operations : List Operation) : (after operations).Sound := by
  induction operations using List.reverseRecOn with
  | nil => exact sound_empty
  | append_singleton operations operation ih =>
      rw [after_concat]
      exact ih.perform operation

theorem Sound.held_perform (sound : store.Sound) {operation : Operation}
    (held : store.management[address]? = some holder) (stays : operation ≠ .delete holder) :
    (store.perform operation).management[address]? = some holder := by
  rcases delete_or_extends store operation with ⟨name, rfl⟩ | extension
  · have other : holder ≠ name := fun same => stays (congrArg _ same.symm)
    rw [sound.management_perform_delete, held]
    exact Option.filter_eq_some_iff.2 ⟨rfl, by simpa using other⟩
  · exact extension.held address holder held

theorem held_after (operations more : List Operation)
    (held : (after operations).management[address]? = some holder)
    (stays : .delete holder ∉ more) :
    (after (operations ++ more)).management[address]? = some holder := by
  induction more using List.reverseRecOn with
  | nil => rwa [List.append_nil]
  | append_singleton more operation ih =>
      rw [List.mem_append, not_or, List.mem_singleton] at stays
      rw [← List.append_assoc, after_concat]
      exact (sound_after _).held_perform (ih stays.1) (Ne.symm stays.2)

/-- After any history the nodes go by their own names, the management index leads to nodes that have
the addresses, and a holder keeps an address whatever is done but its deletion. -/
theorem management_sound_and_stable (operations : List Operation) :
    (after operations).Named ∧
      (∀ (address : String) name, (after operations).management[address]? = some name →
        ∃ node, (after operations).get? name = some node ∧ node.managementAddress = address) ∧
      ∀ (address : String) holder, (after operations).management[address]? = some holder →
        ∀ more, .delete holder ∉ more →
          (after (operations ++ more)).management[address]? = some holder := by
  have sound := sound_after operations
  exact ⟨sound.named, sound.managed, fun address holder held more => held_after operations more held⟩

/-- Another node comes with an address that is held, is deleted and comes again under the name of the
holder, and nothing of this moves the address. -/
theorem management_stable_shared :
    let history : List Operation := [.add ⟨1, "a", "", "10.20.0.2"⟩, .add ⟨2, "b", "", "10.20.0.2"⟩]
    let more : List Operation := [.delete "b", .add ⟨3, "a", "", "10.20.0.9"⟩,
      .seed [⟨4, "c", "", "10.20.0.2"⟩, ⟨5, "a", "", "10.20.0.2"⟩], .delete "d"]
    (after history).management["10.20.0.2"]? = some "a" ∧
      (after (history ++ more)).management["10.20.0.2"]? = some "a" := by
  intro history more
  have held : (after history).management["10.20.0.2"]? = some "a" := by decide
  have stays : .delete "a" ∉ more := by simp [more]
  obtain ⟨-, -, stable⟩ := management_sound_and_stable history
  exact ⟨held, stable "10.20.0.2" "a" held more stays⟩

def Brings (store : Store) (address : String) (operation : Operation) : Prop :=
  ∃ name node, store.get? name = none ∧ (store.perform operation).get? name = some node ∧
    node.managementAddress = address

/-- The holder of an address has been deleted, and no node has come with the address since. -/
inductive Vacated (address : String) : List Operation → Prop
  | left {operations : List Operation} {holder : String} :
      (after operations).management[address]? = some holder →
      Vacated address (operations ++ [.delete holder])
  | unclaimed {operations : List Operation} {operation : Operation} :
      Vacated address operations → ¬ (after operations).Brings address operation →
      Vacated address (operations ++ [operation])

theorem Sound.brings_of_held (sound : store.Sound) {operation : Operation}
    (free : store.management[address]? = none)
    (held : (store.perform operation).management[address]? = some holder) :
    store.Brings address operation := by
  rcases delete_or_extends store operation with ⟨name, rfl⟩ | extension
  · rw [sound.management_perform_delete, free] at held
    cases held
  · obtain ⟨absent, node, hn, own⟩ := extension.taken address holder free held
    exact ⟨holder, node, absent, hn, own⟩

theorem Brings.held {operation : Operation} (brings : store.Brings address operation) :
    ∃ holder, (store.perform operation).management[address]? = some holder := by
  obtain ⟨name, node, absent, hn, own⟩ := brings
  rcases delete_or_extends store operation with ⟨other, rfl⟩ | extension
  · rw [get?_perform_delete, absent] at hn
    split_ifs at hn
  · obtain ⟨-, holder, held⟩ := extension.joined name node absent hn
    exact ⟨holder, own ▸ held⟩

theorem Vacated.free {operations : List Operation} (vacated : Vacated address operations) :
    (after operations).management[address]? = none := by
  induction vacated with
  | @left operations holder held =>
      rw [after_concat, (sound_after operations).management_perform_delete, held]
      simp
  | @unclaimed operations operation _ unbrought ih =>
      rw [after_concat]
      by_contra present
      obtain ⟨holder, held⟩ := Option.ne_none_iff_exists'.1 present
      exact unbrought ((sound_after operations).brings_of_held ih held)

theorem exists_get?_of_not_brings {operation : Operation} {name : String} {node : Node}
    (hn : (store.perform operation).get? name = some node)
    (unbrought : ¬ store.Brings node.managementAddress operation) :
    ∃ earlier, store.get? name = some earlier ∧
      earlier.managementAddress = node.managementAddress := by
  cases hs : store.get? name with
  | none => exact absurd ⟨name, node, hs, hn, rfl⟩ unbrought
  | some earlier =>
      refine ⟨earlier, rfl, ?_⟩
      rcases delete_or_extends store operation with ⟨other, rfl⟩ | extension
      · rw [get?_perform_delete, hs] at hn
        split_ifs at hn
        cases hn
        rfl
      · obtain ⟨found, hf, identity⟩ := extension.kept name earlier hs
        rw [hn, Option.some.injEq] at hf
        subst hf
        exact (congrArg Identity.managementAddress identity).symm

theorem vacated_of_free {operations : List Operation} {name : String} {node : Node}
    (stored : (after operations).get? name = some node)
    (free : (after operations).management[node.managementAddress]? = none) :
    Vacated node.managementAddress operations := by
  -- By induction on the history: the last operation has brought the address, or the node was there
  -- before it and its address was free already or has just been released.
  induction operations using List.reverseRecOn generalizing name node with
  | nil =>
      rw [after, List.foldl_nil, get?_empty] at stored
      cases stored
  | append_singleton operations operation ih =>
      rw [after_concat] at stored free
      have unbrought : ¬ (after operations).Brings node.managementAddress operation := by
        intro brings
        obtain ⟨holder, held⟩ := brings.held
        rw [free] at held
        cases held
      obtain ⟨earlier, he, own⟩ := exists_get?_of_not_brings stored unbrought
      cases hm : (after operations).management[node.managementAddress]? with
      | none => exact .unclaimed (own ▸ ih he (own ▸ hm)) unbrought
      | some holder =>
          have deleted : operation = .delete holder := by
            by_contra stays
            rw [(sound_after operations).held_perform hm stays] at free
            cases free
          rw [deleted]
          exact .left hm

theorem Vacated.byManagement_eq_none {operations : List Operation}
    (vacated : Vacated address operations) : (after operations).byManagement address = none := by
  rw [byManagement, lookup, vacated.free]
  rfl

/-- The address of a stored node leads to a node that has it, unless the node that held it has been
deleted and no node has come with the address since. In that case it leads nowhere. -/
theorem byManagement_unless_vacated (operations : List Operation) {name : String} {node : Node}
    (stored : (after operations).get? name = some node) :
    (¬ Vacated node.managementAddress operations →
        ∃ found ∈ (after operations).all,
          (after operations).byManagement node.managementAddress = some found ∧
            found.managementAddress = node.managementAddress) ∧
      (Vacated node.managementAddress operations →
        (after operations).byManagement node.managementAddress = none) := by
  refine ⟨fun occupied => ?_, Vacated.byManagement_eq_none⟩
  cases hm : (after operations).management[node.managementAddress]? with
  | none => exact absurd (vacated_of_free stored hm) occupied
  | some holder =>
      obtain ⟨found, hf, own⟩ := (sound_after operations).managed _ holder hm
      exact ⟨found, mem_all_iff.2 ⟨holder, hf⟩, lookup_eq_some_iff.2 ⟨holder, hm, hf⟩, own⟩

def heir : Node := .ofIdentity ⟨2, "b", "", "10.20.0.2"⟩

/-- Two nodes with one address, of which the holder is deleted. -/
def orphaned : List Operation :=
  [.add ⟨1, "a", "", "10.20.0.2"⟩, .add ⟨2, "b", "", "10.20.0.2"⟩, .delete "a"]

theorem get?_orphaned : (after orphaned).get? "b" = some heir := by decide

theorem vacated_orphaned : Vacated heir.managementAddress orphaned := by
  have held : (after (orphaned.take 2)).management[heir.managementAddress]? = some "a" := by decide
  exact .left held

/-- The address of the node that is left leads nowhere, until a third node comes with it. -/
theorem byManagement_orphaned :
    let third : Identity := ⟨3, "c", "", "10.20.0.2"⟩
    let restored := orphaned ++ [.add third]
    (after orphaned).byManagement "10.20.0.2" = none ∧
      ∃ found ∈ (after restored).all, (after restored).byManagement "10.20.0.2" = some found ∧
        found.managementAddress = "10.20.0.2" := by
  intro third restored
  have stored : (after restored).get? "b" = some heir := by decide
  have occupied : ¬ Vacated heir.managementAddress restored := by
    intro vacated
    have brings : (after orphaned).Brings heir.managementAddress (.add third) :=
      ⟨"c", .ofIdentity third, by decide, by decide, rfl⟩
    obtain ⟨holder, held⟩ := brings.held
    rw [← after_concat, vacated.free] at held
    cases held
  exact ⟨(byManagement_unless_vacated orphaned get?_orphaned).2 vacated_orphaned,
    (byManagement_unless_vacated restored stored).1 occupied⟩

/-- The deletion of a holder leaves a node that cannot be found by its address. -/
theorem not_every_address_found :
    ¬ ∀ operations name node, (after operations).get? name = some node →
      ∃ found ∈ (after operations).all,
        (after operations).byManagement node.managementAddress = some found ∧
          found.managementAddress = node.managementAddress := by
  intro always
  obtain ⟨found, -, hf, -⟩ := always orphaned "b" heir get?_orphaned
  rw [vacated_orphaned.byManagement_eq_none] at hf
  cases hf

end Store

end FabricSurvey
