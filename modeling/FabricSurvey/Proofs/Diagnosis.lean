import FabricSurvey.Proofs.Ownership

/-!
# What validation says about each node

The verdict and the diagnostics come out of one walk over the names. If no node has learned a
contradictory entry, the walk goes to its end: the nodes that are left without a corroborated entry
are unconfirmed, and each of them gets one message. Otherwise it ends at the first node that has one,
with one message on that node.
-/

namespace FabricSurvey

open Std (ExtTreeMap)

theorem messagesOn_map_eq_replicate (names : List String) (message name : String) :
    messagesOn (names.map fun name => (name, message)) name =
      List.replicate (names.count name) message := by
  have on_name : (fun note : Note => decide (note.1 = name)) ∘ (fun name => (name, message)) =
      fun other => decide (other = name) := rfl
  rw [messagesOn, List.filter_map, on_name, List.filter_eq, List.map_map, List.map_replicate]
  rfl

theorem messagesOn_map {names : List String} (once : names.Nodup) (message name : String) :
    messagesOn (names.map fun name => (name, message)) name =
      if name ∈ names then [message] else [] := by
  rw [messagesOn_map_eq_replicate, once.count]
  split <;> rfl

theorem noteAll_eq_empty_iff {notes : List Note} : noteAll ∅ notes = ∅ ↔ notes = [] := by
  constructor
  · intro unnoted
    apply List.eq_nil_iff_forall_not_mem.2
    intro note noted
    have entry : note.1 ∈ noteAll ∅ notes := mem_noteAll_iff.2 (.inr ⟨note, noted, rfl⟩)
    rw [unnoted] at entry
    exact ExtTreeMap.not_mem_empty entry
  · intro h
    rw [h]
    rfl

namespace Validation

variable {settings : ValidationSettings} {store : Store} {nodes : ExtTreeMap String Node}
  {names : List String} {name : String}

/-- Some entry that a node has learned on its loopback has both its addresses with one owner. -/
def Corroborated (settings : ValidationSettings) (nodes : ExtTreeMap String Node)
    (names : List String) (name : String) : Prop :=
  ∃ entry owner, Learned settings nodes name entry ∧
    owner? settings nodes names .mac entry.macAddress = some owner ∧
    owner? settings nodes names .ip (ipKey settings entry) = some owner

theorem resolves_iff_exists_owner {entry : ArpEntry}
    (consistent : ¬ Contradicts settings nodes names entry) :
    Resolves settings nodes names entry ↔
      ∃ owner, owner? settings nodes names .mac entry.macAddress = some owner ∧
        owner? settings nodes names .ip (ipKey settings entry) = some owner := by
  constructor
  · intro h
    obtain ⟨⟨byMAC, mac⟩, byIP, ip⟩ := h
    have same : byMAC = byIP := by
      by_contra different
      exact consistent ⟨byMAC, byIP, mac, ip, different⟩
    exact ⟨byMAC, mac, same ▸ ip⟩
  · intro h
    obtain ⟨owner, mac, ip⟩ := h
    exact ⟨⟨owner, mac⟩, owner, ip⟩

theorem mem_unconfirmed_iff_not_corroborated (named : store.Named)
    (valid : (run settings store names).2.valid = true) :
    name ∈ (run settings store names).2.unconfirmed ↔
      name ∈ store.names ∧ ¬ (name ∈ names ∧ Corroborated settings store.nodes names name) := by
  have resolves {entry : ArpEntry} (listed : name ∈ names)
      (learned : Learned settings store.nodes name entry) :=
    resolves_iff_exists_owner (not_contradicts_of_valid named valid listed learned)
  rw [mem_unconfirmed_run_iff valid]
  refine and_congr_right fun _ => not_congr (and_congr_right fun listed => ?_)
  constructor
  · intro h
    obtain ⟨entry, learned, resolved⟩ := h
    obtain ⟨owner, mac, ip⟩ := (resolves listed learned).1 resolved
    exact ⟨entry, owner, learned, mac, ip⟩
  · intro h
    obtain ⟨entry, owner, learned, mac, ip⟩ := h
    exact ⟨entry, learned, (resolves listed learned).2 ⟨owner, mac, ip⟩⟩

theorem pairwise_unconfirmed_run (valid : (run settings store names).2.valid = true) :
    (run settings store names).2.unconfirmed.Pairwise (· < ·) := by
  rw [unconfirmed_run valid]
  have ascending := (populate settings store names).1.names_ascending
  exact (ascending.filter _).imp compareOfLessAndEq_eq_lt.1

theorem not_learned_of_without (without : WithoutLoopback settings nodes name) (entry : ArpEntry) :
    ¬ Learned settings nodes name entry := by
  intro learned
  obtain ⟨node, interface, stored, loopback, -, -⟩ := learned
  have lacks := lacksLoopback_iff.2 without
  rw [lacksLoopback_of_loopback (Option.bind_eq_some_iff.2 ⟨node, stored, loopback⟩)] at lacks
  cases lacks

theorem missingLoopback_subset_unconfirmed (valid : (run settings store names).2.valid = true) :
    (run settings store names).2.missingLoopback ⊆ (run settings store names).2.unconfirmed := by
  intro name missing
  rw [missingLoopback_run, List.mem_filter, lacksLoopback_iff] at missing
  have without := missing.2
  obtain ⟨node, stored, -⟩ := missing.2
  apply (mem_unconfirmed_run_iff valid).2
  refine ⟨Store.mem_names_iff.2 ⟨node, stored⟩, fun confirmed => ?_⟩
  obtain ⟨-, entry, learned, -⟩ := confirmed
  exact not_learned_of_without without entry learned

theorem getElem?_diagnostics_run (valid : (run settings store names).2.valid = true)
    (name : String) :
    (run settings store names).1.diagnostics[name]? =
      if name ∈ (run settings store names).2.unconfirmed then
        some ((populate settings store names).1.noted name ++ [unconfirmedMessage])
      else (populate settings store names).1.diagnostics[name]? := by
  have once : (unconfirmed settings (populate settings store names).1 names).Nodup :=
    ExtTreeMap.nodup_keys.filter _
  rw [run_of_consistent (consistent_of_valid valid), Store.recordAll, getElem?_noteAll,
    messagesOn_map once]
  split <;> simp [Store.noted]

/-- If the verdict is positive, the unconfirmed nodes are the stored ones without a corroborated entry,
in ascending order, and each of them gets one message more than populating has noted. All nodes without
a loopback are among them. If the verdict is negative, no node is called unconfirmed. -/
theorem unconfirmed_uncorroborated (settings : ValidationSettings) {store : Store}
    (named : store.Named) (names : List String) :
    let populated := (populate settings store names).1
    let after := (run settings store names).1
    let verdict := (run settings store names).2
    (verdict.valid = true →
      verdict.unconfirmed.Pairwise (· < ·) ∧
      (∀ name, name ∈ verdict.unconfirmed ↔
        name ∈ store.names ∧ ¬ (name ∈ names ∧ Corroborated settings store.nodes names name)) ∧
      verdict.missingLoopback ⊆ verdict.unconfirmed ∧
      ∀ name, after.diagnostics[name]? =
        if name ∈ verdict.unconfirmed then some (populated.noted name ++ [unconfirmedMessage])
        else populated.diagnostics[name]?) ∧
    (verdict.valid = false → verdict.unconfirmed = []) := by
  intro populated after verdict
  constructor
  · intro valid
    exact ⟨pairwise_unconfirmed_run valid, fun name => mem_unconfirmed_iff_not_corroborated named valid,
      missingLoopback_subset_unconfirmed valid, getElem?_diagnostics_run valid⟩
  · intro invalid
    obtain ⟨note, mismatch⟩ := exists_mismatch_of_invalid invalid
    simp only [verdict, run_of_mismatch mismatch]

/-- The first node has learned the addresses of the second, after an entry of which only one address
has an owner. The second has learned those of the first on another interface, the third has no
loopback, and the fourth is not looked at. -/
def partlyConfirmed : Store :=
  { Store.empty with nodes := ExtTreeMap.ofList [
    ("a", member 1 "a" "0a" "10.1.0.1/24"
      [⟨1, "10.1.0.7", "0b", false⟩, ⟨1, "10.1.0.2", "0b", false⟩]),
    ("b", member 2 "b" "0b" "10.1.0.2/24" [⟨1, "10.1.0.1", "0a", false⟩]),
    ("c", .ofIdentity ⟨3, "c", "", "c"⟩),
    ("d", member 4 "d" "0d" "10.1.0.4/24" [⟨4, "10.1.0.2", "0b", false⟩])] }

theorem unconfirmed_partlyConfirmed :
    let names := ["c", "a", "ghost", "b"]
    let after := (run {} partlyConfirmed names).1
    let verdict := (run {} partlyConfirmed names).2
    partlyConfirmed.Named ∧ verdict = ⟨true, ["b", "c", "d"], ["c"]⟩ ∧
      Corroborated {} partlyConfirmed.nodes names "a" ∧
      ¬ Corroborated {} partlyConfirmed.nodes names "b" ∧
      after.diagnostics["d"]? = some [unconfirmedMessage] ∧ after.diagnostics["a"]? = none := by
  intro names after verdict
  have named : partlyConfirmed.Named := by decide
  have concluded : verdict = ⟨true, ["b", "c", "d"], ["c"]⟩ := by decide
  have valid : verdict.valid = true := by rw [concluded]
  have unconfirmed : verdict.unconfirmed = ["b", "c", "d"] := by rw [concluded]
  obtain ⟨-, exactly, -, noted⟩ := (unconfirmed_uncorroborated {} named names).1 valid
  refine ⟨named, concluded, ?_, fun corroborated => ?_, ?_, ?_⟩
  · have confirmed : ¬ ("a" ∈ partlyConfirmed.names ∧ ¬ ("a" ∈ names ∧
        Corroborated {} partlyConfirmed.nodes names "a")) := by
      rw [← exactly, unconfirmed]
      decide
    by_contra uncorroborated
    exact confirmed ⟨by decide, fun h => uncorroborated h.2⟩
  · have pending : "b" ∈ verdict.unconfirmed := by
      rw [unconfirmed]
      decide
    exact ((exactly "b").1 pending).2 ⟨by decide, corroborated⟩
  · rw [noted, unconfirmed]
    decide
  · rw [noted, unconfirmed]
    decide

theorem mismatch?_eq_some {entry : ArpEntry} {message : String}
    (h : mismatch? settings store entry = some message) :
    ∃ byMAC byIP, resolve? settings store entry = some (byMAC, byIP) ∧ byMAC.name ≠ byIP.name ∧
      message = mismatchMessage entry byMAC byIP := by
  obtain ⟨⟨byMAC, byIP⟩, resolved, h⟩ := Option.bind_eq_some_iff.1 h
  dsimp only at h
  split_ifs at h with same
  exact ⟨byMAC, byIP, resolved, same, (Option.some.inj h).symm⟩

/-- The note of a mismatch is on the node that has learned the entry, and tells the two owners of its
addresses. -/
theorem Entered.nodeMismatch?_eq_some {state : Store × List String}
    (h : Entered settings store names state) (named : store.Named) {note : Note}
    (found : nodeMismatch? settings state.1 name = some note) :
    ∃ entry byMAC byIP, Learned settings store.nodes name entry ∧
      owner? settings store.nodes names .mac entry.macAddress = some byMAC.name ∧
      owner? settings store.nodes names .ip (ipKey settings entry) = some byIP.name ∧
      byMAC.name ≠ byIP.name ∧ note = (name, mismatchMessage entry byMAC byIP) := by
  obtain ⟨node, stored, found⟩ := Option.bind_eq_some_iff.1 found
  obtain ⟨message, found, noted⟩ := Option.bind_eq_some_iff.1 found
  obtain ⟨entry, listed, mismatch⟩ := List.exists_of_findSome?_eq_some found
  obtain ⟨byMAC, byIP, resolved, different, rfl⟩ := mismatch?_eq_some mismatch
  obtain ⟨interface, loopback, learned, on_loopback⟩ := mem_loopbackEntries_iff.1 listed
  obtain ⟨mac, ip⟩ := resolve?_eq_some_iff.1 resolved
  have owned {kind : AddressKind} {address : String} {found : Node}
      (led : state.1.byLoopback kind address = some found) :
      owner? settings store.nodes names kind address = some found.name := by
    obtain ⟨owner, first, at_owner⟩ := h.byLoopback_eq_some_iff.1 led
    rw [named owner found at_owner, first]
  rw [Store.get?, h.nodes] at stored
  exact ⟨entry, byMAC, byIP, ⟨node, interface, stored, loopback, learned, on_loopback⟩,
    owned mac, owned ip, different, (Option.some.inj noted).symm⟩

theorem run_of_invalid (named : store.Named)
    (invalid : (run settings store names).2.valid = false) :
    ∃ name entry byMAC byIP,
      IsFirst (fun name => ∃ entry, Learned settings store.nodes name entry ∧
        Contradicts settings store.nodes names entry) names name ∧
      Learned settings store.nodes name entry ∧
      owner? settings store.nodes names .mac entry.macAddress = some byMAC.name ∧
      owner? settings store.nodes names .ip (ipKey settings entry) = some byIP.name ∧
      byMAC.name ≠ byIP.name ∧
      (run settings store names).1 =
        (populate settings store names).1.record name (mismatchMessage entry byMAC byIP) := by
  have entered := entered_populate settings store names
  obtain ⟨note, mismatch⟩ := exists_mismatch_of_invalid invalid
  obtain ⟨name, first, found⟩ := isFirst_of_findSome? mismatch
  obtain ⟨entry, byMAC, byIP, learned, mac, ip, different, rfl⟩ :=
    entered.nodeMismatch?_eq_some named found
  refine ⟨name, entry, byMAC, byIP, ?_, learned, mac, ip, different, ?_⟩
  · exact (isFirst_congr fun name => entered.isSome_nodeMismatch?_iff named name).1 first
  · rw [run_of_mismatch mismatch]

theorem findings_eq_nil_iff :
    findings settings (populate settings store names).1 names = [] ↔
      (run settings store names).2.valid = true ∧ (run settings store names).2.unconfirmed = [] := by
  unfold findings
  cases walk : names.findSome? (nodeMismatch? settings (populate settings store names).1) with
  | some note => simp [run_of_mismatch walk]
  | none => simp [run_of_consistent walk]

theorem diagnostics_run_eq_empty_iff (clean : store.diagnostics = ∅) :
    (run settings store names).1.diagnostics = ∅ ↔
      (run settings store names).2.valid = true ∧ (run settings store names).2.unconfirmed = [] ∧
        Unshared settings store.nodes names := by
  rw [diagnostics_run_eq, clean, noteAll_eq_empty_iff, List.append_eq_nil_iff,
    notesAfter_eq_nil_iff, findings_eq_nil_iff]
  constructor
  · intro h
    obtain ⟨⟨-, unshared⟩, valid, confirmed⟩ := h
    exact ⟨valid, confirmed, unshared⟩
  · intro h
    obtain ⟨valid, confirmed, unshared⟩ := h
    refine ⟨⟨fun name listed without => ?_, unshared⟩, valid, confirmed⟩
    have missing : name ∈ (run settings store names).2.missingLoopback := by
      rw [missingLoopback_run, List.mem_filter, lacksLoopback_iff]
      exact ⟨listed, without⟩
    have pending := missingLoopback_subset_unconfirmed valid missing
    rw [confirmed] at pending
    cases pending

theorem mem_nodes_of_noted (clean : store.diagnostics = ∅)
    (noted : name ∈ (run settings store names).1.diagnostics) : name ∈ store.nodes := by
  rw [diagnostics_run_eq, clean, mem_noteAll_iff, or_iff_right ExtTreeMap.not_mem_empty] at noted
  obtain ⟨note, made, rfl⟩ := noted
  apply Store.mem_nodes_iff.2
  rcases List.mem_append.1 made with populated | found
  · exact (faulty_of_mem_notesAfter populated).2.exists_node
  · rw [Store.get?, ← (entered_populate settings store names).nodes]
    exact exists_node_of_mem_findings found

/-- Something is noted on stored nodes alone, and nothing at all exactly if the verdict is positive, no
node is unconfirmed and no address is shared. A negative verdict comes with one message more than those
of populating, on the first node that has learned a contradictory entry. -/
theorem diagnostics_match_verdict (settings : ValidationSettings) {store : Store}
    (named : store.Named) (clean : store.diagnostics = ∅) (names : List String) :
    let populated := (populate settings store names).1
    let after := (run settings store names).1
    let verdict := (run settings store names).2
    (∀ name ∈ after.diagnostics, name ∈ store.nodes) ∧
    (after.diagnostics = ∅ ↔ verdict.valid = true ∧ verdict.unconfirmed = [] ∧
      Unshared settings store.nodes names) ∧
    (verdict.valid = false → ∃ name entry byMAC byIP,
      IsFirst (fun name => ∃ entry, Learned settings store.nodes name entry ∧
        Contradicts settings store.nodes names entry) names name ∧
      Learned settings store.nodes name entry ∧
      owner? settings store.nodes names .mac entry.macAddress = some byMAC.name ∧
      owner? settings store.nodes names .ip (ipKey settings entry) = some byIP.name ∧
      byMAC.name ≠ byIP.name ∧
      after = populated.record name (mismatchMessage entry byMAC byIP)) := by
  intro populated after verdict
  exact ⟨fun name => mem_nodes_of_noted clean, diagnostics_run_eq_empty_iff clean,
    run_of_invalid named⟩

def acquainted : Store :=
  { Store.empty with nodes := ExtTreeMap.ofList [
    ("a", member 1 "a" "0a" "10.1.0.1/24" [⟨1, "10.1.0.2", "0b", false⟩]),
    ("b", member 2 "b" "0b" "10.1.0.2/24" [⟨2, "10.1.0.1", "0a", false⟩])] }

/-- The node that has learned the shared address gets the message, although it is named last, while
nothing is noted on nodes that confirm each other. -/
theorem diagnostics_sharedAddress :
    let names := ["c", "b", "a"]
    sharedAddress.Named ∧ sharedAddress.diagnostics = ∅ ∧
      (run {} sharedAddress names).2.valid = false ∧
      (∃ message, (run {} sharedAddress names).1 =
        (populate {} sharedAddress names).1.record "a" message) ∧
      acquainted.Named ∧ (run {} acquainted ["b", "a"]).1.diagnostics = ∅ := by
  intro names
  have named : sharedAddress.Named := by decide
  have valid : (run {} sharedAddress names).2.valid = false := by decide
  obtain ⟨-, -, mismatch⟩ := diagnostics_match_verdict {} named rfl names
  obtain ⟨name, entry, byMAC, byIP, -, learned, -, -, -, recorded⟩ := mismatch valid
  have learner : ∀ stored ∈ sharedAddress.nodes.toList,
      stored.2.arpEntries ≠ [] → stored.1 = "a" := by decide
  obtain ⟨node, interface, stored, -, listed, -⟩ := learned
  have at_a : name = "a" :=
    learner (name, node) (Store.mem_toList_nodes_iff.2 stored) (List.ne_nil_of_mem listed)
  subst at_a
  have acquainted_named : acquainted.Named := by decide
  obtain ⟨-, silent, -⟩ := diagnostics_match_verdict {} acquainted_named rfl ["b", "a"]
  exact ⟨named, rfl, valid, ⟨_, recorded⟩, acquainted_named,
    silent.2 ⟨by decide, by decide, by decide⟩⟩

end Validation

end FabricSurvey
