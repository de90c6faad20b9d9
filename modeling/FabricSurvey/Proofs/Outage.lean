import FabricSurvey.Proofs.Pass
import FabricSurvey.Proofs.Verdict

/-!
# Failures in place of payloads

A fetch that fails leaves nothing where its payload would have been. If no address is shared, the
addresses that are left keep their owners and no entry can contradict another one that did not do so
before: failures hide what is there and accuse nobody. The nodes that could not be confirmed, or had
no loopback, stay so.
-/

namespace FabricSurvey

open Std (ExtTreeMap)

namespace Report

/-- The second report is the first, or a failure in place of its payload, which was of the category
that had been asked for. -/
inductive Degrades : Report → Report → Prop
  | same (report : Report) : Degrades report report
  | lost (node : String) (payload : Payload) (cause : FetchError) :
      Degrades ⟨node, payload.category, .ok payload⟩ ⟨node, payload.category, .error cause⟩

end Report

namespace Node

/-- The second node is the first, without what it has of some categories. -/
structure Reduced (whole rest : Node) : Prop where
  identity : rest.identity = whole.identity
  holding : ∀ category,
    rest.holding category = whole.holding category ∨ rest.holding category = .empty category

theorem Reduced.refl (node : Node) : node.Reduced node := ⟨rfl, fun _ => .inl rfl⟩

variable {categories : List Category} {name : String} {whole rest : Node}

theorem Reduced.receive (h : whole.Reduced rest) {first second : Report}
    (degrades : first.Degrades second) :
    (whole.receive categories name first).Reduced (rest.receive categories name second) := by
  refine ⟨by rw [identity_receive, identity_receive, h.identity], fun category => ?_⟩
  -- The two reports agree on node and category, so that both are taken or neither is.
  cases degrades with
  | same =>
      unfold Node.receive
      split_ifs
      · rw [holding_put, holding_put]
        split_ifs
        · exact .inl rfl
        · exact h.holding category
      · exact h.holding category
  | lost node payload cause =>
      unfold Node.receive
      split_ifs
      · rw [holding_put, holding_put]
        simp only [Report.holding, Payload.category_holding, Holding.category_empty]
        split_ifs with hc
        · exact .inr (congrArg Holding.empty hc)
        · exact h.holding category
      · exact h.holding category

theorem Reduced.interfaces (h : whole.Reduced rest) :
    rest.interfaces = whole.interfaces ∨ rest.interfaces = [] := by
  have h := h.holding .interfaces
  simpa only [Node.holding, Holding.empty, Holding.interfaces.injEq] using h

theorem Reduced.arpEntries (h : whole.Reduced rest) :
    rest.arpEntries = whole.arpEntries ∨ rest.arpEntries = [] := by
  have h := h.holding .arp
  simpa only [Node.holding, Holding.empty, Holding.arp.injEq] using h

end Node

/-- The same nodes by name, each of them without what it has of some categories. -/
def ReducedNodes (nodes fewer : ExtTreeMap String Node) : Prop :=
  ∀ name : String, Option.Rel Node.Reduced nodes[name]? fewer[name]?

namespace ReducedNodes

variable {nodes fewer : ExtTreeMap String Node} {name : String}

theorem exists_whole (reduced : ReducedNodes nodes fewer) {rest : Node}
    (h : fewer[name]? = some rest) : ∃ whole, nodes[name]? = some whole ∧ whole.Reduced rest :=
  Nodewise.exists_left reduced h

theorem exists_rest (reduced : ReducedNodes nodes fewer) {whole : Node}
    (h : nodes[name]? = some whole) : ∃ rest, fewer[name]? = some rest ∧ whole.Reduced rest :=
  Nodewise.exists_right reduced h

end ReducedNodes

/-- Two passes with the same reports, but for failures in the second one. -/
theorem Pass.reducedNodes_run (categories : List Category) (store : Store) (names : List String)
    {reports fewer : List Report} (degraded : List.Forall₂ Report.Degrades reports fewer) :
    ReducedNodes (run categories store names reports).store.nodes
      (run categories store names fewer).store.nodes :=
  nodewise_run Node.Reduced.refl (fun reduced degrades => reduced.receive degrades) store names degraded

namespace Validation

variable {settings : ValidationSettings} {nodes fewer : ExtTreeMap String Node}
  {names : List String} {name : String}

theorem loopback?_of_reduced {whole rest : Node} (h : whole.Reduced rest) {interface : Interface}
    (hl : loopback? settings rest = some interface) :
    loopback? settings whole = some interface := by
  unfold loopback? Node.internal? at hl ⊢
  rcases h.interfaces with same | gone
  · rwa [same] at hl
  · rw [gone] at hl
    cases hl

section Reduced

variable (reduced : ReducedNodes nodes fewer)

include reduced

theorem loopbackOf?_of_reduced {interface : Interface}
    (h : loopbackOf? settings fewer name = some interface) :
    loopbackOf? settings nodes name = some interface := by
  obtain ⟨rest, hr, hl⟩ := Option.bind_eq_some_iff.1 h
  obtain ⟨whole, hw, h⟩ := reduced.exists_whole hr
  exact Option.bind_eq_some_iff.2 ⟨whole, hw, loopback?_of_reduced h hl⟩

theorem advertises_of_reduced {kind : AddressKind} {address : String}
    (h : advertises settings fewer kind address name) :
    advertises settings nodes kind address name := by
  obtain ⟨interface, hl, hi⟩ := advertises_iff.1 h
  exact advertises_iff.2 ⟨interface, loopbackOf?_of_reduced reduced hl, hi⟩

/-- An address that is left has the owner that it had, as no other name can have it. -/
theorem owner?_of_reduced (unshared : Unshared settings nodes names) {kind : AddressKind}
    {address owner : String} (h : owner? settings fewer names kind address = some owner) :
    owner? settings nodes names kind address = some owner := by
  obtain ⟨hm, ha⟩ := owner?_eq_some h
  exact unshared.owner?_eq_some_iff.2 ⟨hm, advertises_of_reduced reduced ha⟩

theorem learned_of_reduced {entry : ArpEntry} (h : Learned settings fewer name entry) :
    Learned settings nodes name entry := by
  obtain ⟨rest, interface, hr, hl, hm, hi⟩ := h
  obtain ⟨whole, hw, h⟩ := reduced.exists_whole hr
  rcases h.arpEntries with same | gone
  · exact ⟨whole, interface, hw, loopback?_of_reduced h hl, same ▸ hm, hi⟩
  · rw [gone] at hm
    cases hm

theorem contradicts_of_reduced (unshared : Unshared settings nodes names) {entry : ArpEntry}
    (h : Contradicts settings fewer names entry) : Contradicts settings nodes names entry := by
  obtain ⟨byMAC, byIP, hmac, hip, different⟩ := h
  exact ⟨byMAC, byIP, owner?_of_reduced reduced unshared hmac,
    owner?_of_reduced reduced unshared hip, different⟩

theorem resolves_of_reduced (unshared : Unshared settings nodes names) {entry : ArpEntry}
    (h : Resolves settings fewer names entry) : Resolves settings nodes names entry := by
  obtain ⟨⟨byMAC, hmac⟩, byIP, hip⟩ := h
  exact ⟨⟨byMAC, owner?_of_reduced reduced unshared hmac⟩,
    byIP, owner?_of_reduced reduced unshared hip⟩

theorem lacksLoopback_of_reduced (h : lacksLoopback settings nodes name) :
    lacksLoopback settings fewer name := by
  simp only [lacksLoopback, Option.any_eq_true] at h ⊢
  obtain ⟨whole, hw, lacks⟩ := h
  obtain ⟨rest, hr, h⟩ := reduced.exists_rest hw
  refine ⟨rest, hr, ?_⟩
  rw [Option.isNone_iff_eq_none] at lacks ⊢
  by_contra loopback
  obtain ⟨interface, hl⟩ := Option.ne_none_iff_exists'.1 loopback
  rw [loopback?_of_reduced h hl] at lacks
  cases lacks

end Reduced

section Runs

variable {whole rest : Store} (reduced : ReducedNodes whole.nodes rest.nodes)
  (unshared : Unshared settings whole.nodes names)
  (valid : (run settings whole names).2.valid = true)

include reduced

theorem missingLoopback_of_reduced :
    (run settings whole names).2.missingLoopback ⊆ (run settings rest names).2.missingLoopback := by
  rw [missingLoopback_run, missingLoopback_run]
  intro name hm
  rw [List.mem_filter] at hm ⊢
  exact ⟨hm.1, lacksLoopback_of_reduced reduced hm.2⟩

include unshared valid

theorem valid_of_reduced (named : whole.Named) (named' : rest.Named) :
    (run settings rest names).2.valid = true := by
  have after := entered_populate settings rest names
  by_contra h
  rw [Bool.not_eq_true, valid_run] at h
  obtain ⟨name, hm, mismatch⟩ := h
  obtain ⟨entry, learned, contradicts⟩ := (after.isSome_nodeMismatch?_iff named' name).1 mismatch
  exact not_contradicts_of_valid named valid hm (learned_of_reduced reduced learned)
    (contradicts_of_reduced reduced unshared contradicts)

theorem unconfirmed_of_reduced (valid' : (run settings rest names).2.valid = true) :
    (run settings whole names).2.unconfirmed ⊆ (run settings rest names).2.unconfirmed := by
  intro name hu
  rw [mem_unconfirmed_run_iff valid] at hu
  rw [mem_unconfirmed_run_iff valid']
  obtain ⟨stored, unresolved⟩ := hu
  constructor
  · obtain ⟨node, hn⟩ := Store.mem_names_iff.1 stored
    obtain ⟨left, hl, -⟩ := reduced.exists_rest hn
    exact Store.mem_names_iff.2 ⟨left, hl⟩
  · intro resolved
    obtain ⟨hm, entry, learned, resolves⟩ := resolved
    exact unresolved ⟨hm, entry, learned_of_reduced reduced learned,
      resolves_of_reduced reduced unshared resolves⟩

end Runs

/-- Failures in place of payloads raise no alarm where no address is shared, and every node that was
unconfirmed or without a loopback is so still. The streams need not be complete. -/
theorem failures_raise_no_alarm (settings : ValidationSettings) (categories : List Category)
    {store : Store} {reports fewer : List Report} (named : store.Named)
    (degraded : List.Forall₂ Report.Degrades reports fewer)
    (unshared : Unshared settings (Pass.run categories store names reports).store.nodes names)
    (valid : (run settings (Pass.run categories store names reports).store names).2.valid = true) :
    let before := (run settings (Pass.run categories store names reports).store names).2
    let after := (run settings (Pass.run categories store names fewer).store names).2
    after.valid = true ∧ before.unconfirmed ⊆ after.unconfirmed ∧
      before.missingLoopback ⊆ after.missingLoopback := by
  intro before after
  have reduced := Pass.reducedNodes_run categories store names degraded
  have kept (arrived : List Report) : (Pass.run categories store names arrived).store.Named :=
    named.of_identity (Pass.identity_run store names arrived)
  have valid' : after.valid = true :=
    valid_of_reduced reduced unshared valid (kept reports) (kept fewer)
  exact ⟨valid', unconfirmed_of_reduced reduced unshared valid valid',
    missingLoopback_of_reduced reduced⟩

def neighbours : Store :=
  { Store.empty with nodes := ExtTreeMap.ofList [
    ("a", member 1 "a" "0a" "10.1.0.1/24" [⟨1, "10.1.0.2", "0b", false⟩]),
    ("b", member 2 "b" "0b" "10.1.0.2/24" [])] }

def tableOfA : Payload :=
  let bridge : Interface := ⟨1, "loop0", "bvi", 0, true, "0a", 1500, none, ["10.1.0.1/24"], none⟩
  .interfaces (ExtTreeMap.ofList [((1 : UInt32), bridge)])

def tableOfB : Payload :=
  let bridge : Interface := ⟨2, "loop0", "bvi", 0, true, "0b", 1500, none, ["10.1.0.2/24"], none⟩
  .interfaces (ExtTreeMap.ofList [((2 : UInt32), bridge)])

def bothTables : List Report := [⟨"a", .interfaces, .ok tableOfA⟩, ⟨"b", .interfaces, .ok tableOfB⟩]

def oneTable : List Report :=
  [⟨"a", .interfaces, .ok tableOfA⟩, ⟨"b", .interfaces, .error (.status 500)⟩]

/-- Without the interfaces of the second node nothing is known of the addresses that the first one has
learned, which is then unconfirmed too. -/
theorem failures_raise_no_alarm_neighbours :
    let before := (run {} (Pass.run [.interfaces] neighbours ["a", "b"] bothTables).store ["a", "b"]).2
    let after := (run {} (Pass.run [.interfaces] neighbours ["a", "b"] oneTable).store ["a", "b"]).2
    before = ⟨true, ["b"], []⟩ ∧ after = ⟨true, ["a", "b"], ["b"]⟩ ∧ after.valid = true ∧
      before.unconfirmed ⊆ after.unconfirmed := by
  intro before after
  have named : neighbours.Named := by decide
  have degraded : List.Forall₂ Report.Degrades bothTables oneTable :=
    .cons (.same _) (.cons (.lost "b" tableOfB (.status 500)) .nil)
  have unshared : Unshared {} (Pass.run [.interfaces] neighbours ["a", "b"] bothTables).store.nodes
      ["a", "b"] := by decide
  have verdict : before = ⟨true, ["b"], []⟩ := by decide
  have valid : before.valid = true := by rw [verdict]
  obtain ⟨valid', unconfirmed, -⟩ :=
    failures_raise_no_alarm {} [.interfaces] named degraded unshared valid
  exact ⟨verdict, by decide, valid', unconfirmed⟩

end Validation

end FabricSurvey
