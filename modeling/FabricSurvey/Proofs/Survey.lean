import FabricSurvey.Proofs.Delivery
import FabricSurvey.Proofs.Verdict
import FabricSurvey.Survey

/-!
# Surveys with a complete delivery

When every fetch reports before the pass ends, what a survey comes to is decided by the identities of
the nodes, by the outcomes of the fetches and by what the nodes have of the categories that are not
collected. Neither the order of the reports nor anything that earlier passes have left behind has a
part in it, and every fetch can be told from the survey: it has either failed and been noted once, or
its payload is what the node has.
-/

namespace FabricSurvey

open Std (ExtTreeMap)

namespace Store

/-- Two stores with the same nodes by identity, which have the same of every category but some. -/
structure AgreeOutside (categories : List Category) (a b : Store) : Prop where
  identity : ∀ name, (a.get? name).map Node.identity = (b.get? name).map Node.identity
  holding : ∀ name, ∀ category ∉ categories,
    (a.get? name).map (·.holding category) = (b.get? name).map (·.holding category)

theorem AgreeOutside.refl (categories : List Category) (store : Store) :
    store.AgreeOutside categories store := ⟨fun _ => rfl, fun _ _ _ => rfl⟩

variable {a b : Store}

theorem map_identity_eq
    (same : ∀ name, (a.get? name).map Node.identity = (b.get? name).map Node.identity) :
    a.nodes.map (fun _ node => node.identity) = b.nodes.map fun _ node => node.identity :=
  ExtTreeMap.ext_getElem? fun name => by
    rw [ExtTreeMap.getElem?_map, ExtTreeMap.getElem?_map]
    exact same name

theorem names_eq
    (same : ∀ name, (a.get? name).map Node.identity = (b.get? name).map Node.identity) :
    a.names = b.names := by
  have h := congrArg ExtTreeMap.keys (map_identity_eq same)
  rwa [ExtTreeMap.keys_map, ExtTreeMap.keys_map] at h

theorem map_identity_all (store : Store) :
    store.all.map Node.identity =
      (store.nodes.map fun _ node => node.identity).toList.map (·.2) := by
  rw [ExtTreeMap.toList_map, all, List.map_map, List.map_map]
  rfl

theorem eq_of_parts (nodes : a.nodes = b.nodes) (management : a.management = b.management)
    (loopback : ∀ kind, a.loopback kind = b.loopback kind)
    (diagnostics : a.diagnostics = b.diagnostics) : a = b := by
  have ip := loopback .ip
  have mac := loopback .mac
  cases a
  cases b
  simp_all [Store.loopback]

end Store

theorem CollectionSettings.requests_eq {settings : CollectionSettings} {a b : Store}
    (same : ∀ name, (a.get? name).map Node.identity = (b.get? name).map Node.identity) :
    settings.requests a.all = settings.requests b.all := by
  have identities : a.all.map Node.identity = b.all.map Node.identity := by
    rw [Store.map_identity_all, Store.map_identity_all, Store.map_identity_eq same]
  have from_identity (nodes : List Node) : settings.requests nodes =
      (nodes.map Node.identity).flatMap fun identity => settings.categories.map fun category =>
        ⟨identity.name, category, settings.endpoint identity.managementAddress category⟩ := by
    rw [List.flatMap_map]
    rfl
  rw [from_identity, from_identity, identities]

namespace Survey

/-- Two surveys that differ at most in the order of their failures. -/
structure Agree (a b : Survey) : Prop where
  failures : a.failures.Perm b.failures
  rest : { a with failures := [] } = { b with failures := [] }

variable {collection : CollectionSettings} {validation : ValidationSettings} {outcomes : Outcomes}
  {store a b : Store} {reports more : List Report}

def passed (collection : CollectionSettings) (store : Store) (reports : List Report) : Store :=
  (Pass.run collection.categories store.clearDiagnostics store.names reports).store

theorem fst_run : (run collection validation store reports).1 =
    (Validation.run validation (passed collection store reports) store.names).1 := rfl

theorem nodes_passed :
    (passed collection store reports).nodes = store.nodes.map fun name node =>
      node.received collection.categories name
        (reports.take (Pass.expected collection.categories store.names.length)) := by
  rw [passed, Pass.store_run]
  rfl

theorem diagnostics_passed : (passed collection store reports).diagnostics = ∅ := by
  rw [passed, Pass.store_run]
  rfl

theorem management_run :
    (run collection validation store reports).1.management = store.management := by
  rw [fst_run, Validation.management_run, passed, Pass.store_run]
  rfl

theorem get?_run (name : String) :
    (run collection validation store reports).1.get? name =
      (store.get? name).map fun node => node.received collection.categories name
        (reports.take (Pass.expected collection.categories store.names.length)) := by
  rw [fst_run, Store.get?, Validation.nodes_run]
  exact Pass.get?_run store.clearDiagnostics store.names reports name

theorem identity_run (name : String) :
    ((run collection validation store reports).1.get? name).map Node.identity =
      (store.get? name).map Node.identity := by
  rw [fst_run, Store.get?, Validation.nodes_run]
  exact Pass.identity_run store.clearDiagnostics store.names reports name

theorem named_run (named : store.Named) :
    (run collection validation store reports).1.Named := named.of_identity identity_run

/-- A survey writes no category but those that it collects, whether or not all reports arrive. -/
theorem agreeOutside_run (sound : ∀ report ∈ reports, report.holding.category = report.category) :
    (run collection validation store reports).1.AgreeOutside collection.categories store where
  identity := identity_run
  holding name category hc := by
    rw [get?_run, Option.map_map]
    refine congrFun (congrArg _ ?_) _
    funext node
    have undecided : (reports.take (Pass.expected collection.categories store.names.length)).filter
        (Node.Decides collection.categories name category) = [] := by
      refine List.filter_eq_nil_iff.2 fun report hr h => hc ?_
      obtain ⟨-, collected, category_eq⟩ := of_decide_eq_true h
      rwa [← category_eq, sound report (List.mem_of_mem_take hr)]
    rw [Function.comp_apply, Node.holding_received, undecided]
    rfl

theorem get?_run_of_delivered (delivered : outcomes.Delivered collection store reports)
    (name : String) :
    (run collection validation store reports).1.get? name =
      (store.get? name).map fun node => node.received collection.categories name reports := by
  rw [get?_run, delivered.take_expected]

theorem snd_run (delivered : outcomes.Delivered collection store reports) :
    (run collection validation store reports).2 =
      let verdict := (Validation.run validation (passed collection store reports) store.names).2
      { expected := Pass.expected collection.categories store.names.length
        received := Pass.expected collection.categories store.names.length
        complete := true
        failures := Pass.failures collection.categories reports
        valid := verdict.valid
        unconfirmed := verdict.unconfirmed
        missingLoopback := verdict.missingLoopback
        errors := (run collection validation store reports).1.diagnostics.toList
        nodes := (run collection validation store reports).1.all } := by
  have summary :
      (Pass.run collection.categories store.clearDiagnostics store.names reports).summary =
        { expected := Pass.expected collection.categories store.names.length
          received := Pass.expected collection.categories store.names.length
          failures := Pass.failures collection.categories reports } := by
    rw [Pass.summary_run, delivered.take_expected, delivered.length_reports]
  unfold run
  simp only [Summary.complete, show store.clearDiagnostics.names = store.names from rfl, summary,
    Nat.le_refl, decide_true, passed]

def failuresOf (survey : Survey) (name : String) (category : Category) : List Failure :=
  survey.failures.filter fun failure => failure.node = name ∧ failure.category = category

/-- The fetch of a category has failed: it is noted once, and the node has nothing of the category. -/
def Lost (survey : Survey) (found : Node) (category : Category)
    (ending : Except FetchError Payload) : Prop :=
  ∃ cause, ending = .error cause ∧
    survey.failuresOf found.name category = [⟨found.name, category, cause.message⟩] ∧
    found.holding category = .empty category

/-- The node has the projection of what was fetched of a category, and no failure is noted. -/
def Kept (survey : Survey) (found : Node) (category : Category)
    (ending : Except FetchError Payload) : Prop :=
  ∃ payload, ending = .ok payload ∧ survey.failuresOf found.name category = [] ∧
    payload.Keeps (found.holding category)

theorem failuresOf_run (delivered : outcomes.Delivered collection store reports)
    (named : store.Named) (distinct : collection.categories.Nodup) {node : Node}
    (hn : node ∈ store.all) {category : Category} (hc : category ∈ collection.categories) :
    (run collection validation store reports).2.failuresOf node.name category =
      (outcomes.report (collection.request node category)).failure?.toList := by
  rw [snd_run delivered]
  exact delivered.filter_failures named distinct hn hc

theorem failures_run (delivered : outcomes.Delivered collection store reports) {failure : Failure}
    (h : failure ∈ (run collection validation store reports).2.failures) :
    ∃ node ∈ store.all, failure.node = node.name ∧ failure.category ∈ collection.categories := by
  rw [snd_run delivered] at h
  dsimp only at h
  rw [delivered.failures_eq, List.mem_filterMap] at h
  obtain ⟨report, hr, hf⟩ := h
  obtain ⟨node, hn, category, hc, rfl⟩ := delivered.mem_reports_iff.1 hr
  refine ⟨node, hn, ?_⟩
  unfold Report.failure? at hf
  split at hf
  · cases hf
  · obtain rfl := Option.some.inj hf
    exact ⟨rfl, hc⟩

/-- What the one report of a fetch has left is either a noted failure or a kept payload. -/
theorem lost_xor_kept {survey : Survey} {found : Node} {category : Category}
    {ending : Except FetchError Payload}
    (failures : survey.failuresOf found.name category =
      (Report.mk found.name category ending).failure?.toList)
    (holding : found.holding category = (Report.mk found.name category ending).holding) :
    Xor (survey.Lost found category ending) (survey.Kept found category ending) := by
  cases ending with
  | error cause =>
      refine .inl ⟨⟨cause, rfl, failures, holding⟩, ?_⟩
      rintro ⟨payload, h, -⟩
      cases h
  | ok payload =>
      refine .inr ⟨⟨payload, rfl, failures, Payload.keeps_iff.2 holding⟩, ?_⟩
      rintro ⟨cause, h, -⟩
      cases h

/-- Every fetch can be told from the survey: it has failed, or its payload is what the node has. No
failure is noted of anything that was not fetched. -/
theorem every_fetch_accounted (validation : ValidationSettings) (named : store.Named)
    (distinct : collection.categories.Nodup)
    (delivered : outcomes.Delivered collection store reports) :
    let survey := (run collection validation store reports).2
    survey.nodes.map Node.name = store.names ∧
      (∀ node ∈ store.all, ∀ category ∈ collection.categories, ∃ found ∈ survey.nodes,
        found.name = node.name ∧
          Xor (survey.Lost found category (outcomes.ending (collection.request node category)))
            (survey.Kept found category (outcomes.ending (collection.request node category)))) ∧
      ∀ failure ∈ survey.failures,
        failure.node ∈ store.names ∧ failure.category ∈ collection.categories := by
  intro survey
  have nodes : survey.nodes = (run collection validation store reports).1.all := rfl
  refine ⟨?_, fun node hn category hc => ?_, fun failure hf => ?_⟩
  · rw [nodes, (named_run named).map_name_all, Store.names_eq identity_run]
  · have hr : (run collection validation store reports).1.get? node.name =
        some (node.received collection.categories node.name reports) := by
      rw [get?_run_of_delivered delivered, named.get?_name hn]
      rfl
    refine ⟨_, Store.mem_all_iff.2 ⟨node.name, hr⟩, Node.name_received node reports,
      lost_xor_kept ?_ ?_⟩
    · rw [Node.name_received]
      exact failuresOf_run delivered named distinct hn hc
    · rw [delivered.holding_received named distinct hn, if_pos hc, Node.name_received]
      rfl
  · obtain ⟨node, hn, name, hc⟩ := failures_run delivered hf
    rw [name, ← named.map_name_all]
    exact ⟨List.mem_map_of_mem hn, hc⟩

def firstOfPair : Node := .ofIdentity ⟨1, "a", "10.0.0.1", "192.168.0.1"⟩

def secondOfPair : Node := .ofIdentity ⟨2, "b", "10.0.0.2", "192.168.0.2"⟩

def pair : Store :=
  { Store.empty with nodes := ExtTreeMap.ofList [("a", firstOfPair), ("b", secondOfPair)] }

def addresses : CollectionSettings := { categories := [.interfaces, .arp] }

def bridge : Interface := ⟨0, "loop0", "bvi", 0, true, "0a", 1500, none, ["10.1.0.1/24"], none⟩

def neighbour : ArpEntry := ⟨4, "10.1.0.2", "0b", false⟩

/-- One node serves its interfaces and its ARP table, the other one cannot be reached. -/
def halfReachable : Outcomes where
  ending request :=
    match request.node, request.category with
    | "a", .interfaces => .ok (.interfaces (ExtTreeMap.ofList [((4 : UInt32), bridge)]))
    | "a", .arp => .ok (.arp (.list [neighbour]))
    | _, _ => .error (.transport "connection refused")
  category_of_ok request payload h := by
    split at h
    · next hc =>
      cases h
      exact hc.symm
    · next hc =>
      cases h
      exact hc.symm
    · cases h

theorem accounted_halfReachable :
    let survey := (run addresses {} pair (halfReachable.reports addresses pair)).2
    (∃ found ∈ survey.nodes, found.name = "a" ∧
        survey.Kept found .arp (.ok (.arp (.list [neighbour])))) ∧
      ∃ found ∈ survey.nodes, found.name = "b" ∧
        survey.Lost found .arp (.error (.transport "connection refused")) := by
  obtain ⟨-, accounted, -⟩ := every_fetch_accounted {} (by decide) (by decide)
    (halfReachable.delivered addresses pair)
  constructor
  · obtain ⟨found, hf, name, h⟩ := accounted firstOfPair (by decide) .arp (by decide)
    have ending : halfReachable.ending (addresses.request firstOfPair .arp) =
        .ok (.arp (.list [neighbour])) := rfl
    rw [ending] at h
    refine ⟨found, hf, name, h.or.resolve_left ?_⟩
    rintro ⟨_, h, -⟩
    cases h
  · obtain ⟨found, hf, name, h⟩ := accounted secondOfPair (by decide) .arp (by decide)
    have ending : halfReachable.ending (addresses.request secondOfPair .arp) =
        .error (.transport "connection refused") := rfl
    rw [ending] at h
    refine ⟨found, hf, name, h.or.resolve_right ?_⟩
    rintro ⟨_, h, -⟩
    cases h

/-- The same outcomes are delivered, each time completely, to two named stores that agree outside of
what is collected. -/
structure Alike (outcomes : Outcomes) (collection : CollectionSettings) (a b : Store)
    (reports more : List Report) : Prop where
  same : a.AgreeOutside collection.categories b
  named : a.Named
  named' : b.Named
  distinct : collection.categories.Nodup
  delivered : outcomes.Delivered collection a reports
  delivered' : outcomes.Delivered collection b more

namespace Alike

variable (alike : Alike outcomes collection a b reports more) (validation)

include alike

theorem names : a.names = b.names := Store.names_eq alike.same.identity

theorem perm : reports.Perm more := by
  have h := alike.delivered'
  rw [Outcomes.Delivered, Outcomes.reports, ← CollectionSettings.requests_eq alike.same.identity] at h
  exact List.Perm.trans alike.delivered h.symm

theorem received (name : String) :
    (a.get? name).map (fun node => node.received collection.categories name reports) =
      (b.get? name).map fun node => node.received collection.categories name more := by
  have identity := alike.same.identity name
  have holding := alike.same.holding name
  cases ha : a.get? name with
  | none =>
      rw [ha, Option.map_none, eq_comm, Option.map_eq_none_iff] at identity
      rw [identity]
      rfl
  | some node =>
      rw [ha, Option.map_some, eq_comm, Option.map_eq_some_iff] at identity
      obtain ⟨other, hb, identity⟩ := identity
      have hn : node ∈ a.all := Store.mem_all_iff.2 ⟨name, ha⟩
      have ho : other ∈ b.all := Store.mem_all_iff.2 ⟨name, hb⟩
      obtain rfl := alike.named name node ha
      -- Both fetches are of the same URL, since it is made of what the node is known by.
      have request (category : Category) :
          collection.request other category = collection.request node category := by
        have h := Identity.mk.inj identity
        rw [CollectionSettings.request, CollectionSettings.request, h.2.1, h.2.2.2]
      rw [hb, Option.map_some, Option.map_some]
      refine congrArg some (Node.eq_of_holding ?_ fun category => ?_)
      · rw [Node.identity_received, Node.identity_received, identity]
      · have received := alike.delivered'.holding_received alike.named' alike.distinct ho category
        rw [alike.named' _ other hb] at received
        rw [alike.delivered.holding_received alike.named alike.distinct hn, received, request]
        split_ifs with hc
        · rfl
        · have h := holding category hc
          rw [ha, hb] at h
          exact Option.some.inj h

theorem nodes_passed : (passed collection a reports).nodes = (passed collection b more).nodes := by
  refine ExtTreeMap.ext_getElem? fun name => ?_
  rw [Survey.nodes_passed, Survey.nodes_passed, alike.delivered.take_expected,
    alike.delivered'.take_expected, ExtTreeMap.getElem?_map, ExtTreeMap.getElem?_map]
  exact alike.received name

theorem nodes : (run collection validation a reports).1.nodes =
    (run collection validation b more).1.nodes := by
  rw [fst_run, fst_run, Validation.nodes_run, Validation.nodes_run, alike.nodes_passed]

theorem loopback (kind : AddressKind) : (run collection validation a reports).1.loopback kind =
    (run collection validation b more).1.loopback kind := by
  rw [fst_run, fst_run, alike.names]
  exact Validation.loopback_run_congr alike.nodes_passed kind

theorem diagnostics : (run collection validation a reports).1.diagnostics =
    (run collection validation b more).1.diagnostics := by
  rw [fst_run, fst_run, Validation.diagnostics_run, Validation.diagnostics_run,
    diagnostics_passed, diagnostics_passed, alike.names, alike.nodes_passed]

theorem verdict : (Validation.run validation (passed collection a reports) a.names).2 =
    (Validation.run validation (passed collection b more) b.names).2 := by
  rw [alike.names]
  exact Validation.run_snd_congr alike.nodes_passed

theorem agree :
    (run collection validation a reports).2.Agree (run collection validation b more).2 := by
  rw [snd_run alike.delivered, snd_run alike.delivered']
  constructor
  · dsimp only
    rw [alike.delivered.failures_eq, alike.delivered'.failures_eq]
    exact alike.perm.filterMap _
  · dsimp only
    rw [alike.verdict, alike.diagnostics, alike.names, Store.all, Store.all, alike.nodes]

theorem final (management : a.management = b.management) :
    (run collection validation a reports).1 = (run collection validation b more).1 := by
  refine Store.eq_of_parts (alike.nodes validation) ?_ (alike.loopback validation)
    (alike.diagnostics validation)
  rw [management_run, management_run, management]

end Alike

/-- The order in which reports arrive is without effect. Surveys may list their failures in another
order, and that is all. -/
theorem arrival_order_irrelevant (validation : ValidationSettings) (named : store.Named)
    (distinct : collection.categories.Nodup)
    (delivered : outcomes.Delivered collection store reports)
    (delivered' : outcomes.Delivered collection store more) :
    (run collection validation store reports).1 = (run collection validation store more).1 ∧
      (run collection validation store reports).2.Agree
        (run collection validation store more).2 := by
  have alike : Alike outcomes collection store store reports more :=
    ⟨.refl _ _, named, named, distinct, delivered, delivered'⟩
  exact ⟨alike.final validation rfl, alike.agree validation⟩

theorem arrival_order_irrelevant_halfReachable :
    let reports := halfReachable.reports addresses pair
    (run addresses {} pair reports).1 = (run addresses {} pair reports.reverse).1 ∧
      (run addresses {} pair reports).2.Agree (run addresses {} pair reports.reverse).2 :=
  arrival_order_irrelevant {} (by decide) (by decide) (halfReachable.delivered addresses pair)
    (List.Perm.trans (List.reverse_perm _) (halfReachable.delivered addresses pair))

/-- What earlier surveys have left of the collected categories, of the indices and of the diagnostics
is without effect, and a second survey with the same outcomes finds what the first has found. -/
theorem earlier_state_irrelevant (validation : ValidationSettings)
    (same : a.AgreeOutside collection.categories b) (named : a.Named) (named' : b.Named)
    (distinct : collection.categories.Nodup)
    (delivered : outcomes.Delivered collection a reports)
    (delivered' : outcomes.Delivered collection b more) :
    let first := run collection validation a reports
    let other := run collection validation b more
    first.1.nodes = other.1.nodes ∧ (∀ kind, first.1.loopback kind = other.1.loopback kind) ∧
      first.1.diagnostics = other.1.diagnostics ∧ first.2.Agree other.2 ∧
      ∀ again, outcomes.Delivered collection first.1 again →
        (run collection validation first.1 again).1 = first.1 ∧
          (run collection validation first.1 again).2.Agree first.2 := by
  have alike : Alike outcomes collection a b reports more :=
    ⟨same, named, named', distinct, delivered, delivered'⟩
  refine ⟨alike.nodes validation, alike.loopback validation, alike.diagnostics validation,
    alike.agree validation, fun again repeated => ?_⟩
  -- The second survey starts from what the first has left, which is one more earlier state.
  have alike : Alike outcomes collection (run collection validation a reports).1 a again reports :=
    ⟨agreeOutside_run delivered.sound, named_run named, named, distinct, repeated, delivered⟩
  exact ⟨alike.final validation management_run, alike.agree validation⟩

/-- An earlier survey that was cut off after its first report has left a table, an index and notes. -/
theorem earlier_state_irrelevant_of_cut_off :
    let reports := halfReachable.reports addresses pair
    let cutOff := (run addresses {} pair (reports.take 1)).1
    cutOff ≠ pair ∧
      (run addresses {} cutOff reports).1.nodes = (run addresses {} pair reports).1.nodes ∧
      (run addresses {} cutOff reports).1.diagnostics =
        (run addresses {} pair reports).1.diagnostics ∧
      (run addresses {} cutOff reports).2.Agree (run addresses {} pair reports).2 := by
  intro reports cutOff
  have delivered := halfReachable.delivered addresses pair
  have named : pair.Named := by decide
  have same : cutOff.AgreeOutside addresses.categories pair :=
    agreeOutside_run fun report hr => delivered.sound report (List.mem_of_mem_take hr)
  have delivered' : halfReachable.Delivered addresses cutOff reports := by
    rw [Outcomes.Delivered, Outcomes.reports, CollectionSettings.requests_eq same.identity]
    exact List.Perm.refl _
  obtain ⟨nodes, -, diagnostics, agree, -⟩ :=
    earlier_state_irrelevant {} same (named_run named) named (by decide) delivered' delivered
  exact ⟨by decide, nodes, diagnostics, agree⟩

end Survey

end FabricSurvey
