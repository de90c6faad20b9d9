import FabricSurvey.Collection.Network
import FabricSurvey.Proofs.Holding
import FabricSurvey.Proofs.Pass
import Mathlib.Data.List.Nodup
import Mathlib.Data.List.ProdSigma

/-!
# Complete deliveries

The fetches of a pass run side by side and their reports arrive in any order. A delivery is complete
when every fetch has reported once. In a named store, with no category asked for twice, a complete
delivery has exactly one report for each node and each category, whatever the order.
-/

namespace FabricSurvey

open Json

/-- How every fetch ends. A payload is of the category that was asked for. -/
structure Outcomes where
  ending : Request → Except FetchError Payload
  category_of_ok : ∀ request payload, ending request = .ok payload →
    payload.category = request.category

namespace Outcomes

def report (outcomes : Outcomes) (request : Request) : Report :=
  ⟨request.node, request.category, outcomes.ending request⟩

def reports (outcomes : Outcomes) (settings : CollectionSettings) (store : Store) : List Report :=
  (settings.requests store.all).map outcomes.report

/-- Every fetch of a pass over a store has reported once, in whatever order. -/
def Delivered (outcomes : Outcomes) (settings : CollectionSettings) (store : Store)
    (reports : List Report) : Prop :=
  reports.Perm (outcomes.reports settings store)

theorem delivered (outcomes : Outcomes) (settings : CollectionSettings) (store : Store) :
    outcomes.Delivered settings store (outcomes.reports settings store) := List.Perm.refl _

@[simp] theorem category_holding_report (outcomes : Outcomes) (request : Request) :
    (outcomes.report request).holding.category = request.category := by
  unfold report Report.holding
  cases h : outcomes.ending request with
  | ok payload => simp [outcomes.category_of_ok request payload h]
  | error cause => simp

end Outcomes

namespace Payload

theorem category_of_ofDraft {asked : Category} {draft : Draft} {payload : Payload}
    (h : ofDraft asked draft = .ok payload) : payload.category = asked := by
  cases asked <;> obtain ⟨_, _, rfl⟩ := map_eq_ok_iff.1 h <;> rfl

theorem category_of_decode {asked : Category} {body : Bytes} {payload : Payload}
    (h : decode asked body = .ok payload) : payload.category = asked := by
  obtain ⟨read, hr, h⟩ := bind_eq_ok_iff.1 h
  obtain ⟨_, -, h⟩ := bind_eq_ok_iff.1 h
  cases h
  exact category_of_ofDraft hr

end Payload

theorem Report.category_of_outcomeOfBody {asked : Category} {body : Bytes} {payload : Payload}
    (h : outcomeOfBody asked body = .ok payload) : payload.category = asked := by
  unfold outcomeOfBody at h
  split at h
  · next hd =>
    cases h
    exact Payload.category_of_decode hd
  · cases h

namespace Network

theorem category_of_fetch (network : Network) (url : String) (asked : Category) (payload : Payload)
    (h : (network.fetch url asked).outcome = .ok payload) : payload.category = asked := by
  unfold fetch at h
  split at h
  · cases h
  · unfold Ending.ofRoute at h
    split at h
    · cases h
    · cases h
    · cases h
    · cases h
    · split at h
      · exact Report.category_of_outcomeOfBody h
      · cases h

def outcomes (network : Network) : Outcomes where
  ending request := (network.fetch request.url request.category).outcome
  category_of_ok request := network.category_of_fetch request.url request.category

/-- A survey that waits for every request gets a complete delivery. -/
theorem delivered_reports (network : Network) (settings : CollectionSettings) (store : Store) :
    network.outcomes.Delivered settings store
      (network.reports true (settings.requests store.all)) := by
  unfold reports Outcomes.Delivered Outcomes.reports
  rw [← List.filterMap_eq_map]
  simp [Outcomes.report, outcomes, Function.comp_def]

end Network

theorem CollectionSettings.requests_eq_map_product (settings : CollectionSettings)
    (nodes : List Node) :
    settings.requests nodes =
      (nodes ×ˢ settings.categories).map fun p => settings.request p.1 p.2 := by
  change nodes.flatMap _ = (nodes.flatMap fun node => settings.categories.map (Prod.mk node)).map _
  rw [List.map_flatMap]
  simp only [List.map_map]
  rfl

/-- A node and a category are asked for once if no name and no category comes twice. -/
theorem CollectionSettings.filter_requests {settings : CollectionSettings} {nodes : List Node}
    {node : Node} {category : Category} (names : (nodes.map Node.name).Nodup)
    (distinct : settings.categories.Nodup) (hn : node ∈ nodes)
    (hc : category ∈ settings.categories) :
    (settings.requests nodes).filter (fun r => r.node = node.name ∧ r.category = category) =
      [settings.request node category] := by
  have same : ∀ p ∈ nodes ×ˢ settings.categories,
      ((settings.request p.1 p.2).node = node.name ∧ (settings.request p.1 p.2).category = category ↔
        p = (node, category)) := by
    rintro ⟨other, asked⟩ hp
    have ho := (List.mem_product.1 hp).1
    rw [Prod.mk.injEq]
    constructor
    · rintro ⟨hname, hcategory⟩
      exact ⟨List.inj_on_of_nodup_map names ho hn hname, hcategory⟩
    · rintro ⟨rfl, rfl⟩
      exact ⟨rfl, rfl⟩
  have once : (nodes ×ˢ settings.categories).count (node, category) = 1 :=
    List.count_eq_one_of_mem (names.of_map.product distinct) (List.mem_product.2 ⟨hn, hc⟩)
  rw [requests_eq_map_product, List.filter_map]
  calc ((nodes ×ˢ settings.categories).filter _).map (fun p => settings.request p.1 p.2)
      = ((nodes ×ˢ settings.categories).filter (· = (node, category))).map
          fun p => settings.request p.1 p.2 :=
        congrArg _ (List.filter_congr fun p hp => decide_eq_decide.2 (same p hp))
    _ = [settings.request node category] := by rw [List.filter_eq, once]; rfl

namespace Outcomes.Delivered

variable {outcomes : Outcomes} {settings : CollectionSettings} {store : Store}
  {reports : List Report} {node : Node} {category : Category}

theorem length_reports (delivered : outcomes.Delivered settings store reports) :
    reports.length = Pass.expected settings.categories store.names.length := by
  rw [delivered.length_eq, Outcomes.reports, List.length_map, settings.length_requests, Pass.expected,
    Store.length_names, Store.length_all]

theorem take_expected (delivered : outcomes.Delivered settings store reports) :
    reports.take (Pass.expected settings.categories store.names.length) = reports :=
  List.take_of_length_le (Nat.le_of_eq delivered.length_reports)

theorem mem_reports_iff (delivered : outcomes.Delivered settings store reports) {report : Report} :
    report ∈ reports ↔ ∃ node ∈ store.all, ∃ category ∈ settings.categories,
      outcomes.report (settings.request node category) = report := by
  rw [List.Perm.mem_iff delivered, Outcomes.reports, settings.requests_eq_map_product]
  simp [List.mem_product, and_assoc]

theorem sound (delivered : outcomes.Delivered settings store reports) :
    ∀ report ∈ reports, report.holding.category = report.category := by
  intro report hr
  obtain ⟨_, _, _, _, rfl⟩ := delivered.mem_reports_iff.1 hr
  exact outcomes.category_holding_report _

theorem filter_reports (delivered : outcomes.Delivered settings store reports)
    (named : store.Named) (distinct : settings.categories.Nodup) (hn : node ∈ store.all)
    (hc : category ∈ settings.categories) :
    reports.filter (fun r => r.node = node.name ∧ r.category = category) =
      [outcomes.report (settings.request node category)] := by
  have once := settings.filter_requests named.nodup_map_name_all distinct hn hc
  have hp := delivered.filter fun r => r.node = node.name ∧ r.category = category
  rw [Outcomes.reports, List.filter_map] at hp
  exact List.perm_singleton.1 (hp.trans (once ▸ List.Perm.refl _))

/-- After a complete delivery a node has what its fetches left of the categories that were asked for,
and what it had before of the others. -/
theorem holding_received (delivered : outcomes.Delivered settings store reports)
    (named : store.Named) (distinct : settings.categories.Nodup) (hn : node ∈ store.all)
    (category : Category) :
    (node.received settings.categories node.name reports).holding category =
      if category ∈ settings.categories then
        (outcomes.report (settings.request node category)).holding
      else node.holding category := by
  have decides : ∀ report ∈ reports,
      (Node.Decides settings.categories node.name category report ↔
        report.node = node.name ∧ report.category = category) := by
    intro report hr
    obtain ⟨other, -, asked, ha, rfl⟩ := delivered.mem_reports_iff.1 hr
    rw [Node.Decides, outcomes.category_holding_report]
    exact ⟨fun h => ⟨h.1, h.2.2⟩, fun h => ⟨h.1, ha, h.2⟩⟩
  rw [Node.holding_received,
    List.filter_congr fun report hr => decide_eq_decide.2 (decides report hr)]
  split_ifs with hc
  · rw [delivered.filter_reports named distinct hn hc]
    rfl
  · have none_left : reports.filter (fun r => r.node = node.name ∧ r.category = category) = [] := by
      refine List.filter_eq_nil_iff.2 fun report hr h => hc ?_
      obtain ⟨other, -, asked, ha, rfl⟩ := delivered.mem_reports_iff.1 hr
      exact (of_decide_eq_true h).2 ▸ ha
    rw [none_left]
    rfl

/-- No report of a complete delivery is dropped, so every failure among them is noted. -/
theorem failures_eq (delivered : outcomes.Delivered settings store reports) :
    Pass.failures settings.categories reports = reports.filterMap Report.failure? := by
  refine congrArg _ (List.filter_eq_self.2 fun report hr => decide_eq_true ?_)
  obtain ⟨_, -, asked, ha, rfl⟩ := delivered.mem_reports_iff.1 hr
  exact ha

/-- The failures noted for a node and a category are those of its one fetch. -/
theorem filter_failures (delivered : outcomes.Delivered settings store reports)
    (named : store.Named) (distinct : settings.categories.Nodup) (hn : node ∈ store.all)
    (hc : category ∈ settings.categories) :
    (Pass.failures settings.categories reports).filter
        (fun f => f.node = node.name ∧ f.category = category) =
      (outcomes.report (settings.request node category)).failure?.toList := by
  have commute := Report.filter_filterMap_failure?
    (fun name asked => name = node.name ∧ asked = category) reports
  rw [delivered.failures_eq, commute, delivered.filter_reports named distinct hn hc]
  cases h : (outcomes.report (settings.request node category)).failure? <;> simp [h]

end Outcomes.Delivered

end FabricSurvey
