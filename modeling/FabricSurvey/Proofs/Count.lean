import FabricSurvey.Proofs.Survey

/-!
# How many reports a survey takes

The number of fetches comes about node by node, the number of reports to wait for is a product. The
reports that arrive in time are those of some of the fetches, in any order. How the fetches ended does
not matter for their number, so a survey falls short exactly when a report is missing.
-/

namespace FabricSurvey

namespace CollectionSettings

variable {settings : CollectionSettings} {nodes : List Node} {node : Node} {category : Category}

/-- Every place in the list of categories has a fetch of its own for every node. -/
theorem getElem?_requests {i j : Nat} (hn : nodes[i]? = some node)
    (hc : settings.categories[j]? = some category) :
    (settings.requests nodes)[i * settings.categories.length + j]? =
      some (settings.request node category) := by
  have hj : j < settings.categories.length := (List.getElem?_eq_some_iff.1 hc).choose
  have width : (settings.categories.map (settings.request node)).length =
      settings.categories.length := List.length_map _
  induction nodes generalizing i with
  | nil => simp at hn
  | cons first nodes ih =>
      rw [requests_cons]
      cases i with
      | zero =>
          rw [List.getElem?_cons_zero, Option.some.injEq] at hn
          subst hn
          rw [Nat.zero_mul, Nat.zero_add, List.getElem?_append_left (by rwa [width]),
            List.getElem?_map, hc]
          rfl
      | succ i =>
          rw [List.getElem?_cons_succ] at hn
          have shifted : (i + 1) * settings.categories.length + j =
              settings.categories.length + (i * settings.categories.length + j) := by
            rw [Nat.succ_mul]
            omega
          rw [shifted, List.getElem?_append_right (by simp), List.length_map,
            Nat.add_sub_cancel_left, ih hn]

theorem length_requests_all (settings : CollectionSettings) (store : Store) :
    (settings.requests store.all).length = Pass.expected settings.categories store.size := by
  rw [length_requests, Store.length_all, Pass.expected]

end CollectionSettings

def Request.source (request : Request) : String × Category := (request.node, request.category)

def Report.source (report : Report) : String × Category := (report.node, report.category)

/-- The reports are those of some of the fetches, in any order, however these have ended. -/
def CollectionSettings.Arrived (settings : CollectionSettings) (store : Store)
    (reports : List Report) : Prop :=
  (reports.map Report.source).Subperm ((settings.requests store.all).map Request.source)

instance (settings : CollectionSettings) (store : Store) (reports : List Report) :
    Decidable (settings.Arrived store reports) :=
  inferInstanceAs (Decidable (List.Subperm _ _))

namespace CollectionSettings.Arrived

variable {settings : CollectionSettings} {store : Store} {reports : List Report}

theorem length_le (arrived : settings.Arrived store reports) :
    reports.length ≤ (settings.requests store.all).length := by
  have h := List.Subperm.length_le arrived
  rwa [List.length_map, List.length_map] at h

theorem take_expected (arrived : settings.Arrived store reports) :
    reports.take (Pass.expected settings.categories store.size) = reports := by
  apply List.take_of_length_le
  rw [← settings.length_requests_all]
  exact arrived.length_le

end CollectionSettings.Arrived

namespace Network

def reportsInTime (network : Network) (waits : Bool) (request : Request) : Bool :=
  waits || !(network.fetch request.url request.category).hung

theorem reports_eq_map_filter (network : Network) (waits : Bool) (requests : List Request) :
    network.reports waits requests =
      (requests.filter (network.reportsInTime waits)).map network.outcomes.report := by
  rw [← List.filterMap_eq_map, List.filterMap_filter]
  refine List.filterMap_congr fun request _ => ?_
  cases hung : (network.fetch request.url request.category).hung <;>
    cases waits <;> simp [reportsInTime, hung, Outcomes.report, outcomes]

theorem arrived_reports (network : Network) (waits : Bool) (settings : CollectionSettings)
    (store : Store) :
    settings.Arrived store (network.reports waits (settings.requests store.all)) := by
  unfold CollectionSettings.Arrived
  rw [reports_eq_map_filter, List.map_map]
  exact ((List.filter_sublist).map Request.source).subperm

end Network

namespace Survey

variable {collection : CollectionSettings} {validation : ValidationSettings} {store : Store}
  {reports : List Report}

theorem expected_run : (run collection validation store reports).2.expected =
    Pass.expected collection.categories store.size := by
  rw [← Store.length_names]
  rfl

theorem received_run : (run collection validation store reports).2.received =
    (reports.take (Pass.expected collection.categories store.size)).length := by
  rw [← Store.length_names]
  rfl

theorem complete_run : (run collection validation store reports).2.complete = true ↔
    (run collection validation store reports).2.expected ≤
      (run collection validation store reports).2.received := decide_eq_true_iff

theorem complete_iff_length (validation : ValidationSettings)
    (arrived : collection.Arrived store reports) :
    (run collection validation store reports).2.complete = true ↔
      reports.length = (collection.requests store.all).length := by
  rw [complete_run, expected_run, received_run, arrived.take_expected,
    ← collection.length_requests_all]
  exact ⟨fun all_in => Nat.le_antisymm arrived.length_le all_in, fun same => same.ge⟩

/-- One fetch is started for every node and every place in the list of categories, and their count is
the product. A survey expects as many reports as there are fetches and takes all that arrive, and it
is complete if and only if none is missing. -/
theorem counts_agree (validation : ValidationSettings)
    (arrived : collection.Arrived store reports) :
    let requests := collection.requests store.all
    let survey := (run collection validation store reports).2
    (collection.collect store.all).requests = requests ∧
      (collection.collect store.all).dispatched =
        Pass.expected collection.categories store.size ∧
      (∀ i j node category, store.all[i]? = some node → collection.categories[j]? = some category →
        requests[i * collection.categories.length + j]? =
          some (collection.request node category)) ∧
      requests.length = Pass.expected collection.categories store.size ∧
      survey.expected = requests.length ∧ survey.received = reports.length ∧
      reports.length ≤ requests.length ∧
      (survey.complete = true ↔ reports.length = requests.length) := by
  intro requests survey
  have product : requests.length = Pass.expected collection.categories store.size :=
    collection.length_requests_all store
  have received : survey.received = reports.length := by
    rw [received_run, arrived.take_expected]
  rw [CollectionSettings.collect_eq]
  exact ⟨rfl, product, fun i j node category hn hc => CollectionSettings.getElem?_requests hn hc,
    product, expected_run.trans product.symm, received, arrived.length_le,
    complete_iff_length validation arrived⟩

/-- Every fetch of a pair of nodes has failed, where one category is asked for twice. -/
def refused : List Report :=
  let failed (name : String) : Report := ⟨name, .arp, .error (.transport "connection refused")⟩
  [failed "b", failed "a", failed "a", failed "b"]

/-- Failures alone leave a survey complete, and one that is missing does not. -/
theorem counts_refused :
    let collection : CollectionSettings := { categories := [.arp, .arp] }
    (run collection {} pair refused).2.complete = true ∧
      ¬ (run collection {} pair refused.tail).2.complete = true := by
  intro collection
  obtain ⟨-, -, -, -, -, -, -, complete⟩ := counts_agree {}
    (show collection.Arrived pair refused by decide)
  obtain ⟨-, -, -, -, -, -, -, incomplete⟩ := counts_agree {}
    (show collection.Arrived pair refused.tail by decide)
  exact ⟨complete.2 (by decide), fun h => absurd (incomplete.1 h) (by decide)⟩

/-- A survey over a network is complete unless it gives up on a request that hangs. -/
theorem complete_overNetwork_iff (network : Network) :
    (overNetwork collection validation store network).2.complete = true ↔
      ∀ request ∈ collection.requests store.all,
        (network.fetch request.url request.category).hung = true →
          collection.requestTimeout < collection.collectTimeout := by
  have arrived := network.arrived_reports
    (collection.requestTimeout < collection.collectTimeout) collection store
  rw [overNetwork, CollectionSettings.collect_eq]
  rw [complete_iff_length validation arrived, Network.reports_eq_map_filter, List.length_map,
    List.length_filter_eq_length_iff]
  refine forall₂_congr fun request _ => ?_
  simp [Network.reportsInTime, or_iff_not_imp_right]

end Survey

end FabricSurvey
