import FabricSurvey.Proofs.Pass

/-!
# What a stream of reports leaves

A pass takes no more reports than it expects and leaves the rest of the stream unread. The stream may
be anything: reports may come twice, name no node, be of a category that is not collected, or carry
the payload of another category than their own. Each category of each node is decided by the last of
the reports taken that is about it, and nothing but the categories of nodes is written.

A report of a category that is not collected, or of a node that is not stored, is counted as received
and written nowhere. The category is looked at first, before anything is done. That the node is not
stored shows only when the store refuses the write, and by then the failure of a failed report has
been noted. It is the one trace that a dropped report can leave.
-/

namespace FabricSurvey

open Std (ExtTreeMap)

namespace Report

def target (report : Report) : Category :=
  match report.outcome with
  | .ok payload => payload.category
  | .error _ => report.category

def Settles (categories : List Category) (name : String) (category : Category)
    (report : Report) : Prop :=
  report.node = name ∧ report.category ∈ categories ∧ report.target = category

variable {categories : List Category} {name : String} {category : Category} {report : Report}

theorem category_holding (report : Report) : report.holding.category = report.target := by
  unfold holding target
  cases report.outcome with
  | ok payload => exact payload.category_holding
  | error cause => exact Holding.category_empty report.category

theorem decides_iff_settles :
    Node.Decides categories name category report ↔ report.Settles categories name category := by
  unfold Node.Decides Settles
  rw [category_holding]

end Report

namespace Pass

structure IsLast (categories : List Category) (name : String) (category : Category)
    (reports : List Report) (report : Report) : Prop where
  settles : report.Settles categories name category
  unrevised : ∃ before later, reports = before ++ report :: later ∧
    ∀ next ∈ later, ¬ next.Settles categories name category

/-- What a node has of a category after some reports, given what it had of it earlier. -/
inductive Leaves (categories : List Category) (name : String) (category : Category)
    (reports : List Report) (earlier : Holding) : Holding → Prop
  | payload {report : Report} {payload : Payload} {held : Holding} :
      IsLast categories name category reports report → report.outcome = .ok payload →
      payload.Keeps held → Leaves categories name category reports earlier held
  | failure {report : Report} {cause : FetchError} :
      IsLast categories name category reports report → report.outcome = .error cause →
      Leaves categories name category reports earlier (.empty category)
  | untouched : (∀ report ∈ reports, ¬ report.Settles categories name category) →
      Leaves categories name category reports earlier earlier

variable {categories : List Category} {name : String} {category : Category}
  {reports : List Report}

theorem isLast_of_getLast? {report : Report}
    (h : (reports.filter (Node.Decides categories name category)).getLast? = some report) :
    IsLast categories name category reports report := by
  -- The last one is the first one from behind, so the two parts of the stream come reversed.
  rw [List.getLast?_filter, List.find?_eq_some_iff_append] at h
  obtain ⟨decides, later, before, split, unrevised⟩ := h
  refine ⟨Report.decides_iff_settles.1 (of_decide_eq_true decides), before.reverse, later.reverse,
    ?_, fun next hn settles => ?_⟩
  · have h := congrArg List.reverse split
    simpa using h
  · have h := unrevised next (List.mem_reverse.1 hn)
    simp [Report.decides_iff_settles.2 settles] at h

theorem IsLast.getLast? {report : Report} (last : IsLast categories name category reports report) :
    (reports.filter (Node.Decides categories name category)).getLast? = some report := by
  obtain ⟨before, later, split, unrevised⟩ := last.unrevised
  have behind : later.filter (Node.Decides categories name category) = [] :=
    List.filter_eq_nil_iff.2 fun next hn decides =>
      unrevised next hn (Report.decides_iff_settles.1 (of_decide_eq_true decides))
  have decides := Report.decides_iff_settles.2 last.settles
  have kept : (report :: later).filter (Node.Decides categories name category) = [report] := by
    rw [List.filter_cons, if_pos (decide_eq_true decides), behind]
  rw [split, List.filter_append, kept, List.getLast?_concat]

theorem holding_received_of_isLast (node : Node) {report : Report}
    (last : IsLast categories name category reports report) :
    (node.received categories name reports).holding category = report.holding := by
  rw [Node.holding_received, last.getLast?]
  rfl

theorem holding_received_of_unsettled (node : Node)
    (unsettled : ∀ report ∈ reports, ¬ report.Settles categories name category) :
    (node.received categories name reports).holding category = node.holding category := by
  have none_left : reports.filter (Node.Decides categories name category) = [] :=
    List.filter_eq_nil_iff.2 fun report hr decides =>
      unsettled report hr (Report.decides_iff_settles.1 (of_decide_eq_true decides))
  rw [Node.holding_received, none_left]
  rfl

theorem leaves_received (node : Node) (reports : List Report) :
    Leaves categories name category reports (node.holding category)
      ((node.received categories name reports).holding category) := by
  rw [Node.holding_received]
  cases h : (reports.filter (Node.Decides categories name category)).getLast? with
  | none =>
      refine .untouched fun report hr settles => ?_
      rw [List.getLast?_eq_none_iff, List.filter_eq_nil_iff] at h
      exact h report hr (decide_eq_true (Report.decides_iff_settles.2 settles))
  | some report =>
      have last := isLast_of_getLast? h
      rw [Option.elim_some, Report.holding]
      cases outcome : report.outcome with
      | ok payload => exact .payload last outcome (Payload.keeps_iff.2 rfl)
      | error cause =>
          -- A failure clears the category that it is reported under.
          have target : report.category = category := by
            have h := last.settles.2.2
            rwa [Report.target, outcome] at h
          dsimp only
          rw [target]
          exact .failure last outcome

/-- Every category of a stored node is left as the last report about it says, for any stream. The
reports beyond the expected number stay unread, the failures of stored nodes are noted in the order
of their arrival, and the rest of the store is as it was. -/
theorem last_report_decides (categories : List Category) (store : Store) (names : List String)
    (reports : List Report) :
    let result := run categories store names reports
    let taken := reports.take (min (categories.length * names.length) reports.length)
    result.summary.received = taken.length ∧ taken ++ result.left = reports ∧
      (∀ name node, store.get? name = some node → ∃ found, result.store.get? name = some found ∧
        ∀ category, Leaves categories name category taken (node.holding category)
          (found.holding category)) ∧
      result.summary.failures.filter (·.node ∈ store.names) =
        (taken.filter fun r => r.node ∈ store.names ∧ r.category ∈ categories).filterMap
          Report.failure? ∧
      (∀ name, (result.store.get? name).map Node.identity = (store.get? name).map Node.identity) ∧
      result.store = { store with nodes := result.store.nodes } := by
  intro result taken
  have taken_eq : reports.take (expected categories names.length) = taken :=
    List.take_eq_take_min
  have failures : result.summary.failures = failures categories taken := by
    rw [summary_run, taken_eq]
  refine ⟨?_, ?_, fun name node hn => ?_, ?_, identity_run store names reports, ?_⟩
  · rw [summary_run, taken_eq]
  · rw [← taken_eq]
    exact List.take_append_drop _ _
  · refine ⟨node.received categories name taken, ?_, fun category => leaves_received node taken⟩
    rw [get?_run, taken_eq, hn, Option.map_some]
  · have noted := Report.filter_filterMap_failure? (fun name _ => name ∈ store.names)
      (taken.filter (·.category ∈ categories))
    rw [failures, Pass.failures, noted, List.filter_filter]
    simp only [Bool.decide_and]
  · rw [store_run]

def lone : Node := .ofIdentity ⟨1, "a", "10.0.0.1", "192.168.0.1"⟩

def loneStore : Store := { Store.empty with nodes := ExtTreeMap.ofList [("a", lone)] }

/-- An ARP table, reports of a node and of a category that nobody asked for, a second ARP table under
another category, and a failure that comes too late. -/
def mixed : List Report :=
  [⟨"a", .arp, .ok (.arp (.list [⟨4, "10.1.0.2", "0b", false⟩]))⟩,
    ⟨"ghost", .arp, .error (.status 500)⟩,
    ⟨"a", .telemetry, .error (.status 404)⟩,
    ⟨"a", .interfaces, .ok (.arp (.list [⟨7, "10.1.0.3", "0c", true⟩]))⟩,
    ⟨"a", .arp, .error (.transport "connection refused")⟩]

/-- The second ARP table is what the node has, although it came under another category. -/
theorem last_report_decides_mixed :
    let result := run [.interfaces, .arp] loneStore ["a", "ghost"] mixed
    result.summary.received = 4 ∧ ∃ found, result.store.get? "a" = some found ∧
      Leaves [.interfaces, .arp] "a" .arp (mixed.take 4) (.arp []) (found.holding .arp) ∧
      found.holding .arp = .arp [⟨7, "10.1.0.3", "0c", true⟩] := by
  intro result
  have stored : loneStore.get? "a" = some lone := by decide
  obtain ⟨received, -, decided, -⟩ :=
    last_report_decides [.interfaces, .arp] loneStore ["a", "ghost"] mixed
  obtain ⟨found, hf, leaves⟩ := decided "a" lone stored
  have holding : (result.store.get? "a").map (·.holding .arp) =
      some (.arp [⟨7, "10.1.0.3", "0c", true⟩]) := by decide
  rw [hf] at holding
  exact ⟨received, found, hf, leaves .arp, Option.some.inj holding⟩

end Pass

def Report.Dropped (categories : List Category) (store : Store) (report : Report) : Prop :=
  report.category ∉ categories ∨ store.get? report.node = none

instance (categories : List Category) (store : Store) (report : Report) :
    Decidable (report.Dropped categories store) :=
  inferInstanceAs (Decidable (_ ∨ _))

theorem Node.received_without {categories : List Category} {name : String} {report : Report}
    (elsewhere : report.category ∉ categories ∨ report.node ≠ name) (node : Node)
    (before later : List Report) :
    node.received categories name (before ++ report :: later) =
      node.received categories name (before ++ later) := by
  have ignored (node : Node) : node.receive categories name report = node :=
    if_neg fun h => elsewhere.elim (· h.2) (· h.1)
  simp only [received, List.foldl_append, List.foldl_cons, ignored]

namespace Pass

variable {categories : List Category} {report : Report}

theorem failures_singleton (categories : List Category) (report : Report) :
    failures categories [report] =
      if report.category ∈ categories then report.failure?.toList else [] := by
  by_cases hc : report.category ∈ categories
  · cases hf : report.failure? <;> simp [failures, hc, hf]
  · simp [failures, hc]

theorem failures_singleton_eq_nil_iff :
    failures categories [report] = [] ↔
      report.category ∉ categories ∨ ∃ payload, report.outcome = .ok payload := by
  rw [failures_singleton, Report.failure?]
  cases report.outcome <;> simp

theorem store_after_dropped {state : State} (dropped : report.Dropped categories state.store)
    (before later : List Report) :
    (after categories state (before ++ report :: later)).store =
      (after categories state (before ++ later)).store := by
  have nodes : (after categories state (before ++ report :: later)).store.nodes =
      (after categories state (before ++ later)).store.nodes := by
    apply ExtTreeMap.ext_getElem?
    intro name
    simp only [after, ExtTreeMap.getElem?_map]
    refine Option.map_congr fun node stored => node.received_without ?_ before later
    refine dropped.imp_right fun absent same => ?_
    rw [Store.get?, same, Option.mem_def.1 stored] at absent
    cases absent
  simp only [after] at nodes ⊢
  rw [nodes]

/-- Without a dropped report the store would be the same, and so would the failures but for the one
that a failed report of a collected category adds in its place. -/
theorem dropped_leaves_at_most_a_failure (categories : List Category) (store : Store)
    (names : List String) (reports : List Report) {before later : List Report} {report : Report}
    (taken : reports.take (expected categories names.length) = before ++ report :: later)
    (dropped : report.Dropped categories store) :
    let result := run categories store names reports
    let without := (before ++ later).foldl (apply categories) ⟨store, []⟩
    result.summary.received = (before ++ later).length + 1 ∧ result.store = without.store ∧
      (∃ front back, without.failures = front ++ back ∧ result.summary.failures =
        front ++ (if report.category ∈ categories then report.failure?.toList else []) ++ back) ∧
      (result.summary.failures = without.failures ↔
        report.category ∉ categories ∨ ∃ payload, report.outcome = .ok payload) := by
  intro result without
  have without_eq : without = after categories ⟨store, []⟩ (before ++ later) :=
    foldl_apply _ _
  have failures_without : without.failures =
      failures categories before ++ failures categories later := by
    rw [without_eq, after, List.nil_append, failures_append]
  have failures_result : result.summary.failures =
      failures categories before ++ failures categories [report] ++
        failures categories later := by
    rw [summary_run, taken, List.append_cons, failures_append, failures_append]
  refine ⟨?_, ?_, ⟨_, _, failures_without, ?_⟩, ?_⟩
  · rw [summary_run, taken]
    simp only [List.length_append, List.length_cons]
    omega
  · have with_it : result.store =
        (after categories ⟨store, []⟩ (before ++ report :: later)).store := by
      rw [← taken]
      exact store_run store names reports
    rw [with_it, without_eq]
    exact store_after_dropped dropped before later
  · rw [failures_result, failures_singleton]
  · rw [failures_result, failures_without, ← failures_singleton_eq_nil_iff,
      List.append_left_inj, List.append_right_eq_self]

/-- The failure of a node that is not stored, between reports of one that is. -/
theorem dropped_leaves_at_most_a_failure_mixed :
    let result := run [.interfaces, .arp] loneStore ["a", "ghost"] mixed
    let without := ([mixed[0]] ++ [mixed[2], mixed[3]]).foldl (apply [.interfaces, .arp])
      ⟨loneStore, []⟩
    result.summary.received = 4 ∧ result.store = without.store ∧ without.failures = [] ∧
      result.summary.failures = [⟨"ghost", .arp, "unexpected HTTP status 500"⟩] := by
  intro result without
  have taken : mixed.take (expected [.interfaces, .arp] ["a", "ghost"].length) =
      [mixed[0]] ++ mixed[1] :: [mixed[2], mixed[3]] := rfl
  have dropped : mixed[1].Dropped [.interfaces, .arp] loneStore := .inr (by decide)
  obtain ⟨received, store, -, -⟩ :=
    dropped_leaves_at_most_a_failure [.interfaces, .arp] loneStore ["a", "ghost"] mixed taken
      dropped
  exact ⟨received, store, by decide, by decide⟩

/-- So it is not true that a dropped report changes neither the store nor the failures. -/
theorem not_every_dropped_report_traceless :
    ¬ ∀ (categories : List Category) (store : Store) (names : List String)
      (reports before later : List Report) (report : Report),
      reports.take (expected categories names.length) = before ++ report :: later →
        report.Dropped categories store →
          let result := run categories store names reports
          let without := (before ++ later).foldl (apply categories) ⟨store, []⟩
          result.store = without.store ∧ result.summary.failures = without.failures := by
  intro traceless
  have failures := (traceless [.liveness] loneStore ["a"] [⟨"ghost", .liveness, .error (.status 500)⟩]
    [] [] ⟨"ghost", .liveness, .error (.status 500)⟩ rfl (.inr (by decide))).2
  revert failures
  decide

end Pass

end FabricSurvey
