import FabricSurvey.Proofs.Holding
import Mathlib.Data.List.Forall2
import Mathlib.Data.List.Induction

/-!
# What a pass does to each node

A report changes no more than one category of one node. The store after some reports is therefore the
same map of nodes with every node changed on its own, and a category of a node is what the last
report about it has left there. Nothing but the nodes changes.
-/

namespace FabricSurvey

open Std (ExtTreeMap)

namespace Report

def holding (report : Report) : Holding :=
  match report.outcome with
  | .ok payload => payload.holding
  | .error _ => .empty report.category

def failure? (report : Report) : Option Failure :=
  match report.outcome with
  | .ok _ => none
  | .error cause => some ⟨report.node, report.category, cause.message⟩

theorem filter_filterMap_failure? (p : String → Category → Bool) (reports : List Report) :
    (reports.filterMap failure?).filter (fun failure => p failure.node failure.category) =
      (reports.filter fun report => p report.node report.category).filterMap failure? := by
  rw [List.filter_filterMap, List.filterMap_filter]
  refine List.filterMap_congr fun report _ => ?_
  unfold failure?
  cases report.outcome with
  | ok payload => simp
  | error cause => simp [Option.filter]

end Report

namespace Node

/-- A node after one report. The report has to name it and to be of a category that is collected. -/
def receive (categories : List Category) (name : String) (node : Node) (report : Report) : Node :=
  if report.node = name ∧ report.category ∈ categories then node.put report.holding else node

def received (categories : List Category) (name : String) (node : Node) (reports : List Report) :
    Node :=
  reports.foldl (receive categories name) node

variable {categories : List Category} {name : String} {node : Node} {reports : List Report}

@[simp] theorem identity_receive (node : Node) (report : Report) :
    (node.receive categories name report).identity = node.identity := by
  unfold receive
  split <;> simp

@[simp] theorem identity_received (node : Node) (reports : List Report) :
    (node.received categories name reports).identity = node.identity := by
  unfold received
  induction reports generalizing node with
  | nil => rfl
  | cons report reports ih => rw [List.foldl_cons, ih, identity_receive]

@[simp] theorem name_received (node : Node) (reports : List Report) :
    (node.received categories name reports).name = node.name :=
  congrArg Identity.name (identity_received node reports)

theorem received_concat (node : Node) (reports : List Report) (report : Report) :
    node.received categories name (reports ++ [report]) =
      (node.received categories name reports).receive categories name report := by
  simp only [received, List.foldl_append, List.foldl_cons, List.foldl_nil]

def Decides (categories : List Category) (name : String) (category : Category)
    (report : Report) : Prop :=
  report.node = name ∧ report.category ∈ categories ∧ report.holding.category = category

instance (categories : List Category) (name : String) (category : Category) :
    DecidablePred (Decides categories name category) :=
  fun report => inferInstanceAs (Decidable (report.node = name ∧ report.category ∈ categories ∧
    report.holding.category = category))

/-- The last report about a category decides what the node has of it. -/
theorem holding_received (node : Node) (reports : List Report) (category : Category) :
    (node.received categories name reports).holding category =
      (reports.filter (Decides categories name category)).getLast?.elim
        (node.holding category) Report.holding := by
  induction reports using List.reverseRecOn with
  | nil => rfl
  | append_singleton reports report ih =>
      rw [received_concat, receive, List.filter_append, List.getLast?_append]
      by_cases hd : Decides categories name category report
      · rw [if_pos ⟨hd.1, hd.2.1⟩, holding_put, if_pos hd.2.2]
        simp [hd]
      · have hl : [report].filter (Decides categories name category) = [] := by simp [hd]
        rw [hl, List.getLast?_nil, Option.none_or, ← ih]
        split_ifs with h
        · rw [holding_put, if_neg fun hc => hd ⟨h.1, h.2, hc⟩]
        · rfl

/-- A relation between nodes that related reports keep is kept by two streams of them. -/
theorem rel_received {R : Node → Node → Prop} {S : Report → Report → Prop}
    (step : ∀ {a b first second}, R a b → S first second →
      R (a.receive categories name first) (b.receive categories name second))
    {a b : Node} (related : R a b) {reports others : List Report}
    (each : List.Forall₂ S reports others) :
    R (a.received categories name reports) (b.received categories name others) := by
  unfold Node.received
  induction each generalizing a b with
  | nil => exact related
  | cons first _ ih => exact ih (step related first)

end Node

/-- The same names in both maps, with related nodes under each of them. -/
def Nodewise (R : Node → Node → Prop) (nodes others : ExtTreeMap String Node) : Prop :=
  ∀ name : String, Option.Rel R nodes[name]? others[name]?

namespace Nodewise

variable {R : Node → Node → Prop} {nodes others : ExtTreeMap String Node} {name : String}

theorem none_or_some (related : Nodewise R nodes others) (name : String) :
    (nodes[name]? = none ∧ others[name]? = none) ∨
      ∃ node other, nodes[name]? = some node ∧ others[name]? = some other ∧ R node other := by
  have found := related name
  generalize nodes[name]? = node at found
  generalize others[name]? = other at found
  cases found with
  | none => exact .inl ⟨rfl, rfl⟩
  | some related => exact .inr ⟨_, _, rfl, rfl, related⟩

theorem exists_left (related : Nodewise R nodes others) {other : Node}
    (h : others[name]? = some other) : ∃ node, nodes[name]? = some node ∧ R node other := by
  obtain ⟨-, absent⟩ | ⟨node, found, stored, stored', rel⟩ := related.none_or_some name
  · rw [absent] at h
    cases h
  · rw [stored'] at h
    cases h
    exact ⟨node, stored, rel⟩

theorem exists_right (related : Nodewise R nodes others) {node : Node}
    (h : nodes[name]? = some node) : ∃ other, others[name]? = some other ∧ R node other := by
  obtain ⟨absent, -⟩ | ⟨found, other, stored, stored', rel⟩ := related.none_or_some name
  · rw [absent] at h
    cases h
  · rw [stored] at h
    cases h
    exact ⟨other, stored', rel⟩

theorem keys_eq (related : Nodewise R nodes others) : nodes.keys = others.keys := by
  have occupied : nodes.map (fun _ _ => ()) = others.map fun _ _ => () := by
    apply ExtTreeMap.ext_getElem?
    intro name
    rw [ExtTreeMap.getElem?_map, ExtTreeMap.getElem?_map]
    obtain ⟨absent, absent'⟩ | ⟨_, _, stored, stored', -⟩ := related.none_or_some name
    · rw [absent, absent']
    · rw [stored, stored']
      rfl
  have keys := congrArg ExtTreeMap.keys occupied
  rwa [ExtTreeMap.keys_map, ExtTreeMap.keys_map] at keys

end Nodewise

namespace Pass

variable {categories : List Category}

def failures (categories : List Category) (reports : List Report) : List Failure :=
  (reports.filter (·.category ∈ categories)).filterMap Report.failure?

/-- The state after some reports: every node has received them on its own, and nothing else in the
store has changed. -/
def after (categories : List Category) (state : State) (reports : List Report) : State where
  store := { state.store with
    nodes := state.store.nodes.map fun name node => node.received categories name reports }
  failures := state.failures ++ failures categories reports

theorem after_nil (state : State) : after categories state [] = state := by
  simp [after, failures, Node.received]

theorem failures_append (reports more : List Report) :
    failures categories (reports ++ more) =
      failures categories reports ++ failures categories more := by
  simp only [failures, List.filter_append, List.filterMap_append]

theorem after_cons (state : State) (report : Report) (reports : List Report) :
    after categories state (report :: reports) =
      after categories (after categories state [report]) reports := by
  rw [← List.singleton_append]
  simp only [after, failures_append, Node.received, List.foldl_append, ExtTreeMap.map_map,
    List.append_assoc]

/-- The effect of one report: a write into the node that it names, and a failure if it is one. -/
theorem after_singleton (state : State) (report : Report) :
    after categories state [report] =
      if report.category ∈ categories then
        { store := state.store.orUnchanged (state.store.update report.node (·.put report.holding))
          failures := state.failures ++ report.failure?.toList }
      else state := by
  simp only [after, failures, Node.received, List.foldl_cons, List.foldl_nil, Node.receive]
  split_ifs with hc
  · rw [Store.orUnchanged_update]
    cases hf : report.failure? <;> simp [hc, hf]
  · simp [hc]

theorem apply_eq_after (state : State) (report : Report) :
    apply categories state report = after categories state [report] := by
  rw [after_singleton]
  unfold apply Report.holding Report.failure?
  cases report.outcome with
  | ok payload => simp [Store.storePayload_eq_update]
  | error cause => simp [Store.clearCategory_eq_update]

theorem get?_apply (categories : List Category) (state : State) (report : Report) (name : String) :
    (apply categories state report).store.get? name =
      (state.store.get? name).map fun node => node.receive categories name report := by
  rw [apply_eq_after]
  exact ExtTreeMap.getElem?_map

theorem foldl_apply (state : State) (reports : List Report) :
    reports.foldl (apply categories) state = after categories state reports := by
  induction reports generalizing state with
  | nil => rw [List.foldl_nil, after_nil]
  | cons report reports ih => rw [List.foldl_cons, ih, apply_eq_after, ← after_cons]

theorem store_run (store : Store) (names : List String) (reports : List Report) :
    (run categories store names reports).store =
      { store with
        nodes := store.nodes.map fun name node =>
          node.received categories name (reports.take (expected categories names.length)) } := by
  simp only [run, foldl_apply, after]

theorem get?_run (store : Store) (names : List String) (reports : List Report) (name : String) :
    (run categories store names reports).store.get? name =
      (store.get? name).map fun node =>
        node.received categories name (reports.take (expected categories names.length)) := by
  rw [store_run]
  exact ExtTreeMap.getElem?_map

theorem identity_run (store : Store) (names : List String) (reports : List Report)
    (name : String) :
    ((run categories store names reports).store.get? name).map Node.identity =
      (store.get? name).map Node.identity := by
  rw [get?_run, Option.map_map]
  refine congrFun (congrArg _ (funext fun node => ?_)) _
  exact Node.identity_received node _

/-- Two passes over one store with related reports leave related nodes. -/
theorem nodewise_run {R : Node → Node → Prop} {S : Report → Report → Prop}
    (refl : ∀ node, R node node)
    (step : ∀ {name a b first second}, R a b → S first second →
      R (Node.receive categories name a first) (Node.receive categories name b second))
    (store : Store) (names : List String) {reports others : List Report}
    (each : List.Forall₂ S reports others) :
    Nodewise R (run categories store names reports).store.nodes
      (run categories store names others).store.nodes := by
  intro name
  change Option.Rel R ((run categories store names reports).store.get? name)
    ((run categories store names others).store.get? name)
  rw [get?_run, get?_run]
  cases store.get? name with
  | none => exact .none
  | some node =>
      have taken := List.forall₂_take (expected categories names.length) each
      exact .some (Node.rel_received step (refl node) taken)

theorem summary_run (store : Store) (names : List String) (reports : List Report) :
    (run categories store names reports).summary =
      { expected := expected categories names.length
        received := (reports.take (expected categories names.length)).length
        failures := failures categories (reports.take (expected categories names.length)) } := by
  simp only [run, foldl_apply, after, List.nil_append]

end Pass

end FabricSurvey
