import FabricSurvey.Collection.Payload
import FabricSurvey.Store

/-!
# Passes

A pass takes as many reports as there are fetches to account for and writes them into the store, one
after the other. A payload replaces what the node had of its category; a failure is noted and leaves
the category empty; a report of a category that is not collected, or of a node that is not there,
changes nothing in the store.
-/

namespace FabricSurvey

/-- A fetch that gave no data. -/
structure Failure where
  node : String
  category : Category
  reason : String
  deriving DecidableEq, Repr

/-- What a pass has come to. -/
structure Summary where
  expected : Nat
  received : Nat
  /-- In the order of arrival. -/
  failures : List Failure
  deriving DecidableEq, Repr

namespace Summary

def complete (summary : Summary) : Bool := summary.expected ≤ summary.received

def ensureComplete (summary : Summary) : Except SurveyError Unit :=
  if summary.complete then .ok () else .error (.incomplete summary.expected summary.received)

end Summary

namespace Store

/-- Writes a payload into the category it belongs to. -/
def storePayload (store : Store) (name : String) : Payload → Except SurveyError Store
  | .liveness liveness => store.setLiveness name (some liveness)
  | .interfaces table =>
    store.setInterfaces name (sortedByIndex table fun index i => { i with index })
  | .bridgeDomains table =>
    store.setBridgeDomains name (sortedByIndex table fun index d => { d with index })
  | .l2Entries table => store.setL2Entries name (sortedByKey table)
  | .telemetry table => store.setTelemetry name (sortedByKey table)
  | .arp table => store.setArpEntries name table.project

/-- Empties a category. -/
def clearCategory (store : Store) (name : String) : Category → Except SurveyError Store
  | .liveness => store.setLiveness name none
  | .interfaces => store.setInterfaces name []
  | .bridgeDomains => store.setBridgeDomains name []
  | .l2Entries => store.setL2Entries name []
  | .telemetry => store.setTelemetry name []
  | .arp => store.setArpEntries name []

/-- The store after a change that may not apply to it. -/
def orUnchanged (store : Store) : Except SurveyError Store → Store
  | .ok changed => changed
  | .error _ => store

end Store

namespace Pass

def expected (categories : List Category) (nodes : Nat) : Nat := categories.length * nodes

structure State where
  store : Store
  failures : List Failure
  deriving DecidableEq

/-- Takes one report into account. -/
def apply (categories : List Category) (state : State) (report : Report) : State :=
  if report.category ∈ categories then
    match report.outcome with
    | .ok payload =>
      { state with store := state.store.orUnchanged (state.store.storePayload report.node payload) }
    | .error cause =>
      { store := state.store.orUnchanged (state.store.clearCategory report.node report.category)
        failures := state.failures ++ [⟨report.node, report.category, cause.message⟩] }
  else state

/-- What a pass leaves behind: the store, its summary, and the reports that it did not take. -/
structure Result where
  store : Store
  summary : Summary
  left : List Report

/-- Takes the expected number of reports, or as many as there are, in the order of their arrival. Reports
are waited for until the pass is over; that this is a time that the clock can give is presupposed. -/
def run (categories : List Category) (store : Store) (names : List String) (reports : List Report) :
    Result :=
  let expected := expected categories names.length
  let taken := reports.take expected
  let state := taken.foldl (apply categories) ⟨store, []⟩
  { store := state.store
    summary := ⟨expected, taken.length, state.failures⟩
    left := reports.drop expected }

end Pass

end FabricSurvey
