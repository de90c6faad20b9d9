import FabricSurvey.Proofs.History
import FabricSurvey.Proofs.Stream

/-!
# Tables in order

A table of interfaces or bridge domains is stored as a list, in ascending order of the indices that it
was served under. Nothing but a pass writes such lists by itself, so they are in order over whole
histories. What a look-up finds in a list can then be told from the table, whatever the records say
about their own index.
-/

namespace FabricSurvey

open Std (ExtTreeMap)

section

variable {α : Type}

theorem find?_eq_some_iff_least {index : α → UInt32} {entries : List α}
    (ordered : entries.Pairwise fun a b => index a < index b) {p : α → Bool} {found : α} :
    entries.find? p = some found ↔
      found ∈ entries ∧ p found = true ∧ ∀ other ∈ entries, p other = true →
        index found ≤ index other := by
  rw [List.find?_eq_some_iff_append]
  constructor
  · intro h
    obtain ⟨matching, before, after, rfl, skipped⟩ := h
    refine ⟨by simp, matching, fun other ho matches_too => ?_⟩
    rcases List.mem_append.1 ho with earlier | later
    · simpa [matches_too] using skipped other earlier
    · rcases List.mem_cons.1 later with rfl | later
      · exact UInt32.le_refl _
      · have behind := List.pairwise_cons.1 (List.pairwise_append.1 ordered).2.1
        exact UInt32.le_of_lt (behind.1 other later)
  · intro h
    obtain ⟨hf, matching, least⟩ := h
    obtain ⟨before, after, rfl⟩ := List.append_of_mem hf
    refine ⟨matching, before, after, rfl, fun other earlier => ?_⟩
    have below : index other < index found :=
      (List.pairwise_append.1 ordered).2.2 other earlier found List.mem_cons_self
    rw [Bool.not_eq_eq_eq_not, Bool.not_true, Bool.eq_false_iff]
    intro matches_too
    exact absurd below (UInt32.not_lt.2 (least other (List.mem_append_left _ earlier) matches_too))

variable {table : ExtTreeMap UInt32 α} {tag : UInt32 → α → α}

theorem mem_sortedByIndex {entry : α} :
    entry ∈ sortedByIndex table tag ↔ ∃ index value, table[index]? = some value ∧
      tag index value = entry := by
  rw [sortedByIndex, List.mem_map]
  constructor
  · intro h
    obtain ⟨e, he, tagged⟩ := h
    exact ⟨e.1, e.2, ExtTreeMap.mem_toList_iff_getElem?_eq_some.1 he, tagged⟩
  · intro h
    obtain ⟨index, value, served, tagged⟩ := h
    exact ⟨(index, value), ExtTreeMap.mem_toList_iff_getElem?_eq_some.2 served, tagged⟩

theorem pairwise_sortedByIndex (table : ExtTreeMap UInt32 α) (index : α → UInt32)
    (tagged : ∀ key value, index (tag key value) = key) :
    (sortedByIndex table tag).Pairwise fun a b => index a < index b := by
  refine List.Pairwise.map _ (fun a b h => ?_) ExtTreeMap.ordered_keys_toList
  rw [tagged, tagged]
  exact Std.compare_eq_lt.1 h

end

section

variable (table : ExtTreeMap UInt32 Interface)

abbrev sortedInterfaces : List Interface :=
  sortedByIndex table fun index interface => { interface with index }

theorem pairwise_sortedInterfaces :
    (sortedInterfaces table).Pairwise fun a b => a.index < b.index :=
  pairwise_sortedByIndex table Interface.index fun _ _ => rfl

theorem findInterface_sortedInterfaces (index : UInt32) :
    findInterface (sortedInterfaces table) index =
      table[index]?.map fun interface => { interface with index } := by
  ext found
  rw [findInterface, find?_eq_some_iff_least (pairwise_sortedInterfaces table),
    Option.map_eq_some_iff, mem_sortedByIndex]
  constructor
  · intro h
    obtain ⟨⟨key, interface, served, rfl⟩, own, -⟩ := h
    obtain rfl : key = index := beq_iff_eq.1 own
    exact ⟨interface, served, rfl⟩
  · intro h
    obtain ⟨interface, served, rfl⟩ := h
    refine ⟨⟨index, interface, served, rfl⟩, beq_self_eq_true index, fun other _ own => ?_⟩
    rw [beq_iff_eq.1 own]
    exact UInt32.le_refl index

/-- The record of this name that was served under the least index. -/
structure FirstNamed (name : String) (index : UInt32) (interface : Interface) : Prop where
  served : table[index]? = some interface
  named : interface.internalName = name
  least : ∀ other (later : Interface), table[other]? = some later → later.internalName = name →
    index ≤ other

variable {table}

theorem findInternal_eq_some_iff {name : String} {found : Interface} :
    findInternal (sortedInterfaces table) name = some found ↔
      ∃ index interface, FirstNamed table name index interface ∧
        found = { interface with index } := by
  rw [findInternal, find?_eq_some_iff_least (pairwise_sortedInterfaces table), mem_sortedByIndex]
  constructor
  · intro h
    obtain ⟨⟨index, interface, served, rfl⟩, named, least⟩ := h
    refine ⟨index, interface, ⟨served, beq_iff_eq.1 named, fun other later hl own => ?_⟩, rfl⟩
    exact least { later with index := other } (mem_sortedByIndex.2 ⟨other, later, hl, rfl⟩)
      (beq_iff_eq.2 own)
  · intro h
    obtain ⟨index, interface, first, rfl⟩ := h
    refine ⟨⟨index, interface, first.served, rfl⟩, beq_iff_eq.2 first.named, fun other ho own => ?_⟩
    obtain ⟨key, later, hl, rfl⟩ := mem_sortedByIndex.1 ho
    exact first.least key later hl (beq_iff_eq.1 own)

theorem findInternal_eq_none_iff {name : String} :
    findInternal (sortedInterfaces table) name = none ↔
      ∀ (index : UInt32) interface, table[index]? = some interface →
        interface.internalName ≠ name := by
  rw [findInternal, List.find?_eq_none]
  constructor
  · intro h index interface served own
    exact h { interface with index } (mem_sortedByIndex.2 ⟨index, interface, served, rfl⟩)
      (beq_iff_eq.2 own)
  · intro h found hf own
    obtain ⟨index, interface, served, rfl⟩ := mem_sortedByIndex.1 hf
    exact h index interface served (beq_iff_eq.1 own)

end

/-- The list of a category that is kept by index is in ascending order of it. -/
def Holding.Ordered : Holding → Prop
  | .interfaces entries => entries.Pairwise fun a b => a.index < b.index
  | .bridgeDomains entries => entries.Pairwise fun a b => a.index < b.index
  | .liveness _ | .l2Entries _ | .telemetry _ | .arp _ => True

theorem Holding.ordered_empty (category : Category) : (empty category).Ordered := by
  cases category <;> simp [empty, Ordered]

theorem Payload.ordered_holding (payload : Payload) : payload.holding.Ordered := by
  cases payload with
  | interfaces table => exact pairwise_sortedInterfaces table
  | bridgeDomains table =>
      exact pairwise_sortedByIndex table BridgeDomain.index fun index domain => rfl
  | liveness _ | l2Entries _ | telemetry _ | arp _ => trivial

theorem Report.ordered_holding (report : Report) : report.holding.Ordered := by
  unfold holding
  cases report.outcome with
  | ok payload => exact payload.ordered_holding
  | error cause => exact Holding.ordered_empty report.category

namespace Node

def Ordered (node : Node) : Prop := ∀ category, (node.holding category).Ordered

theorem ordered_ofIdentity (identity : Identity) : (ofIdentity identity).Ordered := by
  intro category
  cases category <;> simp [ofIdentity, holding, Holding.Ordered]

variable {node : Node}

theorem Ordered.put (ordered : node.Ordered) {held : Holding} (h : held.Ordered) :
    (node.put held).Ordered := by
  intro category
  rw [holding_put]
  split_ifs
  · exact h
  · exact ordered category

theorem Ordered.received (ordered : node.Ordered) (categories : List Category) (name : String)
    (reports : List Report) : (node.received categories name reports).Ordered := by
  induction reports using List.reverseRecOn with
  | nil => exact ordered
  | append_singleton reports report ih =>
      rw [received_concat, receive]
      split_ifs
      · exact ih.put report.ordered_holding
      · exact ih

end Node

namespace Store

variable {store : Store} {name : String} {node : Node}

def Ordered (store : Store) : Prop := ∀ name node, store.get? name = some node → node.Ordered

/-- A list that is set by hand has to be in order. -/
def Operation.Ordered : Operation → Prop
  | .set _ held => held.Ordered
  | _ => True

theorem Ordered.perform (ordered : store.Ordered) {operation : Operation}
    (h : operation.Ordered) : (store.perform operation).Ordered := by
  intro name node hn
  rcases writes_or_joins store operation with writes | joins
  · cases writes with
    | delete other =>
        rw [get?_perform_delete] at hn
        split_ifs at hn
        exact ordered name node hn
    | set other held =>
        rw [get?_perform_set, Option.map_eq_some_iff] at hn
        obtain ⟨earlier, hs, rfl⟩ := hn
        split_ifs
        · exact (ordered name earlier hs).put h
        · exact ordered name earlier hs
    | pass categories names reports =>
        rw [Store.perform, Pass.get?_run, Option.map_eq_some_iff] at hn
        obtain ⟨earlier, hs, rfl⟩ := hn
        exact (ordered name earlier hs).received categories name _
  · cases hs : store.get? name with
    | none =>
        obtain ⟨identity, rfl⟩ := joins.fresh name node hs hn
        exact Node.ordered_ofIdentity identity
    | some earlier =>
        obtain rfl : earlier = node :=
          Option.some.inj ((joins.kept name earlier hs).symm.trans hn)
        exact ordered name earlier hs

theorem ordered_after {operations : List Operation}
    (h : ∀ operation ∈ operations, operation.Ordered) : (after operations).Ordered := by
  induction operations using List.reverseRecOn with
  | nil =>
      intro name node hn
      rw [after, List.foldl_nil, get?_empty] at hn
      cases hn
  | append_singleton operations operation ih =>
      rw [after_concat]
      exact (ih fun earlier he => h earlier (List.mem_append_left _ he)).perform
        (h operation (List.mem_append_right _ (List.mem_singleton_self operation)))

/-- The operation neither removes a node nor writes one of its categories. -/
def Operation.Spares (name : String) (category : Category) : Operation → Prop
  | .delete other => other ≠ name
  | .set other held => other = name → held.category ≠ category
  | .pass categories names reports =>
      ∀ report ∈ reports.take (Pass.expected categories names.length),
        ¬ report.Settles categories name category
  | _ => True

theorem holding_perform {operation : Operation} {category : Category}
    (stored : store.get? name = some node) (spares : operation.Spares name category) :
    ∃ found, (store.perform operation).get? name = some found ∧
      found.holding category = node.holding category := by
  rcases writes_or_joins store operation with writes | joins
  · cases writes with
    | delete other => exact ⟨node, by rw [get?_perform_delete, if_neg spares, stored], rfl⟩
    | set other held =>
        refine ⟨_, by rw [get?_perform_set, stored, Option.map_some], ?_⟩
        split_ifs with own
        · rw [Node.holding_put, if_neg (spares own)]
        · rfl
    | pass categories names reports =>
        refine ⟨_, by rw [perform, Pass.get?_run, stored, Option.map_some], ?_⟩
        exact Pass.holding_received_of_unsettled node spares
  · exact ⟨node, joins.kept name node stored, rfl⟩

/-- The last report about a category of a node, since the node was last added, carries a payload. -/
inductive Latest (name : String) (payload : Payload) : List Operation → Prop
  | reported {operations : List Operation} {categories : List Category} {names : List String}
      {reports : List Report} {report : Report} :
      name ∈ (after operations).nodes →
      Pass.IsLast categories name payload.category
        (reports.take (Pass.expected categories names.length)) report →
      report.outcome = .ok payload →
      Latest name payload (operations ++ [.pass categories names reports])
  | spared {operations : List Operation} {operation : Operation} :
      Latest name payload operations → operation.Spares name payload.category →
      Latest name payload (operations ++ [operation])

theorem Latest.holding {payload : Payload} {operations : List Operation}
    (latest : Latest name payload operations) :
    ∃ node, (after operations).get? name = some node ∧
      node.holding payload.category = payload.holding := by
  induction latest with
  | @reported operations categories names reports report stored last outcome =>
      obtain ⟨earlier, hs⟩ := mem_nodes_iff.1 stored
      rw [after_concat]
      refine ⟨_, by rw [perform, Pass.get?_run, hs, Option.map_some], ?_⟩
      rw [Pass.holding_received_of_isLast earlier last, Report.holding, outcome]
  | @spared operations operation _ spares ih =>
      obtain ⟨earlier, hs, held⟩ := ih
      obtain ⟨found, hf, same⟩ := holding_perform hs spares
      rw [after_concat]
      exact ⟨found, hf, same.trans held⟩

/-- Interfaces and bridge domains are in order over any history in which none are set out of order.
While the last report about the interfaces of a node carried a table, each index leads to the record
served under it, and each internal name to the first of the records with that name. -/
theorem tables_indexed {operations : List Operation}
    (h : ∀ operation ∈ operations, operation.Ordered) :
    (∀ name node, (after operations).get? name = some node →
        node.interfaces.Pairwise (fun a b => a.index < b.index) ∧
          node.bridgeDomains.Pairwise fun a b => a.index < b.index) ∧
      ∀ name table, Latest name (.interfaces table) operations →
        ∃ node, (after operations).get? name = some node ∧
          (∀ index, node.interface? index =
            table[index]?.map fun interface => { interface with index }) ∧
          ∀ internal,
            (∀ found, node.internal? internal = some found ↔ ∃ index interface,
              FirstNamed table internal index interface ∧ found = { interface with index }) ∧
            (node.internal? internal = none ↔ ∀ (index : UInt32) interface,
              table[index]? = some interface → interface.internalName ≠ internal) := by
  constructor
  · intro name node stored
    have ordered := ordered_after h name node stored
    exact ⟨ordered .interfaces, ordered .bridgeDomains⟩
  · intro name table latest
    obtain ⟨node, stored, held⟩ := latest.holding
    have interfaces : node.interfaces = sortedInterfaces table := Holding.interfaces.inj held
    refine ⟨node, stored, fun index => ?_, fun internal => ?_⟩
    · rw [Node.interface?, interfaces, findInterface_sortedInterfaces]
    · rw [Node.internal?, interfaces]
      exact ⟨fun found => findInternal_eq_some_iff, findInternal_eq_none_iff⟩

def twin (index mtu : UInt32) : Interface :=
  ⟨index, "loop0", "bvi", 0, true, "0a", mtu, none, [], none⟩

/-- Two records of one internal name, each with the index of the other. -/
def crossed : ExtTreeMap UInt32 Interface :=
  ExtTreeMap.ofList [((7 : UInt32), twin 3 1500), (3, twin 7 9000)]

/-- A table arrives after a failure. It is followed by a failure that is not read, and by one of
another category. -/
def served : List Operation :=
  [.add ⟨1, "a", "", "10.20.0.2"⟩,
    .pass [.interfaces, .arp] ["a"] [⟨"a", .interfaces, .error (.status 500)⟩,
      ⟨"a", .interfaces, .ok (.interfaces crossed)⟩, ⟨"a", .interfaces, .error (.status 404)⟩],
    .pass [.arp] ["a"] [⟨"a", .arp, .error (.status 404)⟩], .validate {} ["a"]]

theorem latest_served : Latest "a" (.interfaces crossed) served := by
  have reported : Latest "a" (.interfaces crossed) (served.take 2) := by
    have stored : "a" ∈ (after (served.take 1)).nodes := by decide
    have last : Pass.IsLast [.interfaces, .arp] "a" .interfaces
        [⟨"a", .interfaces, .error (.status 500)⟩, ⟨"a", .interfaces, .ok (.interfaces crossed)⟩]
        ⟨"a", .interfaces, .ok (.interfaces crossed)⟩ :=
      ⟨⟨rfl, by decide, rfl⟩, [_], [], rfl, fun next hn => absurd hn List.not_mem_nil⟩
    exact .reported stored last rfl
  have spared : Latest "a" (.interfaces crossed) (served.take 3) := by
    refine .spared reported fun report hr settles => ?_
    rw [List.mem_singleton.1 hr] at settles
    cases settles.2.2
  exact .spared spared trivial

/-- Each record is found under the index it was served under, and the name leads to the first. -/
theorem tables_indexed_served :
    (∀ operation ∈ served, operation.Ordered) ∧
      ∃ node, (after served).get? "a" = some node ∧ node.interface? 3 = some (twin 3 9000) ∧
        node.interface? 7 = some (twin 7 1500) ∧ node.internal? "loop0" = some (twin 3 9000) := by
  have ordered : ∀ operation ∈ served, operation.Ordered := by
    simp [served, Operation.Ordered]
  obtain ⟨-, indexed⟩ := tables_indexed ordered
  obtain ⟨node, stored, byIndex, byName⟩ := indexed "a" crossed latest_served
  refine ⟨ordered, node, stored, ?_, ?_, ?_⟩
  · rw [byIndex]
    decide
  · rw [byIndex]
    decide
  · refine ((byName "loop0").1 (twin 3 9000)).2 ⟨3, twin 7 9000, ⟨by decide, rfl, ?_⟩, rfl⟩
    intro other later hl _
    have indices : ∀ entry ∈ crossed.toList, 3 ≤ entry.1 := by decide
    exact indices (other, later) (ExtTreeMap.mem_toList_iff_getElem?_eq_some.2 hl)

end Store

end FabricSurvey
