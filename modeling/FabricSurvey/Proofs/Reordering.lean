import FabricSurvey.Proofs.Body
import FabricSurvey.Proofs.Independence
import FabricSurvey.Proofs.Pass
import FabricSurvey.Proofs.RoundTrip

/-!
# ARP entries in another order

An agent may serve its ARP entries as a list in any order, or in an object under any distinct keys, and
spell either as it likes. All that a reader can tell from the body are the entries. Every order and every
choice of keys is open to an agent, and a node keeps its entries in the order of the list or of the keys.

Validation asks of every node whether one of its entries is contradictory, and whether one resolves, and
neither depends on the order. Only the message of a contradiction does, as it is about the first one.
-/

namespace FabricSurvey

open Json
open Json.Value (draftItems draftEntries spells_escaped)
open Std (ExtTreeMap)

/-- The trees that an agent may serve some ARP entries as: an array of them in any order, or an object
that has them under any keys, no two of them the same. -/
inductive ArpTable.Serves (entries : List ArpEntry) : Draft → Prop
  | list {listed : List ArpEntry} {draft : Draft} :
      listed.Perm entries → Json.Renders listed draft → Serves entries draft
  | keyed {pairs : List (String × ArpEntry)} {members : List (Bytes × Draft)} :
      (pairs.map Prod.fst).Nodup → (pairs.map Prod.snd).Perm entries →
      List.Forall₂ (EntryRenders SpellsTextKey) pairs members →
      Serves entries (.object members .closed)

/-- The bodies that some ARP entries may be served in. What is in them besides the entries is nested no
deeper and its numbers are no greater than a reader bears. -/
def ServesArp (entries : List ArpEntry) (body : Bytes) : Prop :=
  ∃ draft : Draft, ArpTable.Serves entries draft ∧ draft.WholeText body ∧ draft.nesting ≤ 127 ∧
    ∀ numeral ∈ draft.numerals, numeral.StaysFinite

theorem ArpTable.exists_of_serves {entries : List ArpEntry} {draft : Draft}
    (h : ArpTable.Serves entries draft) :
    ∃ table : ArpTable, (Payload.arp table).Renders draft ∧ table.project.Perm entries := by
  cases h with
  | @list listed _ perm renders => exact ⟨.list listed, renders, perm⟩
  | @keyed pairs members distinct perm each =>
      have held := perm_toList_ofList distinct
      refine ⟨.keyed (ExtTreeMap.ofList pairs), ⟨pairs, members, held, rfl, each⟩, ?_⟩
      exact (held.symm.map Prod.snd).trans perm

/-- Whatever form the entries are served in, they are what is read. -/
theorem decode_of_servesArp {entries : List ArpEntry} {body : Bytes} (h : ServesArp entries body) :
    ∃ table : ArpTable, Payload.decode .arp body = .ok (.arp table) ∧ table.project.Perm entries := by
  obtain ⟨draft, serves, whole, shallow, finite⟩ := h
  obtain ⟨table, renders, perm⟩ := ArpTable.exists_of_serves serves
  obtain ⟨_, text, _, -, -, written, -⟩ := id whole
  have sound : draft.check Draft.maxDepth = .ok () := by
    refine Draft.checks_of_written written Draft.maxDepth shallow fun numeral listed => ?_
    exact (Numeral.isSome_number?_iff numeral).2 (finite numeral listed)
  refine ⟨table, ?_, perm⟩
  rw [Payload.decode, readWhole_written whole]
  exact Payload.ofDraft_of_renders ⟨text, written⟩ (fun _ => sound) renders

theorem renders_encode_arpEntry (entry : ArpEntry) : Json.Renders entry (encode entry).draft :=
  (Shaped.shape ArpEntry).renders_encode (by decide) (Shaped.toData entry)

theorem staysFinite_of_mem_numerals {entry : ArpEntry} {numeral : Numeral}
    (h : numeral ∈ (encode entry).draft.numerals) : numeral.StaysFinite := by
  have only : (encode entry).draft.numerals = [.ofInt entry.interfaceIndex.toNat] := rfl
  have small := entry.interfaceIndex.toNat_lt
  rw [only] at h
  obtain rfl := List.mem_singleton.1 h
  rw [← Numeral.isSome_number?_iff, Numeral.number?_ofInt (by omega) (by omega)]
  rfl

theorem bearable_items (entries : List ArpEntry) :
    Draft.nestingItems (draftItems (entries.map encode)) ≤ 1 ∧
      ∀ numeral ∈ Draft.numeralsOfItems (draftItems (entries.map encode)), numeral.StaysFinite := by
  induction entries with
  | nil => exact ⟨Nat.zero_le 1, fun numeral h => absurd h List.not_mem_nil⟩
  | cons entry entries ih =>
      refine ⟨Nat.max_le.2 ⟨Nat.le_refl 1, ih.1⟩, fun numeral h => ?_⟩
      rcases List.mem_append.1 h with first | later
      · exact staysFinite_of_mem_numerals first
      · exact ih.2 numeral later

theorem bearable_members (pairs : List (String × ArpEntry)) :
    let members := draftEntries (pairs.map fun pair => (pair.1, encode pair.2))
    Draft.nestingEntries members ≤ 1 ∧
      (∀ numeral ∈ Draft.numeralsOfEntries members, numeral.StaysFinite) ∧
      List.Forall₂ (EntryRenders SpellsTextKey) pairs members := by
  induction pairs with
  | nil => exact ⟨Nat.zero_le 1, fun numeral h => absurd h List.not_mem_nil, .nil⟩
  | cons pair pairs ih =>
      obtain ⟨shallow, finite, each⟩ := ih
      refine ⟨Nat.max_le.2 ⟨Nat.le_refl 1, shallow⟩, fun numeral h => ?_, .cons ?_ each⟩
      · rcases List.mem_append.1 h with first | later
        · exact staysFinite_of_mem_numerals first
        · exact finite numeral later
      · exact ⟨spells_escaped pair.1.toList, renders_encode_arpEntry pair.2⟩

theorem servesArp_list {entries listed : List ArpEntry} (perm : listed.Perm entries) :
    ServesArp entries (utf8 (encode listed).compact) := by
  obtain ⟨shallow, finite⟩ := bearable_items listed
  have renders : Json.Renders listed (encode listed).draft :=
    (Shaped.shape (List ArpEntry)).renders_encode (by decide) (Shaped.toData listed)
  refine ⟨_, .list perm renders, Value.wholeText_compact _, ?_, ?_⟩
  · rw [encode_list]
    exact Nat.le_trans (Nat.succ_le_succ shallow) (by decide)
  · rw [encode_list]
    exact finite

theorem servesArp_keyed {entries : List ArpEntry} {pairs : List (String × ArpEntry)}
    (distinct : (pairs.map Prod.fst).Nodup) (perm : (pairs.map Prod.snd).Perm entries) :
    ServesArp entries
      (utf8 (Value.object (pairs.map fun pair => (pair.1, encode pair.2))).compact) := by
  obtain ⟨shallow, finite, each⟩ := bearable_members pairs
  exact ⟨_, .keyed distinct perm each, Value.wholeText_compact _,
    Nat.le_trans (Nat.succ_le_succ shallow) (by decide), finite⟩

namespace Node

/-- The nodes differ at most in the order of their ARP entries. -/
inductive Reordered : Node → Node → Prop
  | intro (node : Node) {entries others : List ArpEntry} : entries.Perm others →
      Reordered { node with arpEntries := entries } { node with arpEntries := others }

end Node

namespace Report

/-- The reports are the same, or both bring ARP tables with the same entries. -/
inductive Reorders : Report → Report → Prop
  | same (report : Report) : Reorders report report
  | tables (node : String) (category : Category) {table other : ArpTable} :
      table.project.Perm other.project →
      Reorders ⟨node, category, .ok (.arp table)⟩ ⟨node, category, .ok (.arp other)⟩

end Report

namespace Node

variable {categories : List Category} {name : String} {a b : Node} {first second : Report}

theorem Reordered.refl (node : Node) : Reordered node node := .intro node (.refl node.arpEntries)

theorem Reordered.name_eq (h : Reordered a b) : a.name = b.name := by
  cases h
  rfl

theorem Reordered.interfaces_eq (h : Reordered a b) : a.interfaces = b.interfaces := by
  cases h
  rfl

theorem Reordered.arpEntries (h : Reordered a b) : a.arpEntries.Perm b.arpEntries := by
  obtain ⟨node, perm⟩ := h
  exact perm

theorem Reordered.put (h : Reordered a b) (held : Holding) : Reordered (a.put held) (b.put held) := by
  obtain ⟨node, perm⟩ := h
  cases held with
  -- The entries are overwritten, and with them the difference.
  | arp entries => exact .refl _
  | liveness liveness => exact .intro { node with liveness } perm
  | interfaces interfaces => exact .intro { node with interfaces } perm
  | bridgeDomains bridgeDomains => exact .intro { node with bridgeDomains } perm
  | l2Entries l2Entries => exact .intro { node with l2Entries } perm
  | telemetry telemetry => exact .intro { node with telemetry } perm

theorem Reordered.receive (h : Reordered a b) (reorders : first.Reorders second) :
    Reordered (a.receive categories name first) (b.receive categories name second) := by
  unfold Node.receive
  cases reorders with
  | same =>
      split_ifs
      · exact h.put _
      · exact h
  | tables _ _ perm =>
      split_ifs
      · obtain ⟨node, -⟩ := h
        exact .intro node perm
      · exact h

end Node

theorem Pass.reordered_run (categories : List Category) (store : Store) (names : List String)
    {reports others : List Report} (each : List.Forall₂ Report.Reorders reports others) :
    Nodewise Node.Reordered (run categories store names reports).store.nodes
      (run categories store names others).store.nodes :=
  nodewise_run Node.Reordered.refl (fun related reorders => related.receive reorders) store names each

namespace Validation

variable {settings : ValidationSettings} {a b : Store} {nodes others : ExtTreeMap String Node}
  {names : List String}

theorem loopback?_of_reordered {node other : Node} (h : node.Reordered other) :
    loopback? settings node = loopback? settings other := by
  rw [loopback?, loopback?, Node.internal?, Node.internal?, h.interfaces_eq]

theorem loopbackEntries_of_reordered {node other : Node} (h : node.Reordered other) :
    (loopbackEntries settings node).Perm (loopbackEntries settings other) := by
  unfold loopbackEntries
  rw [loopback?_of_reordered h]
  cases loopback? settings other with
  | none => exact .refl _
  | some interface => exact h.arpEntries.filter _

section Nodes

variable (reordered : Nodewise Node.Reordered nodes others)

include reordered

theorem loopbackOf?_of_reordered :
    loopbackOf? settings nodes = loopbackOf? settings others := by
  funext name
  unfold loopbackOf?
  obtain ⟨absent, absent'⟩ | ⟨node, other, stored, stored', h⟩ := reordered.none_or_some name
  · rw [absent, absent']
  · rw [stored, stored', Option.bind_some, Option.bind_some, loopback?_of_reordered h]

theorem lacksLoopback_of_reordered :
    lacksLoopback settings nodes = lacksLoopback settings others := by
  funext name
  unfold lacksLoopback
  obtain ⟨absent, absent'⟩ | ⟨node, other, stored, stored', h⟩ := reordered.none_or_some name
  · rw [absent, absent']
  · rw [stored, stored', Option.any_some, Option.any_some, loopback?_of_reordered h]

theorem owner?_of_reordered : owner? settings nodes = owner? settings others := by
  have same : advertises settings nodes = advertises settings others := by
    funext kind address name
    rw [advertises, advertises, loopbackOf?_of_reordered reordered]
  funext names kind address
  rw [owner?, owner?, same]

theorem notesAfter_of_reordered (before names : List String) :
    notesAfter settings nodes before names = notesAfter settings others before names := by
  have same : sharing settings nodes = sharing settings others := by
    funext before name kind address
    rw [sharing, sharing, owner?_of_reordered reordered]
  induction names generalizing before with
  | nil => rfl
  | cons name names ih =>
      rw [notesAfter, notesAfter, ih, entryNotes, entryNotes, same,
        loopbackOf?_of_reordered reordered, lacksLoopback_of_reordered reordered]

end Nodes

/-- What stores look like after populating them with nodes that are related. -/
structure ReorderedView (a b : Store) : Prop where
  nodes : Nodewise Node.Reordered a.nodes b.nodes
  loopback : ∀ kind, a.loopback kind = b.loopback kind

theorem reorderedView_populate (settings : ValidationSettings)
    (reordered : Nodewise Node.Reordered a.nodes b.nodes) (names : List String) :
    ReorderedView (populate settings a names).1 (populate settings b names).1 where
  nodes := by
    rw [(entered_populate settings a names).nodes, (entered_populate settings b names).nodes]
    exact reordered
  loopback kind := ExtTreeMap.ext_getElem? fun address => by
    rw [(entered_populate settings a names).loopback, (entered_populate settings b names).loopback,
      owner?_of_reordered reordered]

namespace ReorderedView

variable (view : ReorderedView a b)

include view

theorem byLoopback (kind : AddressKind) (address : String) :
    Option.Rel Node.Reordered (a.byLoopback kind address) (b.byLoopback kind address) := by
  unfold Store.byLoopback Store.lookup
  rw [view.loopback]
  cases (b.loopback kind)[address]? with
  | none => exact .none
  | some owner => exact view.nodes owner

theorem mismatch?_eq : mismatch? settings a = mismatch? settings b := by
  funext entry
  have mac := view.byLoopback .mac entry.macAddress
  have ip := view.byLoopback .ip (ipKey settings entry)
  unfold mismatch? resolve? mismatchMessage
  generalize a.byLoopback .mac entry.macAddress = byMAC at mac
  generalize b.byLoopback .mac entry.macAddress = byMAC' at mac
  generalize a.byLoopback .ip (ipKey settings entry) = byIP at ip
  generalize b.byLoopback .ip (ipKey settings entry) = byIP' at ip
  cases mac with
  | none => rfl
  | some mac =>
      cases ip with
      | none => rfl
      | some ip =>
          change (if _ then none else some _) = if _ then none else some _
          rw [mac.name_eq, ip.name_eq]

theorem isSome_resolve?_eq (entry : ArpEntry) :
    (resolve? settings a entry).isSome = (resolve? settings b entry).isSome := by
  have mac := view.byLoopback .mac entry.macAddress
  have ip := view.byLoopback .ip (ipKey settings entry)
  unfold resolve?
  generalize a.byLoopback .mac entry.macAddress = byMAC at mac
  generalize b.byLoopback .mac entry.macAddress = byMAC' at mac
  generalize a.byLoopback .ip (ipKey settings entry) = byIP at ip
  generalize b.byLoopback .ip (ipKey settings entry) = byIP' at ip
  cases mac with
  | none => rfl
  | some mac => cases ip <;> rfl

theorem isSome_nodeMismatch?_eq (name : String) :
    (nodeMismatch? settings a name).isSome = (nodeMismatch? settings b name).isSome := by
  rw [Bool.eq_iff_iff, isSome_nodeMismatch?_iff, isSome_nodeMismatch?_iff, view.mismatch?_eq]
  unfold Store.get?
  obtain ⟨absent, absent'⟩ | ⟨node, other, stored, stored', h⟩ := view.nodes.none_or_some name
  · rw [absent, absent']
  · simp only [stored, stored', Option.some.injEq, exists_eq_left',
      (loopbackEntries_of_reordered h).mem_iff]

/-- The walk stops at the same nodes, though perhaps at another entry. -/
theorem map_nodeMismatch?_eq (name : String) :
    (nodeMismatch? settings a name).map Prod.fst = (nodeMismatch? settings b name).map Prod.fst := by
  have on_name (store : Store) : (nodeMismatch? settings store name).map Prod.fst =
      if (nodeMismatch? settings store name).isSome then some name else none := by
    cases found : nodeMismatch? settings store name with
    | none => rfl
    | some note => exact congrArg some (nodeMismatch?_eq_some found).1
  rw [on_name a, on_name b, view.isSome_nodeMismatch?_eq]

theorem map_findSome?_nodeMismatch?_eq (settings : ValidationSettings) (names : List String) :
    (names.findSome? (nodeMismatch? settings a)).map Prod.fst =
      (names.findSome? (nodeMismatch? settings b)).map Prod.fst := by
  have same : Option.map Prod.fst ∘ nodeMismatch? settings a =
      Option.map Prod.fst ∘ nodeMismatch? settings b := funext view.map_nodeMismatch?_eq
  rw [List.map_findSome?, List.map_findSome?, same]

theorem confirms_eq (name : String) : confirms settings a name = confirms settings b name := by
  have same : (fun entry => (resolve? settings a entry).isSome) =
      fun entry => (resolve? settings b entry).isSome := funext view.isSome_resolve?_eq
  unfold confirms Store.get?
  rw [same]
  obtain ⟨absent, absent'⟩ | ⟨node, other, stored, stored', h⟩ := view.nodes.none_or_some name
  · rw [absent, absent']
  · rw [stored, stored']
    exact (loopbackEntries_of_reordered h).any_eq

theorem unconfirmed_eq (names : List String) :
    unconfirmed settings a names = unconfirmed settings b names := by
  unfold unconfirmed Store.names
  rw [view.nodes.keys_eq]
  apply List.filter_congr
  intro name _
  rw [view.confirms_eq]

theorem check_snd_eq (names : List String) :
    (check settings a names).2 = (check settings b names).2 := by
  have consistent : names.findSome? (nodeMismatch? settings a) = none ↔
      names.findSome? (nodeMismatch? settings b) = none := by
    rw [← Option.map_eq_none_iff, view.map_findSome?_nodeMismatch?_eq, Option.map_eq_none_iff]
  rw [check_snd, check_snd, view.unconfirmed_eq]
  exact if_congr consistent rfl rfl

theorem map_findings_eq (names : List String) :
    (findings settings a names).map Prod.fst = (findings settings b names).map Prod.fst := by
  have walk := view.map_findSome?_nodeMismatch?_eq settings names
  unfold findings
  rw [view.unconfirmed_eq]
  generalize names.findSome? (nodeMismatch? settings a) = first at walk
  generalize names.findSome? (nodeMismatch? settings b) = second at walk
  cases first with
  | none =>
      rw [Option.map_none, eq_comm, Option.map_eq_none_iff] at walk
      rw [walk]
  | some note =>
      rw [Option.map_some, eq_comm, Option.map_eq_some_iff] at walk
      obtain ⟨other, rfl, same⟩ := walk
      rw [List.map_singleton, List.map_singleton, same]

end ReorderedView

section Nodes

variable (reordered : Nodewise Node.Reordered a.nodes b.nodes)

include reordered

theorem verdict_of_reordered (names : List String) :
    (run settings a names).2 = (run settings b names).2 := by
  have view := reorderedView_populate settings reordered names
  have missing : (populate settings a names).2 = (populate settings b names).2 := by
    rw [(entered_populate settings a names).missing, (entered_populate settings b names).missing,
      lacksLoopback_of_reordered reordered]
  rw [run_eq, run_eq]
  dsimp only
  rw [missing, view.check_snd_eq]

theorem loopback_of_reordered (names : List String) (kind : AddressKind) :
    (run settings a names).1.loopback kind = (run settings b names).1.loopback kind := by
  apply ExtTreeMap.ext_getElem?
  intro address
  rw [loopback_run, loopback_run, owner?_of_reordered reordered]

theorem map_notes_of_reordered (names : List String) :
    (notes settings a.nodes names).map Prod.fst = (notes settings b.nodes names).map Prod.fst := by
  unfold notes
  have view := reorderedView_populate (a := { Store.empty with nodes := a.nodes })
    (b := { Store.empty with nodes := b.nodes }) settings reordered names
  rw [List.map_append, List.map_append, notesAfter_of_reordered reordered, view.map_findings_eq]

/-- As many messages are added on each node, though not always the same ones. -/
theorem length_noted_of_reordered (diagnostics : a.diagnostics = b.diagnostics)
    (names : List String) (name : String) :
    ((run settings a names).1.noted name).length = ((run settings b names).1.noted name).length := by
  rw [(appends_run settings a names).noted_eq, (appends_run settings b names).noted_eq,
    List.length_append, List.length_append, length_messagesOn, length_messagesOn,
    map_notes_of_reordered reordered, Store.noted, Store.noted, diagnostics]

end Nodes

end Validation

/-- The reports are the same, or of two bodies that serve the same ARP entries. -/
inductive Report.Reserves : Report → Report → Prop
  | same (report : Report) : Reserves report report
  | served (node : String) {entries : List ArpEntry} {body other : Bytes} :
      ServesArp entries body → ServesArp entries other →
      Reserves (.ofBody node .arp body) (.ofBody node .arp other)

theorem Report.Reserves.reorders {report other : Report} (h : report.Reserves other) :
    report.Reorders other := by
  cases h with
  | same => exact .same report
  | served node first second =>
      obtain ⟨table, decoded, perm⟩ := decode_of_servesArp first
      obtain ⟨table', decoded', perm'⟩ := decode_of_servesArp second
      rw [Report.ofBody, Report.ofBody, Report.outcomeOfBody, Report.outcomeOfBody, decoded, decoded']
      exact .tables node .arp (perm.trans perm'.symm)

namespace Validation

/-- ARP entries are read from every form that they may be served in, and the form has no influence on
the verdict, on the loopback indices and on how many messages there are about a node. -/
theorem arp_form_irrelevant (settings : ValidationSettings) (categories : List Category)
    (store : Store) (collected validated : List String) :
    (∀ entries body, ServesArp entries body → ∃ table : ArpTable,
      Payload.decode .arp body = .ok (.arp table) ∧ table.project.Perm entries) ∧
    ∀ reports others, List.Forall₂ Report.Reserves reports others →
      let first := run settings (Pass.run categories store collected reports).store validated
      let other := run settings (Pass.run categories store collected others).store validated
      first.2 = other.2 ∧ (∀ kind, first.1.loopback kind = other.1.loopback kind) ∧
        ∀ name, (first.1.noted name).length = (other.1.noted name).length := by
  refine ⟨fun entries body => decode_of_servesArp, fun reports others each => ?_⟩
  intro first other
  have reordered := Pass.reordered_run categories store collected
    (each.imp fun _ _ => Report.Reserves.reorders)
  exact ⟨verdict_of_reordered reordered validated, loopback_of_reordered reordered validated,
    length_noted_of_reordered reordered (by rw [Pass.store_run, Pass.store_run]) validated⟩

def contradictory : List (String × ArpEntry) :=
  [("x", ⟨1, "10.1.0.2", "0b", false⟩), ("w", ⟨1, "10.1.0.1", "0c", false⟩)]

/-- Two entries that are both contradictory. Which of them is found first depends on the form. -/
theorem arp_form_irrelevant_contradictory :
    let names := ["c", "b", "a"]
    let listed := utf8 (encode (contradictory.map Prod.snd)).compact
    let keyed := utf8 (Value.object (contradictory.map fun pair => (pair.1, encode pair.2))).compact
    let validated (body : Bytes) :=
      run {} (Pass.run Category.standard sharedAddress names [.ofBody "a" .arp body]).store names
    (validated listed).2 = (validated keyed).2 ∧
      (validated listed).1.diagnostics["a"]? =
        some ["ARP entry 0b / 10.1.0.2 resolves to b by MAC and c by IP"] ∧
      (validated keyed).1.diagnostics["a"]? =
        some ["ARP entry 0c / 10.1.0.1 resolves to c by MAC and a by IP"] := by
  intro names listed keyed validated
  have servesListed : ServesArp (contradictory.map Prod.snd) listed := servesArp_list (.refl _)
  have servesKeyed : ServesArp (contradictory.map Prod.snd) keyed :=
    servesArp_keyed (by decide) (.refl _)
  obtain ⟨-, irrelevant⟩ := arp_form_irrelevant {} Category.standard sharedAddress names names
  obtain ⟨same, -, -⟩ := irrelevant _ _ (.cons (.served "a" servesListed servesKeyed) .nil)
  exact ⟨same, by decide +kernel, by decide +kernel⟩

end Validation

end FabricSurvey
