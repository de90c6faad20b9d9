import FabricSurvey.Proofs.Holding
import FabricSurvey.Proofs.Owner

/-!
# The verdict of validation

Validation reads the nodes of a store and the names that it is given, and nothing else: the indices
are rebuilt before they are looked into, and diagnostics are only added to. Two stores with the same
nodes therefore get the same verdict, the same indices and the same notes.

The walk through the ARP tables strikes off one name after the other and stops at an inconsistency. What
it comes to is told without its course: the first inconsistency of any name, or else the names that no
entry confirms. The verdict is stated without the indices, too: it is negative exactly if some node has
learned an ARP entry on its loopback whose two addresses have different first owners.
-/

namespace FabricSurvey

open Std (ExtTreeMap ExtTreeSet)

namespace Store

/-- Two stores in which every node and every loopback address is found alike. -/
structure SameView (a b : Store) : Prop where
  nodes : a.nodes = b.nodes
  loopback : ∀ kind, a.loopback kind = b.loopback kind

end Store

namespace Validation

variable {settings : ValidationSettings} {store a b : Store} {names : List String}

/-- The ARP entries that a node has learned on its loopback. -/
def loopbackEntries (settings : ValidationSettings) (node : Node) : List ArpEntry :=
  match loopback? settings node with
  | none => []
  | some interface => node.arpEntries.filter (·.interfaceIndex == interface.index)

/-- The message of an ARP entry that leads to two nodes. -/
def mismatch? (settings : ValidationSettings) (store : Store) (entry : ArpEntry) : Option String := do
  let (byMAC, byIP) ← resolve? settings store entry
  if byMAC.name = byIP.name then none else mismatchMessage entry byMAC byIP

/-- The first inconsistency of a node. -/
def nodeMismatch? (settings : ValidationSettings) (store : Store) (name : String) :
    Option (String × String) := do
  let node ← store.get? name
  let message ← (loopbackEntries settings node).findSome? (mismatch? settings store)
  return (name, message)

/-- Whether some ARP entry of a node can be resolved. -/
def confirms (settings : ValidationSettings) (store : Store) (name : String) : Bool :=
  match store.get? name with
  | none => false
  | some node => (loopbackEntries settings node).any fun e => (resolve? settings store e).isSome

/-- The stored nodes that are not among the given ones, or have no ARP entry that can be resolved. -/
def unconfirmed (settings : ValidationSettings) (store : Store) (names : List String) : List String :=
  store.names.filter fun name => !(names.contains name && confirms settings store name)

theorem mismatch?_of_unresolved {entry : ArpEntry} (h : resolve? settings store entry = none) :
    mismatch? settings store entry = none := by
  rw [mismatch?, h]
  rfl

theorem mismatch?_of_resolved {entry : ArpEntry} {byMAC byIP : Node}
    (h : resolve? settings store entry = some (byMAC, byIP)) :
    mismatch? settings store entry =
      if byMAC.name = byIP.name then none else some (mismatchMessage entry byMAC byIP) := by
  rw [mismatch?, h]
  rfl

/-- The walk through the entries of a node ends at its first inconsistency, and without one it has
looked up every entry. -/
theorem walkEntries_eq (settings : ValidationSettings) (store : Store) (confirmed : Bool)
    (entries : List ArpEntry) :
    (walkEntries settings store confirmed entries).2 =
        entries.findSome? (mismatch? settings store) ∧
      (entries.findSome? (mismatch? settings store) = none →
        (walkEntries settings store confirmed entries).1 =
          (confirmed || entries.any fun e => (resolve? settings store e).isSome)) := by
  induction entries generalizing confirmed with
  | nil => simp [walkEntries]
  | cons entry entries ih =>
      rw [walkEntries, List.findSome?_cons, List.any_cons]
      cases resolved : resolve? settings store entry with
      | none =>
          rw [mismatch?_of_unresolved resolved]
          exact ih confirmed
      | some found =>
          obtain ⟨byMAC, byIP⟩ := found
          rw [mismatch?_of_resolved resolved]
          by_cases same : byMAC.name = byIP.name
          · simpa only [if_pos same, Option.isSome_some, Bool.true_or, Bool.or_true] using ih true
          · simp [if_neg same]

/-- The pending nodes after one more has been walked through without an inconsistency. -/
def settle (settings : ValidationSettings) (store : Store) (pending : ExtTreeSet String)
    (name : String) : ExtTreeSet String :=
  if confirms settings store name then pending.erase name else pending

/-- One node of the walk: its first inconsistency ends it, otherwise it goes on with the node
settled. -/
theorem walkNames_cons (pending : ExtTreeSet String) (name : String) (names : List String) :
    walkNames settings store pending (name :: names) =
      match nodeMismatch? settings store name with
      | some note => (store.record note.1 note.2, none)
      | none => walkNames settings store (settle settings store pending name) names := by
  cases stored : store.get? name with
  | none => simp [walkNames, nodeMismatch?, settle, confirms, stored]
  | some node =>
      cases loopback : loopback? settings node with
      | none => simp [walkNames, nodeMismatch?, settle, confirms, loopbackEntries, stored, loopback]
      | some interface =>
          simp only [walkNames, nodeMismatch?, settle, confirms, loopbackEntries, stored, loopback,
            Option.bind_eq_bind, Option.bind_some]
          generalize node.arpEntries.filter (·.interfaceIndex == interface.index) = entries
          -- what follows splits on the entries' verdict, so the walk over them is kept as one value
          obtain ⟨ended, looked_up⟩ := walkEntries_eq settings store false entries
          generalize walkEntries settings store false entries = walked at ended looked_up
          obtain ⟨confirmed, message⟩ := walked
          subst ended
          cases first : entries.findSome? (mismatch? settings store) with
          | some message => rfl
          | none =>
              obtain rfl := looked_up first
              cases entries.any fun e => (resolve? settings store e).isSome <;> rfl

/-- The walk ends at the first inconsistency of a node, or notes the nodes that are left. -/
theorem walkNames_eq (pending : ExtTreeSet String) (names : List String) :
    walkNames settings store pending names =
      match names.findSome? (nodeMismatch? settings store) with
      | some note => (store.record note.1 note.2, none)
      | none =>
        let left := (names.foldl (settle settings store) pending).toList
        (left.foldl (fun store name => store.record name unconfirmedMessage) store, some left) := by
  induction names generalizing pending with
  | nil => rfl
  | cons name names ih =>
      rw [walkNames_cons, List.findSome?_cons, List.foldl_cons]
      cases nodeMismatch? settings store name with
      | some note => rfl
      | none => exact ih _

theorem mem_settle_iff {pending : ExtTreeSet String} {name other : String} :
    other ∈ settle settings store pending name ↔
      other ∈ pending ∧ ¬(other = name ∧ confirms settings store other = true) := by
  unfold settle
  by_cases confirmed : confirms settings store name = true
  · rw [if_pos confirmed, ExtTreeSet.mem_erase, ne_eq, Std.LawfulEqCmp.compare_eq_iff_eq, and_comm,
      eq_comm]
    refine and_congr_right fun _ => not_congr ⟨fun same => ⟨same, same ▸ confirmed⟩, And.left⟩
  · rw [if_neg confirmed]
    refine (and_iff_left_of_imp fun _ both => confirmed ?_).symm
    rw [← both.1]
    exact both.2

theorem mem_foldl_settle_iff {pending : ExtTreeSet String} {name : String} :
    name ∈ names.foldl (settle settings store) pending ↔
      name ∈ pending ∧ ¬(name ∈ names ∧ confirms settings store name = true) := by
  induction names generalizing pending with
  | nil => simp
  | cons first names ih =>
      rw [List.foldl_cons, ih, mem_settle_iff, List.mem_cons, or_and_right, not_or, and_assoc]

/-- What is left of the stored nodes are the unconfirmed ones, in ascending order. -/
theorem toList_foldl_settle (settings : ValidationSettings) (store : Store) (names : List String) :
    (names.foldl (settle settings store) (ExtTreeSet.ofList store.names)).toList =
      unconfirmed settings store names := by
  have left := (ExtTreeSet.ordered_toList (t := names.foldl (settle settings store)
    (ExtTreeSet.ofList store.names))).imp compareOfLessAndEq_eq_lt.1
  have listed := (store.names_ascending.filter fun name =>
    !(names.contains name && confirms settings store name)).imp compareOfLessAndEq_eq_lt.1
  refine left.eq_of_mem_iff listed fun name => ?_
  rw [ExtTreeSet.mem_toList, mem_foldl_settle_iff, ExtTreeSet.mem_ofList, unconfirmed,
    List.mem_filter, List.contains_iff_mem, Bool.not_eq_true', ← Bool.not_eq_true, Bool.and_eq_true,
    List.contains_iff_mem]

/-- The walk through all given nodes, without its course: the first inconsistency, or else the nodes
that no entry confirms. -/
theorem check_eq (settings : ValidationSettings) (store : Store) (names : List String) :
    check settings store names =
      match names.findSome? (nodeMismatch? settings store) with
      | some note => (store.record note.1 note.2, none)
      | none =>
        ((unconfirmed settings store names).foldl
          (fun store name => store.record name unconfirmedMessage) store,
          some (unconfirmed settings store names)) := by
  rw [check, walkNames_eq, toList_foldl_settle]

def findings (settings : ValidationSettings) (store : Store) (names : List String) : List Note :=
  match names.findSome? (nodeMismatch? settings store) with
  | some note => [note]
  | none => (unconfirmed settings store names).map fun name => (name, unconfirmedMessage)

theorem nodeMismatch?_eq_some {name : String} {note : Note}
    (h : nodeMismatch? settings store name = some note) :
    note.1 = name ∧ ∃ node, store.get? name = some node := by
  obtain ⟨node, hn, h⟩ := Option.bind_eq_some_iff.1 h
  obtain ⟨message, -, h⟩ := Option.bind_eq_some_iff.1 h
  cases h
  exact ⟨rfl, node, hn⟩

theorem exists_node_of_mem_findings {note : Note} (h : note ∈ findings settings store names) :
    ∃ node, store.get? note.1 = some node := by
  unfold findings at h
  cases hm : names.findSome? (nodeMismatch? settings store) with
  | some found =>
      rw [hm] at h
      obtain rfl := List.mem_singleton.1 h
      obtain ⟨name, -, hf⟩ := List.exists_of_findSome?_eq_some hm
      obtain ⟨same, stored⟩ := nodeMismatch?_eq_some hf
      rwa [same]
  | none =>
      simp only [hm, List.mem_map, unconfirmed, List.mem_filter] at h
      obtain ⟨name, ⟨stored, -⟩, rfl⟩ := h
      exact Store.mem_names_iff.1 stored

theorem check_fst (settings : ValidationSettings) (store : Store) (names : List String) :
    (check settings store names).1 = store.recordAll (findings settings store names) := by
  rw [check_eq, findings]
  cases names.findSome? (nodeMismatch? settings store) with
  | none =>
      rw [← Store.foldl_record, List.foldl_map]
  | some note => rfl

theorem check_snd (settings : ValidationSettings) (store : Store) (names : List String) :
    (check settings store names).2 =
      if names.findSome? (nodeMismatch? settings store) = none then
        some (unconfirmed settings store names)
      else none := by
  rw [check_eq]
  cases names.findSome? (nodeMismatch? settings store) <;> rfl

def conclude (missing : List String) : Option (List String) → Verdict
  | some unconfirmed => ⟨true, unconfirmed, missing⟩
  | none => ⟨false, [], missing⟩

theorem run_eq (settings : ValidationSettings) (store : Store) (names : List String) :
    run settings store names =
      ((check settings (populate settings store names).1 names).1,
        conclude (populate settings store names).2
          (check settings (populate settings store names).1 names).2) := by
  unfold run
  generalize populate settings store names = populated
  obtain ⟨store, missing⟩ := populated
  dsimp only
  generalize check settings store names = checked
  obtain ⟨store, _ | unconfirmed⟩ := checked <;> rfl

theorem run_of_consistent (consistent : names.findSome?
      (nodeMismatch? settings (populate settings store names).1) = none) :
    run settings store names =
      ((populate settings store names).1.recordAll
        ((unconfirmed settings (populate settings store names).1 names).map
          fun name => (name, unconfirmedMessage)),
        ⟨true, unconfirmed settings (populate settings store names).1 names,
          (populate settings store names).2⟩) := by
  rw [run_eq, check_fst, check_snd, if_pos consistent, findings, consistent]
  rfl

theorem run_of_mismatch {note : Note} (mismatch : names.findSome?
      (nodeMismatch? settings (populate settings store names).1) = some note) :
    run settings store names =
      ((populate settings store names).1.record note.1 note.2,
        ⟨false, [], (populate settings store names).2⟩) := by
  rw [run_eq, check_fst, check_snd, if_neg (by simp [mismatch]), findings, mismatch]
  rfl

theorem Entered.sameView {state next : Store × List String} (nodes : a.nodes = b.nodes)
    (h : Entered settings a names state) (h' : Entered settings b names next) :
    state.1.SameView next.1 where
  nodes := h.nodes.trans (nodes.trans h'.nodes.symm)
  loopback kind := ExtTreeMap.ext_getElem? fun address => by
    rw [h.loopback, h'.loopback, nodes]

theorem sameView_populate (nodes : a.nodes = b.nodes) :
    (populate settings a names).1.SameView (populate settings b names).1 :=
  (entered_populate settings a names).sameView nodes (entered_populate settings b names)

theorem findings_congr (h : a.SameView b) : findings settings a names = findings settings b names := by
  obtain ⟨nodes, management, ip, mac, diagnostics⟩ := a
  obtain ⟨_, _, _, _, _⟩ := b
  obtain rfl := h.nodes
  obtain rfl := h.loopback .ip
  obtain rfl := h.loopback .mac
  rfl

theorem check_snd_congr (h : a.SameView b) :
    (check settings a names).2 = (check settings b names).2 := by
  rw [check_snd, check_snd]
  obtain ⟨nodes, management, ip, mac, diagnostics⟩ := a
  obtain ⟨_, _, _, _, _⟩ := b
  obtain rfl := h.nodes
  obtain rfl := h.loopback .ip
  obtain rfl := h.loopback .mac
  rfl

theorem run_snd_congr (nodes : a.nodes = b.nodes) :
    (run settings a names).2 = (run settings b names).2 := by
  have missing : (populate settings a names).2 = (populate settings b names).2 := by
    rw [(entered_populate settings a names).missing, (entered_populate settings b names).missing,
      nodes]
  rw [run_eq, run_eq]
  dsimp only
  rw [missing, check_snd_congr (sameView_populate nodes)]

@[simp] theorem nodes_run (settings : ValidationSettings) (store : Store) (names : List String) :
    (run settings store names).1.nodes = store.nodes := by
  rw [run_eq, check_fst]
  exact (entered_populate settings store names).nodes

theorem management_run (settings : ValidationSettings) (store : Store) (names : List String) :
    (run settings store names).1.management = store.management := by
  rw [run_eq, check_fst]
  exact (entered_populate settings store names).management

theorem loopback_run (settings : ValidationSettings) (store : Store) (names : List String)
    (kind : AddressKind) (address : String) :
    ((run settings store names).1.loopback kind)[address]? =
      owner? settings store.nodes names kind address := by
  rw [run_eq, check_fst, Store.loopback_recordAll]
  exact (entered_populate settings store names).loopback kind address

theorem loopback_run_congr (nodes : a.nodes = b.nodes) (kind : AddressKind) :
    (run settings a names).1.loopback kind = (run settings b names).1.loopback kind :=
  ExtTreeMap.ext_getElem? fun address => by rw [loopback_run, loopback_run, nodes]

theorem diagnostics_run_eq (settings : ValidationSettings) (store : Store) (names : List String) :
    (run settings store names).1.diagnostics =
      noteAll store.diagnostics (notesAfter settings store.nodes [] names ++
        findings settings (populate settings store names).1 names) := by
  rw [run_eq, check_fst, noteAll_append, ← (entered_populate settings store names).diagnostics]
  rfl

def notes (settings : ValidationSettings) (nodes : ExtTreeMap String Node) (names : List String) :
    List Note :=
  notesAfter settings nodes [] names ++
    findings settings (populate settings { Store.empty with nodes } names).1 names

theorem diagnostics_run (settings : ValidationSettings) (store : Store) (names : List String) :
    (run settings store names).1.diagnostics =
      noteAll store.diagnostics (notes settings store.nodes names) := by
  have view : (populate settings store names).1.SameView
      (populate settings { Store.empty with nodes := store.nodes } names).1 := sameView_populate rfl
  rw [diagnostics_run_eq, findings_congr view]
  rfl

def Learned (settings : ValidationSettings) (nodes : ExtTreeMap String Node) (name : String)
    (entry : ArpEntry) : Prop :=
  ∃ node interface, nodes[name]? = some node ∧ loopback? settings node = some interface ∧
    entry ∈ node.arpEntries ∧ entry.interfaceIndex = interface.index

/-- The hardware address and the IP address of an ARP entry have different first owners. -/
def Contradicts (settings : ValidationSettings) (nodes : ExtTreeMap String Node)
    (names : List String) (entry : ArpEntry) : Prop :=
  ∃ byMAC byIP, owner? settings nodes names .mac entry.macAddress = some byMAC ∧
    owner? settings nodes names .ip
      (entry.ipAddress ++ "/" ++ toString settings.maskLength.toNat) = some byIP ∧ byMAC ≠ byIP

theorem mem_loopbackEntries_iff {node : Node} {entry : ArpEntry} :
    entry ∈ loopbackEntries settings node ↔
      ∃ interface, loopback? settings node = some interface ∧ entry ∈ node.arpEntries ∧
        entry.interfaceIndex = interface.index := by
  unfold loopbackEntries
  cases loopback? settings node <;> simp

theorem Entered.byLoopback_eq_some_iff {state : Store × List String}
    (h : Entered settings store names state) {kind : AddressKind} {address : String} {node : Node} :
    state.1.byLoopback kind address = some node ↔
      ∃ owner, owner? settings store.nodes names kind address = some owner ∧
        store.get? owner = some node := by
  unfold Store.byLoopback
  rw [Store.lookup_eq_some_iff]
  simp only [h.loopback, Store.get?, h.nodes]

theorem resolve?_eq_some_iff {entry : ArpEntry} {byMAC byIP : Node} :
    resolve? settings store entry = some (byMAC, byIP) ↔
      store.byLoopback .mac entry.macAddress = some byMAC ∧
        store.byLoopback .ip (ipKey settings entry) = some byIP := by
  unfold resolve?
  cases store.byLoopback .mac entry.macAddress <;>
    cases store.byLoopback .ip (ipKey settings entry) <;> simp

theorem isSome_mismatch?_iff {entry : ArpEntry} :
    (mismatch? settings store entry).isSome ↔
      ∃ byMAC byIP, resolve? settings store entry = some (byMAC, byIP) ∧
        byMAC.name ≠ byIP.name := by
  unfold mismatch?
  cases hr : resolve? settings store entry with
  | none => simp
  | some found =>
      obtain ⟨byMAC, byIP⟩ := found
      by_cases hn : byMAC.name = byIP.name <;> simp [hn]

theorem isSome_nodeMismatch?_iff {name : String} :
    (nodeMismatch? settings store name).isSome ↔
      ∃ node, store.get? name = some node ∧ ∃ entry ∈ loopbackEntries settings node,
        (mismatch? settings store entry).isSome := by
  unfold nodeMismatch?
  cases store.get? name with
  | none => simp
  | some node => simp [Option.isSome_bind, List.findSome?_isSome_iff]

theorem Entered.isSome_mismatch?_iff {state : Store × List String}
    (h : Entered settings store names state) (named : store.Named) (entry : ArpEntry) :
    (mismatch? settings state.1 entry).isSome ↔
      Contradicts settings store.nodes names entry := by
  simp only [Validation.isSome_mismatch?_iff, resolve?_eq_some_iff, h.byLoopback_eq_some_iff]
  constructor
  · rintro ⟨byMAC, byIP, ⟨⟨mac, hm, hmac⟩, ⟨ip, hi, hip⟩⟩, different⟩
    rw [named mac byMAC hmac, named ip byIP hip] at different
    exact ⟨mac, ip, hm, hi, different⟩
  · rintro ⟨mac, ip, hm, hi, different⟩
    obtain ⟨byMAC, hmac⟩ := exists_node_of_advertises (owner?_eq_some hm).2
    obtain ⟨byIP, hip⟩ := exists_node_of_advertises (owner?_eq_some hi).2
    refine ⟨byMAC, byIP, ⟨⟨mac, hm, hmac⟩, ⟨ip, hi, hip⟩⟩, ?_⟩
    rw [named mac byMAC hmac, named ip byIP hip]
    exact different

theorem Entered.isSome_nodeMismatch?_iff {state : Store × List String}
    (h : Entered settings store names state) (named : store.Named) (name : String) :
    (nodeMismatch? settings state.1 name).isSome ↔
      ∃ entry, Learned settings store.nodes name entry ∧
        Contradicts settings store.nodes names entry := by
  simp only [Validation.isSome_nodeMismatch?_iff, h.isSome_mismatch?_iff named,
    mem_loopbackEntries_iff, Store.get?, h.nodes, Learned]
  constructor
  · rintro ⟨node, hn, entry, ⟨interface, hl, hm, hi⟩, hc⟩
    exact ⟨entry, ⟨node, interface, hn, hl, hm, hi⟩, hc⟩
  · rintro ⟨entry, ⟨node, interface, hn, hl, hm, hi⟩, hc⟩
    exact ⟨node, hn, entry, ⟨interface, hl, hm, hi⟩, hc⟩

theorem valid_run (settings : ValidationSettings) (store : Store) (names : List String) :
    (run settings store names).2.valid = false ↔
      ∃ name ∈ names, (nodeMismatch? settings (populate settings store names).1 name).isSome := by
  rw [← List.findSome?_isSome_iff]
  cases walk : names.findSome? (nodeMismatch? settings (populate settings store names).1) with
  | none => simp [run_of_consistent walk]
  | some note => simp [run_of_mismatch walk]

theorem consistent_of_valid (valid : (run settings store names).2.valid = true) :
    names.findSome? (nodeMismatch? settings (populate settings store names).1) = none := by
  cases walk : names.findSome? (nodeMismatch? settings (populate settings store names).1) with
  | none => rfl
  | some note =>
      rw [run_of_mismatch walk] at valid
      cases valid

theorem exists_mismatch_of_invalid (invalid : (run settings store names).2.valid = false) :
    ∃ note, names.findSome? (nodeMismatch? settings (populate settings store names).1) =
      some note := by
  rw [← Option.isSome_iff_exists, List.findSome?_isSome_iff]
  exact (valid_run settings store names).1 invalid

theorem not_contradicts_of_valid (named : store.Named)
    (valid : (run settings store names).2.valid = true) {name : String} (listed : name ∈ names)
    {entry : ArpEntry} (learned : Learned settings store.nodes name entry) :
    ¬ Contradicts settings store.nodes names entry := by
  intro contradicts
  have entered := entered_populate settings store names
  have mismatch := (entered.isSome_nodeMismatch?_iff named name).2 ⟨entry, learned, contradicts⟩
  have invalid := (valid_run settings store names).2 ⟨name, listed, mismatch⟩
  rw [valid] at invalid
  cases invalid

/-- Both addresses of an ARP entry have an owner. -/
def Resolves (settings : ValidationSettings) (nodes : ExtTreeMap String Node)
    (names : List String) (entry : ArpEntry) : Prop :=
  (∃ byMAC, owner? settings nodes names .mac entry.macAddress = some byMAC) ∧
    ∃ byIP, owner? settings nodes names .ip (ipKey settings entry) = some byIP

theorem Entered.exists_byLoopback_iff {state : Store × List String}
    (h : Entered settings store names state) {kind : AddressKind} {address : String} :
    (∃ node, state.1.byLoopback kind address = some node) ↔
      ∃ owner, owner? settings store.nodes names kind address = some owner := by
  simp only [h.byLoopback_eq_some_iff]
  constructor
  · rintro ⟨node, owner, ho, -⟩
    exact ⟨owner, ho⟩
  · rintro ⟨owner, ho⟩
    obtain ⟨node, hn⟩ := exists_node_of_advertises (owner?_eq_some ho).2
    exact ⟨node, owner, ho, hn⟩

theorem Entered.isSome_resolve?_iff {state : Store × List String}
    (h : Entered settings store names state) (entry : ArpEntry) :
    (resolve? settings state.1 entry).isSome ↔ Resolves settings store.nodes names entry := by
  rw [Resolves, ← h.exists_byLoopback_iff, ← h.exists_byLoopback_iff, Option.isSome_iff_exists]
  simp only [Prod.exists, resolve?_eq_some_iff]
  constructor
  · rintro ⟨byMAC, byIP, hmac, hip⟩
    exact ⟨⟨byMAC, hmac⟩, byIP, hip⟩
  · rintro ⟨⟨byMAC, hmac⟩, byIP, hip⟩
    exact ⟨byMAC, byIP, hmac, hip⟩

theorem Entered.confirms_iff {state : Store × List String}
    (h : Entered settings store names state) (name : String) :
    confirms settings state.1 name ↔
      ∃ entry, Learned settings store.nodes name entry ∧
        Resolves settings store.nodes names entry := by
  have found : state.1.get? name = store.nodes[name]? := by rw [Store.get?, h.nodes]
  unfold confirms Learned
  rw [found]
  cases store.nodes[name]? with
  | none => simp
  | some node =>
      simp only [List.any_eq_true, mem_loopbackEntries_iff, h.isSome_resolve?_iff,
        Option.some.injEq]
      constructor
      · rintro ⟨entry, ⟨interface, hl, hm, hi⟩, hr⟩
        exact ⟨entry, ⟨node, interface, rfl, hl, hm, hi⟩, hr⟩
      · rintro ⟨entry, ⟨_, interface, rfl, hl, hm, hi⟩, hr⟩
        exact ⟨entry, ⟨interface, hl, hm, hi⟩, hr⟩

theorem missingLoopback_run (settings : ValidationSettings) (store : Store) (names : List String) :
    (run settings store names).2.missingLoopback =
      names.filter (lacksLoopback settings store.nodes) := by
  rw [run_eq, ← (entered_populate settings store names).missing]
  cases (check settings (populate settings store names).1 names).2 <;> rfl

theorem unconfirmed_run (valid : (run settings store names).2.valid = true) :
    (run settings store names).2.unconfirmed =
      unconfirmed settings (populate settings store names).1 names := by
  rw [run_of_consistent (consistent_of_valid valid)]

theorem mem_unconfirmed_run_iff (valid : (run settings store names).2.valid = true)
    {name : String} :
    name ∈ (run settings store names).2.unconfirmed ↔
      name ∈ store.names ∧ ¬(name ∈ names ∧ ∃ entry,
        Learned settings store.nodes name entry ∧ Resolves settings store.nodes names entry) := by
  have entered := entered_populate settings store names
  rw [unconfirmed_run valid]
  simp only [unconfirmed, List.mem_filter, ← entered.confirms_iff, Store.names,
    entered.nodes, Bool.not_eq_true', ← Bool.not_eq_true, Bool.and_eq_true,
    List.contains_iff_mem]

/-- Validation fails exactly if some node has learned an entry whose hardware address and IP address
belong to different nodes. -/
theorem valid_eq_false_iff_contradicts (settings : ValidationSettings) (store : Store)
    (names : List String) (named : store.Named) :
    (run settings store names).2.valid = false ↔
      ∃ name ∈ names, ∃ entry, Learned settings store.nodes name entry ∧
        Contradicts settings store.nodes names entry := by
  have entered := entered_populate settings store names
  simp only [valid_run, entered.isSome_nodeMismatch?_iff named]

def member (id : UInt32) (name mac ip : String) (arpEntries : List ArpEntry) : Node :=
  { Node.ofIdentity ⟨id, name, "", name⟩ with
    interfaces := [⟨id, "loop0", "bvi", 0, true, mac, 1500, none, [ip], none⟩]
    arpEntries }

/-- Two nodes share an IP address, which the third has learned with the hardware address of one of
them. -/
def sharedAddress : Store :=
  { Store.empty with nodes := ExtTreeMap.ofList [
    ("a", member 1 "a" "0a" "10.1.0.1/24" [⟨1, "10.1.0.2", "0b", false⟩]),
    ("b", member 2 "b" "0b" "10.1.0.2/24" []),
    ("c", member 3 "c" "0c" "10.1.0.2/24" [])] }

/-- The shared address belongs to the node that is named first. -/
theorem valid_sharedAddress :
    sharedAddress.Named ∧ (run {} sharedAddress ["c", "b", "a"]).2.valid = false ∧
      (run {} sharedAddress ["b", "c", "a"]).2.valid = true := by
  have named : sharedAddress.Named := by decide
  refine ⟨named, (valid_eq_false_iff_contradicts {} sharedAddress _ named).2 ?_, by decide⟩
  have learned : Learned {} sharedAddress.nodes "a" ⟨1, "10.1.0.2", "0b", false⟩ :=
    ⟨member 1 "a" "0a" "10.1.0.1/24" [⟨1, "10.1.0.2", "0b", false⟩],
      ⟨1, "loop0", "bvi", 0, true, "0a", 1500, none, ["10.1.0.1/24"], none⟩,
      by decide, by decide, by decide, rfl⟩
  have byMAC : owner? {} sharedAddress.nodes ["c", "b", "a"] .mac "0b" = some "b" := by decide
  have byIP : owner? {} sharedAddress.nodes ["c", "b", "a"] .ip "10.1.0.2/24" = some "c" := by
    decide
  exact ⟨"a", by decide, _, learned, "b", "c", byMAC, byIP, by decide⟩

end Validation

end FabricSurvey
