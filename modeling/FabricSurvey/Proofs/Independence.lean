import FabricSurvey.Proofs.Diagnosis

/-!
# What validation depends on

Validation reads the nodes of a store and the names that it is given. Indices, addresses and messages
that are there already have no part in it, and what it has to say goes behind what was said before.

The order of the names decides who owns an address that several nodes have. If there is no such address,
every order gives the same owners, so that the walk finds an inconsistency in all orders or in none.
What is said of a node is then the same as well, unless the walk ends early.
-/

namespace FabricSurvey

open Std (ExtTreeMap)

namespace Store

/-- The nodes and the management addresses have stayed as they were, and behind what was noted on a name
some messages have been added. -/
structure Appends (said : String → List String) (before after : Store) : Prop where
  nodes : after.nodes = before.nodes
  management : after.management = before.management
  diagnostics : ∀ name, after.diagnostics[name]? =
    if said name = [] then before.diagnostics[name]? else some (before.noted name ++ said name)

theorem Appends.noted_eq {said : String → List String} {before after : Store}
    (h : before.Appends said after) (name : String) :
    after.noted name = before.noted name ++ said name := by
  unfold noted
  rw [ExtTreeMap.getD_eq_getD_getElem?, h.diagnostics]
  split_ifs with silent
  · rw [silent, List.append_nil, ExtTreeMap.getD_eq_getD_getElem?]
  · rfl

end Store

namespace Validation

variable {settings : ValidationSettings} {store a b : Store} {nodes : ExtTreeMap String Node}
  {names others : List String}

theorem appends_run (settings : ValidationSettings) (store : Store) (names : List String) :
    store.Appends (messagesOn (notes settings store.nodes names)) (run settings store names).1 where
  nodes := nodes_run settings store names
  management := management_run settings store names
  diagnostics name := by
    rw [diagnostics_run, getElem?_noteAll]
    rfl

/-- Two stores with the same nodes get the same verdict, the same loopback indices and the same messages
behind what was noted before, whatever else they hold. In particular a second validation finds what the
first has found, and says it once more. -/
theorem run_depends_on_nodes_alone (settings : ValidationSettings) (nodes : a.nodes = b.nodes)
    (names : List String) :
    let first := run settings a names
    let other := run settings b names
    let again := run settings first.1 names
    first.2 = other.2 ∧ (∀ kind, first.1.loopback kind = other.1.loopback kind) ∧
      again.2 = first.2 ∧ (∀ kind, again.1.loopback kind = first.1.loopback kind) ∧
      ∃ said, a.Appends said first.1 ∧ b.Appends said other.1 ∧ first.1.Appends said again.1 := by
  intro first other again
  have kept : first.1.nodes = a.nodes := nodes_run settings a names
  have said_first := appends_run settings a names
  have said_other := appends_run settings b names
  have said_again := appends_run settings first.1 names
  rw [← nodes] at said_other
  rw [kept] at said_again
  exact ⟨run_snd_congr nodes, loopback_run_congr nodes, run_snd_congr kept, loopback_run_congr kept,
    _, said_first, said_other, said_again⟩

def stale : Store :=
  { sharedAddress with
    management := ExtTreeMap.ofList [("10.20.0.2", "b")]
    loopbackIP := ExtTreeMap.ofList [("10.1.0.2/24", "ghost")]
    loopbackMAC := ExtTreeMap.ofList [("0b", "a")]
    diagnostics := ExtTreeMap.ofList [("a", ["seen before"]), ("ghost", ["gone"])] }

theorem run_stale :
    let names := ["c", "b", "a"]
    let first := run {} stale names
    let other := run {} sharedAddress names
    stale.nodes = sharedAddress.nodes ∧ first.2 = other.2 ∧
      first.1.loopbackIP["10.1.0.2/24"]? = some "c" ∧
      ∃ message, other.1.diagnostics["a"]? = some [message] ∧
        first.1.diagnostics["a"]? = some ["seen before", message] ∧
        (run {} first.1 names).1.diagnostics["a"]? = some ["seen before", message, message] := by
  intro names first other
  have nodes : stale.nodes = sharedAddress.nodes := rfl
  obtain ⟨verdict, -, -, -, said, said_first, said_other, said_again⟩ :=
    run_depends_on_nodes_alone {} nodes names
  have message : other.1.diagnostics["a"]? =
      some ["ARP entry 0b / 10.1.0.2 resolves to b by MAC and c by IP"] := by decide
  have recorded := said_other.diagnostics "a"
  have behind := said_first.diagnostics "a"
  have twice := said_again.diagnostics "a"
  have found : said "a" = ["ARP entry 0b / 10.1.0.2 resolves to b by MAC and c by IP"] := by
    by_cases silent : said "a" = []
    · rw [if_pos silent, message] at recorded
      cases recorded
    · rw [if_neg silent, message] at recorded
      exact (Option.some.inj recorded).symm
  rw [if_neg (by simp [found]), found] at behind twice
  refine ⟨nodes, verdict, by decide, _, message, behind, ?_⟩
  rw [twice, Store.noted, ExtTreeMap.getD_eq_getD_getElem?, behind]
  rfl

theorem Unshared.perm (unshared : Unshared settings nodes names) (perm : names.Perm others) :
    Unshared settings nodes others := by
  intro kind address first hf second hs
  exact unshared kind address first (perm.mem_iff.2 hf) second (perm.mem_iff.2 hs)

theorem Unshared.owner?_perm (unshared : Unshared settings nodes names) (perm : names.Perm others)
    (kind : AddressKind) (address : String) :
    owner? settings nodes names kind address = owner? settings nodes others kind address := by
  ext owner
  rw [unshared.owner?_eq_some_iff, (unshared.perm perm).owner?_eq_some_iff, perm.mem_iff]

theorem Unshared.sameView_populate (unshared : Unshared settings store.nodes names)
    (perm : names.Perm others) :
    (populate settings store names).1.SameView (populate settings store others).1 where
  nodes := (entered_populate settings store names).nodes.trans
    (entered_populate settings store others).nodes.symm
  loopback kind := ExtTreeMap.ext_getElem? fun address => by
    rw [(entered_populate settings store names).loopback,
      (entered_populate settings store others).loopback, unshared.owner?_perm perm]

theorem unconfirmed_perm (settings : ValidationSettings) (store : Store) (perm : names.Perm others) :
    unconfirmed settings store names = unconfirmed settings store others := by
  unfold unconfirmed
  apply List.filter_congr
  intro name _
  rw [perm.contains_eq]

theorem check_snd_perm (settings : ValidationSettings) (store : Store) (perm : names.Perm others) :
    (check settings store names).2 = (check settings store others).2 := by
  have consistent : names.findSome? (nodeMismatch? settings store) = none ↔
      others.findSome? (nodeMismatch? settings store) = none := by
    simp only [List.findSome?_eq_none_iff, perm.mem_iff]
  rw [check_snd, check_snd, unconfirmed_perm settings store perm]
  exact if_congr consistent rfl rfl

theorem valid_run_eq (settings : ValidationSettings) (store : Store) (names : List String) :
    (run settings store names).2.valid =
      (check settings (populate settings store names).1 names).2.isSome := by
  rw [run_eq]
  cases (check settings (populate settings store names).1 names).2 <;> rfl

theorem unconfirmed_run_eq (settings : ValidationSettings) (store : Store) (names : List String) :
    (run settings store names).2.unconfirmed =
      (check settings (populate settings store names).1 names).2.getD [] := by
  rw [run_eq]
  cases (check settings (populate settings store names).1 names).2 <;> rfl

theorem Unshared.sharing_eq_nil {before : List String} {name : String}
    (unshared : Unshared settings nodes (before ++ [name])) {kind : AddressKind} {address : String}
    (advertised : advertises settings nodes kind address name) :
    sharing settings nodes before name kind address = [] := by
  apply List.eq_nil_iff_forall_not_mem.2
  intro note noted
  obtain ⟨owner, owned, different, -⟩ := exists_mem_sharing_iff.1 ⟨note, noted, rfl⟩
  obtain ⟨earlier, advertised_too⟩ := owner?_eq_some owned
  exact different (unshared kind address owner (List.mem_append_left _ earlier) name
    (by simp) advertised_too advertised)

theorem Unshared.entryNotes_eq {before : List String} {name : String}
    (unshared : Unshared settings nodes (before ++ [name])) :
    entryNotes settings nodes before name =
      if lacksLoopback settings nodes name then [(name, missingMessage settings)] else [] := by
  unfold entryNotes
  cases found : loopbackOf? settings nodes name with
  | none => rfl
  | some interface =>
      have advertised {kind : AddressKind} {address : String} (h : has kind address interface) :
          advertises settings nodes kind address name := advertises_iff.2 ⟨interface, found, h⟩
      have ip : interface.ipAddresses.flatMap (sharing settings nodes before name .ip) = [] := by
        rw [List.flatMap_eq_nil_iff]
        intro address listed
        exact unshared.sharing_eq_nil (advertised (mem_ipAddresses_iff.1 listed))
      have mac : (macAddresses interface).flatMap (sharing settings nodes before name .mac) = [] := by
        rw [List.flatMap_eq_nil_iff]
        intro address listed
        exact unshared.sharing_eq_nil (advertised (mem_macAddresses_iff.1 listed))
      rw [lacksLoopback_of_loopback found]
      simp [ip, mac]

theorem Unshared.notesAfter_eq {before : List String}
    (unshared : Unshared settings nodes (before ++ names)) :
    notesAfter settings nodes before names =
      (names.filter (lacksLoopback settings nodes)).map fun name =>
        (name, missingMessage settings) := by
  induction names generalizing before with
  | nil => rfl
  | cons name names ih =>
      have split : before ++ name :: names = before ++ [name] ++ names := by simp
      rw [split] at unshared
      have here : Unshared settings nodes (before ++ [name]) := by
        intro kind address first hf second hs
        exact unshared kind address first (List.mem_append_left _ hf) second
          (List.mem_append_left _ hs)
      rw [notesAfter, here.entryNotes_eq, ih unshared, List.filter_cons]
      split_ifs <;> simp

theorem Unshared.diagnostics_populate (unshared : Unshared settings store.nodes names)
    (perm : names.Perm others) :
    (populate settings store names).1.diagnostics =
      (populate settings store others).1.diagnostics := by
  have unshared_too := unshared.perm perm
  rw [← List.nil_append names] at unshared
  rw [← List.nil_append others] at unshared_too
  rw [(entered_populate settings store names).diagnostics,
    (entered_populate settings store others).diagnostics, unshared.notesAfter_eq,
    unshared_too.notesAfter_eq]
  apply noteAll_congr
  intro name
  rw [messagesOn_map_eq_replicate, messagesOn_map_eq_replicate, (perm.filter _).count_eq]

/-- If no address is shared, the order of the names changes neither the verdict nor the indices, apart
from the order in which nodes without a loopback are listed. If the verdict is positive, the same is
noted on every node. -/
theorem order_irrelevant_of_unshared (settings : ValidationSettings) {store : Store}
    (unshared : Unshared settings store.nodes names) (perm : names.Perm others) :
    let first := run settings store names
    let other := run settings store others
    first.2.valid = other.2.valid ∧ first.2.unconfirmed = other.2.unconfirmed ∧
      first.2.missingLoopback.Perm other.2.missingLoopback ∧
      (∀ kind, first.1.loopback kind = other.1.loopback kind) ∧
      (first.2.valid = true → first.1.diagnostics = other.1.diagnostics) := by
  intro first other
  have view := unshared.sameView_populate perm
  have checked : (check settings (populate settings store names).1 names).2 =
      (check settings (populate settings store others).1 others).2 := by
    rw [check_snd_congr view, check_snd_perm settings _ perm]
  have valid : first.2.valid = other.2.valid := by
    simp only [first, other, valid_run_eq, checked]
  have unconfirmed : first.2.unconfirmed = other.2.unconfirmed := by
    simp only [first, other, unconfirmed_run_eq, checked]
  refine ⟨valid, unconfirmed, ?_, fun kind => ?_, fun positive => ?_⟩
  · simp only [first, other, missingLoopback_run]
    exact perm.filter _
  · apply ExtTreeMap.ext_getElem?
    intro address
    rw [loopback_run, loopback_run, unshared.owner?_perm perm]
  · have populated := unshared.diagnostics_populate perm
    have positive_too : other.2.valid = true := valid ▸ positive
    apply ExtTreeMap.ext_getElem?
    intro name
    rw [getElem?_diagnostics_run positive, getElem?_diagnostics_run positive_too, unconfirmed,
      Store.noted, Store.noted, populated]

/-- A node without a loopback is named twice, and the two nodes between change places. -/
theorem order_irrelevant_partlyConfirmed :
    let names := ["c", "a", "ghost", "b", "c"]
    let first := run {} partlyConfirmed names
    let other := run {} partlyConfirmed names.reverse
    Unshared {} partlyConfirmed.nodes names ∧ names.Perm names.reverse ∧
      first.2 = ⟨true, ["b", "c", "d"], ["c", "c"]⟩ ∧ other.2.unconfirmed = first.2.unconfirmed ∧
      first.1.diagnostics = other.1.diagnostics := by
  intro names first other
  have unshared : Unshared {} partlyConfirmed.nodes names := by decide
  have perm : names.Perm names.reverse := (List.reverse_perm names).symm
  have verdict : first.2 = ⟨true, ["b", "c", "d"], ["c", "c"]⟩ := by decide
  obtain ⟨-, unconfirmed, -, -, diagnostics⟩ := order_irrelevant_of_unshared {} unshared perm
  exact ⟨unshared, perm, verdict, unconfirmed.symm, diagnostics (by rw [verdict])⟩

end Validation

end FabricSurvey
