import FabricSurvey.CommandLine
import FabricSurvey.Proofs.Operation
import FabricSurvey.Proofs.Ownership
import FabricSurvey.Proofs.RoundTrip
import FabricSurvey.Proofs.Truncation
import Mathlib.Data.Finset.Card

/-!
# Seeding

Identities are added in their order, and one whose name is taken by then is skipped. A name is therefore
decided by the first identity that goes by it, and a free address by the first identity that has it and
is not skipped. A file is read as a whole before any of its identities is added, so that a fault in its
last item keeps out the first one as well.
-/

namespace FabricSurvey

open Std (ExtTreeMap)

namespace Store

/-- How a list of identities is gone through: who is skipped, who joins, and how many have joined. -/
inductive Seeds : Store → List Identity → Store → Nat → Prop
  | nil (store : Store) : Seeds store [] store 0
  | skip {store after : Store} {identity : Identity} {identities : List Identity} {count : Nat} :
      store.get? identity.name ≠ none → Seeds store identities after count →
      Seeds store (identity :: identities) after count
  | join {store next after : Store} {identity : Identity} {identities : List Identity}
      {count : Nat} :
      store.add identity = .ok next → Seeds next identities after count →
      Seeds store (identity :: identities) after (count + 1)

/-- The name of the identity is free, and of all identities that go by it this is the first. -/
structure Joining (store : Store) (identities : List Identity) (identity : Identity) : Prop where
  free : store.get? identity.name = none
  first : IsFirst (fun other => other.name = identity.name) identities identity

/-- Of the identities that join, this is the first with the address. -/
def FirstWith (store : Store) (identities : List Identity) (address : String)
    (identity : Identity) : Prop :=
  IsFirst (fun other => store.Joining identities other ∧ other.managementAddress = address)
    identities identity

variable {store next after : Store} {identity other : Identity} {identities : List Identity}
  {count : Nat} {name address owner : String}

theorem addNew_of_add (added : store.add identity = .ok next) (count : Nat) :
    addNew (store, count) identity = (next, count + 1) := by rw [addNew, added]

theorem addNew_of_taken (taken : store.get? identity.name ≠ none) (count : Nat) :
    addNew (store, count) identity = (store, count) := by
  have rejected := add_eq_error_iff.2 ⟨Option.ne_none_iff_exists'.1 taken, rfl⟩
  rw [addNew, rejected]

theorem foldl_addNew (store : Store) (count : Nat) (identities : List Identity) :
    identities.foldl addNew (store, count) =
      ((store.seed identities).1, (store.seed identities).2 + count) := by
  unfold seed
  induction identities generalizing store count with
  | nil => rw [List.foldl_nil, List.foldl_nil, Nat.zero_add]
  | cons identity identities ih =>
      rw [List.foldl_cons, List.foldl_cons]
      by_cases taken : store.get? identity.name = none
      · obtain ⟨next, added⟩ := exists_add_of_free taken
        rw [addNew_of_add added, addNew_of_add added, ih next (count + 1), ih next (0 + 1), Nat.add_assoc,
          Nat.zero_add, Nat.add_comm 1]
      · rw [addNew_of_taken taken, addNew_of_taken taken, ih]

/-- Two lists are added one after the other like one list, and the counts add up. -/
theorem seed_append (store : Store) (identities more : List Identity) :
    store.seed (identities ++ more) =
      (((store.seed identities).1.seed more).1,
        (store.seed identities).2 + ((store.seed identities).1.seed more).2) := by
  have walked : store.seed (identities ++ more) = more.foldl addNew (store.seed identities) :=
    List.foldl_append
  rw [walked, Nat.add_comm]
  exact foldl_addNew (store.seed identities).1 (store.seed identities).2 more

theorem seeds_seed (store : Store) (identities : List Identity) :
    Seeds store identities (store.seed identities).1 (store.seed identities).2 := by
  induction identities generalizing store with
  | nil => exact .nil store
  | cons identity identities ih =>
      rw [seed, List.foldl_cons]
      by_cases taken : store.get? identity.name = none
      · obtain ⟨next, added⟩ := exists_add_of_free taken
        rw [addNew_of_add added, foldl_addNew]
        exact .join added (ih next)
      · rw [addNew_of_taken taken]
        exact .skip taken (ih store)

theorem Seeds.get?_eq (h : Seeds store identities after count) (name : String) :
    after.get? name =
      (store.get? name).or ((identities.find? (·.name == name)).map Node.ofIdentity) := by
  induction h with
  | nil store => rw [List.find?_nil, Option.map_none, Option.or_none]
  | @skip store after identity identities count taken _ ih =>
      rw [ih, List.find?_cons]
      by_cases own : identity.name = name
      · obtain ⟨node, stored⟩ := Option.ne_none_iff_exists'.1 taken
        rw [own] at stored
        rw [stored, Option.some_or, Option.some_or]
      · rw [beq_false_of_ne own]
  | @join store next after identity identities count added _ ih =>
      rw [ih, get?_of_add added, List.find?_cons]
      by_cases own : identity.name = name
      · have free := get?_eq_none_of_add added
        rw [own] at free
        rw [if_pos own, free, beq_iff_eq.2 own]
        rfl
      · rw [if_neg own, beq_false_of_ne own]

theorem Seeds.size_eq (h : Seeds store identities after count) :
    after.size = store.size + count := by
  induction h with
  | nil store => rfl
  | skip _ _ ih => exact ih
  | join added _ ih =>
      rw [ih, size_of_add added]
      omega

theorem Seeds.mem_names_iff (h : Seeds store identities after count) :
    name ∈ after.names ↔ name ∈ identities.map Identity.name ∨ name ∈ store.names := by
  simp only [Store.mem_names_iff, ← Option.isSome_iff_exists, h.get?_eq, Option.isSome_or,
    Option.isSome_map, Bool.or_eq_true, List.find?_isSome, List.mem_map, beq_iff_eq]
  exact or_comm

theorem Seeds.count_eq (h : Seeds store identities after count) :
    count = ((identities.map Identity.name).toFinset \ store.names.toFinset).card := by
  have card_names (store : Store) : store.names.toFinset.card = store.size := by
    have once : store.names.Nodup := ExtTreeMap.nodup_keys
    rw [List.toFinset_card_of_nodup once, length_names]
  have names : after.names.toFinset =
      (identities.map Identity.name).toFinset ∪ store.names.toFinset := by
    ext name
    rw [Finset.mem_union, List.mem_toFinset, List.mem_toFinset, List.mem_toFinset, h.mem_names_iff]
  have total := Finset.card_sdiff_add_card (identities.map Identity.name).toFinset store.names.toFinset
  rw [← names, card_names, card_names, h.size_eq] at total
  omega

/-- A name has the node that it had. A free one has that of the first identity that goes by it. -/
theorem Seeds.get?_eq_some_iff (h : Seeds store identities after count) {node : Node} :
    after.get? name = some node ↔ store.get? name = some node ∨
      ∃ identity, store.Joining identities identity ∧ identity.name = name ∧
        node = .ofIdentity identity := by
  rw [h.get?_eq]
  cases stored : store.get? name with
  | some found =>
      have nobody : ¬ ∃ identity, store.Joining identities identity ∧ identity.name = name ∧
          node = .ofIdentity identity := by
        intro joined
        obtain ⟨identity, joining, rfl, -⟩ := joined
        rw [joining.free] at stored
        cases stored
      rw [Option.some_or, or_iff_left nobody]
  | none =>
      rw [Option.none_or, Option.map_eq_some_iff, or_iff_right (Option.some_ne_none node).symm]
      apply exists_congr
      intro identity
      simp only [find?_eq_some_iff_isFirst, beq_iff_eq]
      constructor
      · intro found
        obtain ⟨first, rfl⟩ := found
        obtain rfl := first.has
        exact ⟨⟨stored, first⟩, rfl, rfl⟩
      · intro joined
        obtain ⟨joining, rfl, rfl⟩ := joined
        exact ⟨joining.first, rfl⟩

theorem joining_cons_of_taken (taken : store.get? identity.name ≠ none) :
    store.Joining (identity :: identities) other ↔ store.Joining identities other := by
  constructor
  · intro joining
    rcases isFirst_cons.1 joining.first with here | later
    · rw [here.1] at taken
      exact absurd joining.free taken
    · exact ⟨joining.free, later.2⟩
  · intro joining
    have differ : identity.name ≠ other.name := by
      intro same
      rw [same] at taken
      exact taken joining.free
    exact ⟨joining.free, isFirst_cons.2 (.inr ⟨differ, joining.first⟩)⟩

theorem joining_cons_of_add (added : store.add identity = .ok next) :
    store.Joining (identity :: identities) other ↔
      other = identity ∨ next.Joining identities other := by
  constructor
  · intro joining
    rcases isFirst_cons.1 joining.first with here | later
    · exact .inl here.2
    · have free : next.get? other.name = none := by
        rw [get?_of_add added, if_neg later.1, joining.free]
      exact .inr ⟨free, later.2⟩
  · intro h
    rcases h with rfl | joining
    · exact ⟨get?_eq_none_of_add added, isFirst_cons.2 (.inl ⟨rfl, rfl⟩)⟩
    · have free := joining.free
      rw [get?_of_add added] at free
      split_ifs at free with same
      exact ⟨free, isFirst_cons.2 (.inr ⟨same, joining.first⟩)⟩

theorem firstWith_cons_of_taken (taken : store.get? identity.name ≠ none) :
    store.FirstWith (identity :: identities) address other ↔
      store.FirstWith identities address other := by
  have skipped : ¬ (store.Joining (identity :: identities) identity ∧
      identity.managementAddress = address) := fun h => taken h.1.free
  refine Iff.trans (isFirst_cons_of_not skipped) (isFirst_congr fun other => ?_)
  rw [joining_cons_of_taken taken]

theorem firstWith_cons_of_add (added : store.add identity = .ok next)
    (own : identity.managementAddress = address) :
    store.FirstWith (identity :: identities) address other ↔ other = identity :=
  isFirst_cons_of_has ⟨(joining_cons_of_add added).2 (.inl rfl), own⟩

theorem firstWith_cons_of_ne (added : store.add identity = .ok next)
    (differ : identity.managementAddress ≠ address) :
    store.FirstWith (identity :: identities) address other ↔
      next.FirstWith identities address other := by
  have passed : ¬ (store.Joining (identity :: identities) identity ∧
      identity.managementAddress = address) := fun h => differ h.2
  refine Iff.trans (isFirst_cons_of_not passed) (isFirst_congr fun other => ?_)
  rw [joining_cons_of_add added, or_and_right, or_iff_right]
  intro h
  exact differ (h.1 ▸ h.2)

/-- A held address stays with its holder. A free one goes to the first identity that has it, of those
that join. -/
theorem Seeds.management_eq_some_iff (h : Seeds store identities after count) :
    after.management[address]? = some owner ↔ store.management[address]? = some owner ∨
      store.management[address]? = none ∧
        ∃ identity, store.FirstWith identities address identity ∧ identity.name = owner := by
  induction h with
  | nil store =>
      have nobody : ¬ ∃ identity, store.FirstWith [] address identity ∧ identity.name = owner := by
        intro claimed
        obtain ⟨identity, first, -⟩ := claimed
        exact not_isFirst_nil first
      rw [or_iff_left fun h => nobody h.2]
  | @skip store after identity identities count taken _ ih =>
      rw [ih]
      simp only [firstWith_cons_of_taken taken]
  | @join store next after identity identities count added _ ih =>
      rw [ih, management_of_add added, Index.getElem?_claim_or]
      by_cases own : identity.managementAddress = address
      · -- After this step the address has a holder, so that nobody behind gets it.
        simp only [firstWith_cons_of_add added own, if_pos own, exists_eq_left]
        cases store.management[address]? <;> simp
      · simp only [firstWith_cons_of_ne added own, if_neg own, Option.or_none]

theorem Seeds.loopback_eq (h : Seeds store identities after count) (kind : AddressKind) :
    after.loopback kind = store.loopback kind := by
  induction h with
  | nil store => rfl
  | skip _ _ ih => exact ih
  | join added _ ih => rw [ih, loopback_of_add added]

theorem Seeds.diagnostics_eq (h : Seeds store identities after count) :
    after.diagnostics = store.diagnostics := by
  induction h with
  | nil store => rfl
  | skip _ _ ih => exact ih
  | join added _ ih => rw [ih, diagnostics_of_add added]

end Store

namespace Json

variable {α : Type}

theorem mapM_eq_ok_iff {read : Draft → Except Error α} {items : List Draft} {values : List α} :
    items.mapM read = .ok values ↔
      List.Forall₂ (fun item value => read item = .ok value) items values := by
  induction items generalizing values with
  | nil => simp [pure, Except.pure, eq_comm]
  | cons item items ih =>
      rw [List.mapM_cons, bind_eq_ok_iff, List.forall₂_cons_left_iff]
      constructor
      · intro h
        obtain ⟨value, first, h⟩ := h
        obtain ⟨others, rest, same⟩ := bind_eq_ok_iff.1 h
        cases same
        exact ⟨value, others, first, ih.1 rest, rfl⟩
      · intro h
        obtain ⟨value, others, first, rest, rfl⟩ := h
        exact ⟨value, first, bind_eq_ok_iff.2 ⟨others, ih.2 rest, rfl⟩⟩

theorem decode_list_eq_ok_iff [Shaped α] {draft : Draft} {values : List α} :
    decode (List α) draft = .ok values ↔ ∃ items, draft = .array items none ∧
      List.Forall₂ (fun item value => decode α item = .ok value) items values := by
  constructor
  · intro h
    obtain ⟨data, decoded, rfl⟩ := map_eq_ok_iff.1 h
    cases draft with
    | array items ending =>
        obtain ⟨_, each, h⟩ := bind_eq_ok_iff.1 decoded
        obtain ⟨_, closed, same⟩ := bind_eq_ok_iff.1 h
        cases same
        cases ending with
        | some fault => cases closed
        | none =>
            refine ⟨items, rfl, List.forall₂_map_right_iff.2 ?_⟩
            exact (mapM_eq_ok_iff.1 each).imp fun item data h => map_eq_ok_iff.2 ⟨data, h, rfl⟩
    | _ => exact absurd decoded mismatch_ne_ok
  · intro h
    obtain ⟨items, rfl, each⟩ := h
    have decoded : items.mapM (fun item => (Shaped.shape α).decode item) =
        .ok (values.map Shaped.toData) := by
      apply mapM_eq_ok_iff.2
      apply List.forall₂_map_right_iff.2
      apply each.imp
      intro item value h
      obtain ⟨data, read, rfl⟩ := map_eq_ok_iff.1 h
      rw [read, Shaped.toData_ofData]
    have listed := bind_eq_ok_iff.2 ⟨_, decoded, rfl⟩
    exact map_eq_ok_iff.2 ⟨_, listed, Shaped.map_map_cancel Shaped.ofData_toData values⟩

theorem parse_list_eq_ok_iff [Shaped α] {text : Bytes} {values : List α} :
    parse (List α) text = .ok values ↔ ∃ items gap, Draft.read text = (.array items none, gap) ∧
      Blanks gap ∧ List.Forall₂ (fun item value => decode α item = .ok value) items values := by
  rw [parse, readWhole_eq_ok_iff, decode_list_eq_ok_iff]
  generalize Draft.read text = found
  obtain ⟨draft, gap⟩ := found
  constructor
  · intro h
    obtain ⟨⟨items, rfl, each⟩, blank⟩ := h
    exact ⟨items, gap, rfl, blank, each⟩
  · intro h
    obtain ⟨items, _, read, blank, each⟩ := h
    cases read
    exact ⟨⟨items, rfl, each⟩, blank⟩

end Json

namespace Store

open Json

/-- The file can be read, it is text, and the text is one array every item of which is an identity. -/
inductive Lists : Except FileError Bytes → List Identity → Prop
  | array {bytes gap : Bytes} {items : List Draft} {identities : List Identity} :
      (utf8? bytes).isSome → Draft.read bytes = (.array items none, gap) → Blanks gap →
      List.Forall₂ (fun item identity => decode Identity item = .ok identity) items identities →
      Lists (.ok bytes) identities

variable {store : Store} {content : Except FileError Bytes} {identities : List Identity}

theorem identitiesOfFile_eq_ok_iff :
    identitiesOfFile content = .ok identities ↔ Lists content identities := by
  constructor
  · intro h
    cases content with
    | error cause => cases h
    | ok bytes =>
        cases text : (utf8? bytes).isNone with
        | true =>
            rw [identitiesOfFile, text] at h
            cases h
        | false =>
            cases parsed : parse (List Identity) bytes with
            | error cause =>
                simp only [identitiesOfFile, text, parsed] at h
                cases h
            | ok listed =>
                simp only [identitiesOfFile, text, parsed] at h
                cases h
                obtain ⟨items, gap, read, blank, each⟩ := parse_list_eq_ok_iff.1 parsed
                exact .array (Option.isNone_eq_false_iff.1 text) read blank each
  · intro h
    obtain ⟨text, read, blank, each⟩ := h
    have parsed := parse_list_eq_ok_iff.2 ⟨_, _, read, blank, each⟩
    simp only [identitiesOfFile, Option.isNone_eq_false_iff.2 text, parsed, Bool.false_eq_true,
      if_false]

theorem seedFile_of_lists (store : Store) (lists : Lists content identities) :
    store.seedFile content = .ok (store.seed identities) := by
  rw [seedFile, identitiesOfFile_eq_ok_iff.2 lists]
  rfl

theorem seedFile_of_not_lists (store : Store) (fault : ∀ identities, ¬ Lists content identities) :
    ∃ cause, store.seedFile content = .error cause ∧ store.perform (.seedFile content) = store := by
  cases listed : identitiesOfFile content with
  | ok identities => exact absurd (identitiesOfFile_eq_ok_iff.1 listed) (fault identities)
  | error cause =>
      have failed : store.seedFile content = .error cause := by
        rw [seedFile, listed]
        rfl
      refine ⟨cause, failed, ?_⟩
      rw [perform, failed]
      rfl

theorem not_lists_of_item {items : List Draft} {bytes : Bytes}
    (whole : (Draft.array items none).WholeText bytes) {item : Draft} (among : item ∈ items)
    (refused : ∀ identity, decode Identity item ≠ .ok identity) (listed : List Identity) :
    ¬ Lists (.ok bytes) listed := by
  intro lists
  obtain ⟨-, read, -, each⟩ := lists
  obtain ⟨before, body, after, rfl, blankBefore, written, blankAfter⟩ := whole
  rw [Draft.read_written blankBefore written blankAfter] at read
  cases read
  -- An item that is read cannot be the refused one, whatever the others are read as.
  have accepted := each.imp fun item identity h => And.intro (Exists.intro identity h) h
  obtain ⟨identity, decoded⟩ := ((List.forall₂_and_left _ _).1 accepted).1 item among
  exact refused identity decoded

theorem lists_compact (identities : List Identity) :
    Lists (.ok (utf8 (encode identities).compact)) identities := by
  have distinct : (Shaped.shape (List Identity)).Distinct := by decide
  have text : (utf8? (utf8 (encode identities).compact)).isSome := by
    rw [Value.compact, utf8_ofList, utf8?_bytesOf]
    rfl
  obtain ⟨items, gap, read, blank, each⟩ := parse_list_eq_ok_iff.1 (parse_compact distinct identities)
  exact .array text read blank each

/-- Seeding adds as many nodes as there are free names, each with the identity that goes by the name
first, and gives free addresses to the first of these nodes that has them; what is stored stays as it is.
Two lists are seeded like one. A file that does not list identities from its first to its last item
changes nothing. -/
theorem seeding_first_wins (store : Store) (identities : List Identity) :
    let after := (store.seed identities).1
    let count := (store.seed identities).2
    (count = ((identities.map Identity.name).toFinset \ store.names.toFinset).card ∧
      after.size = store.size + count) ∧
    (∀ name node, after.get? name = some node ↔ store.get? name = some node ∨
      ∃ identity, store.Joining identities identity ∧ identity.name = name ∧
        node = .ofIdentity identity) ∧
    (∀ address owner, after.management[address]? = some owner ↔
      store.management[address]? = some owner ∨ store.management[address]? = none ∧
        ∃ identity, store.FirstWith identities address identity ∧ identity.name = owner) ∧
    ((∀ kind, after.loopback kind = store.loopback kind) ∧ after.diagnostics = store.diagnostics) ∧
    (∀ more, store.seed (identities ++ more) = ((after.seed more).1, count + (after.seed more).2)) ∧
    (∀ content, Lists content identities → store.seedFile content = .ok (after, count) ∧
      store.perform (.seedFile content) = after) ∧
    (∀ content, (∀ listed, ¬ Lists content listed) → ∃ cause,
      store.seedFile content = .error cause ∧ store.perform (.seedFile content) = store) ∧
    ∀ items bytes, (Draft.array items none).WholeText bytes →
      (∃ item ∈ items, ∀ identity, decode Identity item ≠ .ok identity) →
        ∀ listed, ¬ Lists (.ok bytes) listed := by
  intro after count
  have seeds : Seeds store identities after count := seeds_seed store identities
  refine ⟨⟨seeds.count_eq, seeds.size_eq⟩, fun _ _ => seeds.get?_eq_some_iff,
    fun _ _ => seeds.management_eq_some_iff, ⟨seeds.loopback_eq, seeds.diagnostics_eq⟩,
    seed_append store identities, fun content lists => ⟨seedFile_of_lists store lists, ?_⟩,
    fun content => seedFile_of_not_lists store, fun items bytes whole faulty => ?_⟩
  · rw [perform, seedFile_of_lists store lists]
    rfl
  · obtain ⟨item, among, refused⟩ := faulty
    exact not_lists_of_item whole among refused

def gateway : Store := (empty.seed [⟨9, "gw", "", "10.20.0.10"⟩]).1

def cluster : List Identity :=
  [⟨1, "k8s-master", "192.168.16.1", "10.20.0.2"⟩, ⟨2, "k8s-worker1", "192.168.16.2", "10.20.0.10"⟩,
    ⟨3, "k8s-master", "192.168.16.99", "10.20.0.99"⟩]

/-- The repeated name leaves no trace, and nor does a file of which all is well but the last item. -/
theorem seeding_first_wins_cluster :
    let after := (gateway.seed cluster).1
    let listed := Value.array (cluster.map encode ++ [.null])
    (gateway.seed cluster).2 = 2 ∧ after.size = 3 ∧
      after.get? "k8s-master" =
        some (.ofIdentity ⟨1, "k8s-master", "192.168.16.1", "10.20.0.2"⟩) ∧
      after.management["10.20.0.10"]? = some "gw" ∧ after.management["10.20.0.99"]? = none ∧
      gateway.perform (.seedFile (.ok (utf8 (encode cluster).compact))) = after ∧
      gateway.perform (.seedFile (.ok (utf8 listed.compact))) = gateway := by
  intro after listed
  obtain ⟨⟨counted, size⟩, nodes, addresses, -, -, read, refused, faulty⟩ :=
    seeding_first_wins gateway cluster
  have count : (gateway.seed cluster).2 = 2 := by
    rw [counted]
    decide
  have joining : gateway.Joining cluster ⟨1, "k8s-master", "192.168.16.1", "10.20.0.2"⟩ :=
    ⟨by decide, rfl, [], _, rfl, fun _ h => absurd h List.not_mem_nil⟩
  have null : ∃ item ∈ Value.draftItems (cluster.map encode ++ [.null]),
      ∀ identity, decode Identity item ≠ .ok identity :=
    ⟨.null, by simp [cluster, Value.draftItems, Value.draft], fun identity h => by cases h⟩
  obtain ⟨cause, -, unchanged⟩ :=
    refused _ (faulty _ _ (Value.wholeText_compact listed) null)
  refine ⟨count, ?_, ?_, ?_, by decide, (read _ (lists_compact cluster)).2, unchanged⟩
  · rw [size, count]
    rfl
  · exact (nodes _ _).2 (.inr ⟨_, joining, rfl, rfl⟩)
  · exact (addresses _ _).2 (.inl (by decide))

end Store

/-- The nodes of a file and those of the command line are seeded like one list. -/
theorem CommandLine.Options.store_of_lists (options : CommandLine.Options)
    {content : Except FileError Json.Bytes} {identities : List Identity}
    (lists : Store.Lists content identities) :
    options.store (some content) =
      let seeded := (Store.empty.seed (identities ++ options.nodes)).1
      if seeded.size = 0 then .error .noNodes else .ok seeded := by
  unfold CommandLine.Options.store
  dsimp only
  rw [Store.seedFile_of_lists Store.empty lists, Store.seed_append]
  rfl

end FabricSurvey
