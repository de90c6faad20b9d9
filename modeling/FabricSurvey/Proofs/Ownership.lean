import FabricSurvey.Proofs.Verdict

/-!
# First owners and collisions

Populating is stated here without its loops: an address is entered for the first of the names whose
loopback has it, and a name has something noted on it exactly if it lacks a loopback or shares an
address with another one. A node that runs into the owner of an address is noted together with the
owner, and with nobody else who has the address. They are noted all the same, as each of them runs
into the same owner, whatever the order of the names.
-/

namespace FabricSurvey

open Std (ExtTreeMap)

/-- The first of some values with a property. -/
structure IsFirst {α : Type} (p : α → Prop) (values : List α) (value : α) : Prop where
  has : p value
  unpreceded : ∃ before later, values = before ++ value :: later ∧ ∀ other ∈ before, ¬ p other

section

variable {α β : Type} {p q : α → Prop} {values : List α} {value : α}

theorem isFirst_congr (h : ∀ value, p value ↔ q value) :
    IsFirst p values value ↔ IsFirst q values value := by
  rw [funext fun value => propext (h value)]

theorem not_isFirst_nil : ¬ IsFirst p [] value := by
  intro first
  obtain ⟨before, later, split, -⟩ := first.unpreceded
  simp at split

theorem isFirst_cons {head : α} :
    IsFirst p (head :: values) value ↔
      p head ∧ value = head ∨ ¬ p head ∧ IsFirst p values value := by
  constructor
  · intro first
    obtain ⟨before, later, split, skipped⟩ := first.unpreceded
    cases before with
    | nil =>
        obtain ⟨rfl, -⟩ := List.cons.inj split
        exact .inl ⟨first.has, rfl⟩
    | cons earlier before =>
        obtain ⟨rfl, rest⟩ := List.cons.inj split
        have later_skipped := fun other h => skipped other (List.mem_cons_of_mem _ h)
        exact .inr ⟨skipped _ List.mem_cons_self, first.has, before, later, rest, later_skipped⟩
  · intro h
    cases h with
    | inl found =>
        obtain ⟨has, rfl⟩ := found
        exact ⟨has, [], values, rfl, fun _ h => absurd h List.not_mem_nil⟩
    | inr behind =>
        obtain ⟨lacks, has, before, later, rfl, skipped⟩ := behind
        exact ⟨has, head :: before, later, rfl, List.forall_mem_cons.2 ⟨lacks, skipped⟩⟩

theorem isFirst_cons_of_has {head : α} (has : p head) :
    IsFirst p (head :: values) value ↔ value = head := by
  rw [isFirst_cons, or_iff_left fun behind => behind.1 has, and_iff_right has]

theorem isFirst_cons_of_not {head : α} (lacks : ¬ p head) :
    IsFirst p (head :: values) value ↔ IsFirst p values value := by
  rw [isFirst_cons, or_iff_right fun found => lacks found.1, and_iff_right lacks]

theorem isFirst_and_left {c : Prop} :
    IsFirst (fun value => c ∧ p value) values value ↔ c ∧ IsFirst p values value := by
  constructor
  · intro first
    exact ⟨first.has.1, (isFirst_congr fun _ => and_iff_right first.has.1).1 first⟩
  · intro h
    exact (isFirst_congr fun _ => and_iff_right h.1).2 h.2

theorem find?_eq_some_iff_isFirst {test : α → Bool} :
    values.find? test = some value ↔ IsFirst (fun value => test value) values value := by
  simp only [List.find?_eq_some_iff_append, Bool.not_eq_true', ← Bool.not_eq_true]
  exact ⟨fun h => ⟨h.1, h.2⟩, fun h => ⟨h.has, h.unpreceded⟩⟩

theorem isFirst_of_findSome? {f : α → Option β} {result : β}
    (h : values.findSome? f = some result) :
    ∃ value, IsFirst (fun value => (f value).isSome) values value ∧ f value = some result := by
  obtain ⟨before, value, later, split, found, skipped⟩ := List.findSome?_eq_some_iff.1 h
  refine ⟨value, ⟨Option.isSome_of_eq_some found, before, later, split, ?_⟩, found⟩
  intro other earlier
  simp [skipped other earlier]

end

namespace Validation

variable {settings : ValidationSettings} {nodes : ExtTreeMap String Node} {names : List String}
  {name other address : String} {kind : AddressKind}

/-- A node of this name is stored, and of its interfaces this is the first with the internal name of a
loopback. -/
def HasLoopback (settings : ValidationSettings) (nodes : ExtTreeMap String Node) (name : String)
    (interface : Interface) : Prop :=
  ∃ node, nodes[name]? = some node ∧
    IsFirst (·.internalName = settings.loopbackName) node.interfaces interface

/-- A node of this name is stored, and none of its interfaces has the internal name of a loopback. -/
def WithoutLoopback (settings : ValidationSettings) (nodes : ExtTreeMap String Node)
    (name : String) : Prop :=
  ∃ node, nodes[name]? = some node ∧
    ∀ interface ∈ node.interfaces, interface.internalName ≠ settings.loopbackName

theorem loopback?_eq_some_iff {node : Node} {interface : Interface} :
    loopback? settings node = some interface ↔
      IsFirst (·.internalName = settings.loopbackName) node.interfaces interface := by
  rw [loopback?, Node.internal?, findInternal, find?_eq_some_iff_isFirst]
  exact isFirst_congr fun _ => beq_iff_eq

theorem loopbackOf?_eq_some_iff {interface : Interface} :
    loopbackOf? settings nodes name = some interface ↔ HasLoopback settings nodes name interface := by
  simp only [loopbackOf?, Option.bind_eq_some_iff, loopback?_eq_some_iff, HasLoopback]

theorem lacksLoopback_iff :
    lacksLoopback settings nodes name ↔ WithoutLoopback settings nodes name := by
  simp [lacksLoopback, WithoutLoopback, loopback?, Node.internal?, findInternal,
    Option.any_eq_true]

instance : DecidablePred (WithoutLoopback settings nodes) :=
  fun _ => decidable_of_iff _ lacksLoopback_iff

theorem advertises_ip_iff :
    advertises settings nodes .ip address name ↔
      ∃ interface, HasLoopback settings nodes name interface ∧ address ∈ interface.ipAddresses := by
  simp only [advertises_iff, loopbackOf?_eq_some_iff, mem_ipAddresses_iff]

theorem advertises_mac_iff :
    advertises settings nodes .mac address name ↔
      address ≠ "" ∧
        ∃ interface, HasLoopback settings nodes name interface ∧ interface.macAddress = address := by
  have has_iff (interface : Interface) :
      has .mac address interface ↔ address ≠ "" ∧ interface.macAddress = address := by
    simp [has]
  simp only [advertises_iff, loopbackOf?_eq_some_iff, has_iff, and_left_comm, exists_and_left]

theorem owner?_eq_some_iff_isFirst :
    owner? settings nodes names kind address = some name ↔
      IsFirst (fun other => advertises settings nodes kind address other) names name :=
  find?_eq_some_iff_isFirst

/-- Populating enters an address for the first name whose loopback has it, and nothing else. It gives
the names of the nodes without a loopback as they are listed. -/
theorem populate_enters_first_owners (settings : ValidationSettings) (store : Store)
    (names : List String) :
    let populated := populate settings store names
    (∀ address name, populated.1.loopbackIP[address]? = some name ↔
      IsFirst (fun other => ∃ interface, HasLoopback settings store.nodes other interface ∧
        address ∈ interface.ipAddresses) names name) ∧
    (∀ address name, populated.1.loopbackMAC[address]? = some name ↔
      address ≠ "" ∧
        IsFirst (fun other => ∃ interface, HasLoopback settings store.nodes other interface ∧
          interface.macAddress = address) names name) ∧
    populated.2 = names.filter (WithoutLoopback settings store.nodes) := by
  intro populated
  have entered := entered_populate settings store names
  have held (kind : AddressKind) (address name : String) :
      (populated.1.loopback kind)[address]? = some name ↔
        IsFirst (fun other => advertises settings store.nodes kind address other) names name := by
    rw [entered.loopback, owner?_eq_some_iff_isFirst]
  refine ⟨fun address name => ?_, fun address name => ?_, ?_⟩
  · exact (held .ip address name).trans (isFirst_congr fun _ => advertises_ip_iff)
  · rw [← isFirst_and_left]
    exact (held .mac address name).trans (isFirst_congr fun _ => advertises_mac_iff)
  · rw [entered.missing]
    apply List.filter_congr
    intro name _
    exact Bool.eq_iff_iff.2 (lacksLoopback_iff.trans decide_eq_true_iff.symm)

theorem exists_before_of_owner? {owner : String}
    (owned : owner? settings nodes names kind address = some owner) (listed : name ∈ names)
    (advertised : advertises settings nodes kind address name) (different : name ≠ owner) :
    ∃ before later, names = before ++ name :: later ∧
      owner? settings nodes before kind address = some owner := by
  obtain ⟨has, before, later, rfl, unowned⟩ := owner?_eq_some_iff_isFirst.1 owned
  have behind : name ∈ later := by
    rcases List.mem_append.1 listed with earlier | from_owner
    · exact absurd advertised (unowned name earlier)
    · exact (List.mem_cons.1 from_owner).resolve_left different
  obtain ⟨between, rest, rfl⟩ := List.append_of_mem behind
  refine ⟨before ++ owner :: between, rest, by simp, ?_⟩
  exact owner?_eq_some_iff_isFirst.2 ⟨has, before, between, rfl, unowned⟩

/-- The loopbacks of two names have an address in common. -/
def Collides (settings : ValidationSettings) (nodes : ExtTreeMap String Node)
    (name other : String) : Prop :=
  ∃ own foreign, HasLoopback settings nodes name own ∧ HasLoopback settings nodes other foreign ∧
    ((∃ address ∈ own.ipAddresses, address ∈ foreign.ipAddresses) ∨
      own.macAddress ≠ "" ∧ own.macAddress = foreign.macAddress)

theorem collides_iff :
    Collides settings nodes name other ↔
      ∃ kind address, advertises settings nodes kind address name ∧
        advertises settings nodes kind address other := by
  constructor
  · intro collides
    obtain ⟨own, foreign, has_own, has_foreign, shared⟩ := collides
    rcases shared with ⟨address, listed, too⟩ | ⟨nonempty, same⟩
    · exact ⟨.ip, address, advertises_ip_iff.2 ⟨own, has_own, listed⟩,
        advertises_ip_iff.2 ⟨foreign, has_foreign, too⟩⟩
    · exact ⟨.mac, own.macAddress, advertises_mac_iff.2 ⟨nonempty, own, has_own, rfl⟩,
        advertises_mac_iff.2 ⟨nonempty, foreign, has_foreign, same.symm⟩⟩
  · intro shared
    obtain ⟨kind, address, first, second⟩ := shared
    cases kind with
    | ip =>
        obtain ⟨own, has_own, listed⟩ := advertises_ip_iff.1 first
        obtain ⟨foreign, has_foreign, too⟩ := advertises_ip_iff.1 second
        exact ⟨own, foreign, has_own, has_foreign, .inl ⟨address, listed, too⟩⟩
    | mac =>
        obtain ⟨nonempty, own, has_own, rfl⟩ := advertises_mac_iff.1 first
        obtain ⟨-, foreign, has_foreign, same⟩ := advertises_mac_iff.1 second
        exact ⟨own, foreign, has_own, has_foreign, .inr ⟨nonempty, same.symm⟩⟩

theorem unshared_iff_collides :
    Unshared settings nodes names ↔
      ∀ first ∈ names, ∀ second ∈ names, Collides settings nodes first second → first = second := by
  simp only [collides_iff]
  constructor
  · intro unshared first hf second hs shared
    obtain ⟨kind, address, own, foreign⟩ := shared
    exact unshared kind address first hf second hs own foreign
  · intro apart kind address first hf second hs own foreign
    exact apart first hf second hs ⟨kind, address, own, foreign⟩

/-- The node of a name has no loopback, or shares an address of it with that of another of the names. -/
def Faulty (settings : ValidationSettings) (nodes : ExtTreeMap String Node) (names : List String)
    (name : String) : Prop :=
  WithoutLoopback settings nodes name ∨
    ∃ other ∈ names, other ≠ name ∧ Collides settings nodes name other

theorem Faulty.exists_node (faulty : Faulty settings nodes names name) :
    ∃ node, nodes[name]? = some node := by
  rcases faulty with ⟨node, stored, -⟩ | ⟨other, -, -, own, foreign, has_own, -⟩
  · exact ⟨node, stored⟩
  · obtain ⟨node, stored, -⟩ := has_own
    exact ⟨node, stored⟩

/-- Every note is made at some name, in view of the names before it. -/
theorem mem_notesAfter_iff {earlier : List String} {note : Note} :
    note ∈ notesAfter settings nodes earlier names ↔
      ∃ before name later, names = before ++ name :: later ∧
        note ∈ entryNotes settings nodes (earlier ++ before) name := by
  induction names generalizing earlier with
  | nil => simp [notesAfter]
  | cons first names ih =>
      rw [notesAfter, List.mem_append, ih]
      constructor
      · intro h
        rcases h with here | ⟨before, name, later, rfl, there⟩
        · exact ⟨[], first, names, rfl, by simpa using here⟩
        · exact ⟨first :: before, name, later, rfl, by simpa using there⟩
      · intro h
        obtain ⟨before, name, later, split, noted⟩ := h
        cases before with
        | nil =>
            obtain ⟨rfl, rfl⟩ := List.cons.inj split
            exact .inl (by simpa using noted)
        | cons _ before =>
            obtain ⟨rfl, rfl⟩ := List.cons.inj split
            exact .inr ⟨before, name, later, rfl, by simpa using noted⟩

/-- A node that lacks a loopback is noted once, and one that has a loopback for every address on it
that another node holds. -/
theorem mem_entryNotes_iff {before : List String} {note : Note} :
    note ∈ entryNotes settings nodes before name ↔
      (WithoutLoopback settings nodes name ∧ note = (name, missingMessage settings)) ∨
        ∃ kind address, advertises settings nodes kind address name ∧
          note ∈ sharing settings nodes before name kind address := by
  unfold entryNotes
  cases hl : loopbackOf? settings nodes name with
  | none =>
      have unadvertised : ¬ ∃ kind address, advertises settings nodes kind address name ∧
          note ∈ sharing settings nodes before name kind address := by
        intro h
        obtain ⟨kind, address, advertised, -⟩ := h
        simp [advertises, hl] at advertised
      rw [or_iff_left unadvertised, ← lacksLoopback_iff]
      dsimp only
      split_ifs with lacks <;> simp [lacks]
  | some interface =>
      have present : ¬ WithoutLoopback settings nodes name := by
        rw [← lacksLoopback_iff, lacksLoopback_of_loopback hl]
        exact Bool.false_ne_true
      have advertised (kind : AddressKind) (address : String) :
          advertises settings nodes kind address name = has kind address interface := by
        rw [advertises, hl, Option.any_some]
      simp only [present, false_and, false_or, advertised, List.mem_append, List.mem_flatMap,
        mem_ipAddresses_iff, mem_macAddresses_iff]
      constructor
      · intro h
        rcases h with ⟨address, h⟩ | ⟨address, h⟩
        · exact ⟨.ip, address, h⟩
        · exact ⟨.mac, address, h⟩
      · intro h
        obtain ⟨kind, address, h⟩ := h
        cases kind with
        | ip => exact .inl ⟨address, h⟩
        | mac => exact .inr ⟨address, h⟩

theorem exists_mem_sharing_iff {before : List String} :
    (∃ note ∈ sharing settings nodes before name kind address, note.1 = other) ↔
      ∃ owner, owner? settings nodes before kind address = some owner ∧ owner ≠ name ∧
        (other = name ∨ other = owner) := by
  unfold sharing
  cases ho : (owner? settings nodes before kind address).filter (· != name) with
  | none =>
      have unrivalled {owner : String}
          (owned : owner? settings nodes before kind address = some owner) : owner = name := by
        simpa using Option.filter_eq_none_iff.1 ho owner owned
      constructor
      · intro h
        obtain ⟨note, noted, -⟩ := h
        cases noted
      · intro h
        obtain ⟨owner, owned, different, -⟩ := h
        exact absurd (unrivalled owned) different
  | some owner =>
      obtain ⟨owned, different⟩ := Option.filter_eq_some_iff.1 ho
      simp [collision, owned, bne_iff_ne.1 different, @eq_comm _ other]

theorem exists_note_of_owner? {owner : String}
    (owned : owner? settings nodes names kind address = some owner) (listed : other ∈ names)
    (advertised : advertises settings nodes kind address other) (different : other ≠ owner)
    (involved : name = other ∨ name = owner) :
    ∃ note ∈ notesAfter settings nodes [] names, note.1 = name := by
  obtain ⟨before, later, split, taken⟩ :=
    exists_before_of_owner? owned listed advertised different
  obtain ⟨note, shared, on_name⟩ :=
    exists_mem_sharing_iff.2 ⟨owner, taken, different.symm, involved⟩
  have entered : note ∈ entryNotes settings nodes ([] ++ before) other :=
    mem_entryNotes_iff.2 (.inr ⟨kind, address, advertised, shared⟩)
  exact ⟨note, mem_notesAfter_iff.2 ⟨before, other, later, split, entered⟩, on_name⟩

theorem faulty_of_mem_notesAfter {note : Note} (noted : note ∈ notesAfter settings nodes [] names) :
    note.1 ∈ names ∧ Faulty settings nodes names note.1 := by
  obtain ⟨before, entered, later, rfl, here⟩ := mem_notesAfter_iff.1 noted
  have entered_listed : entered ∈ before ++ entered :: later := by simp
  rcases mem_entryNotes_iff.1 here with ⟨without, rfl⟩ | ⟨kind, address, advertised, shared⟩
  · exact ⟨entered_listed, .inl without⟩
  · obtain ⟨owner, owned, different, involved⟩ := exists_mem_sharing_iff.1 ⟨note, shared, rfl⟩
    obtain ⟨earlier, advertised_too⟩ := owner?_eq_some owned
    have owner_listed : owner ∈ before ++ entered :: later := List.mem_append_left _ earlier
    rcases involved with at_entered | at_owner
    · rw [at_entered]
      exact ⟨entered_listed, .inr ⟨owner, owner_listed, different,
        collides_iff.2 ⟨kind, address, advertised, advertised_too⟩⟩⟩
    · rw [at_owner]
      exact ⟨owner_listed, .inr ⟨entered, entered_listed, different.symm,
        collides_iff.2 ⟨kind, address, advertised_too, advertised⟩⟩⟩

theorem exists_note_of_faulty (listed : name ∈ names) (faulty : Faulty settings nodes names name) :
    ∃ note ∈ notesAfter settings nodes [] names, note.1 = name := by
  rcases faulty with without | ⟨other, listed_too, different, collides⟩
  · obtain ⟨before, later, split⟩ := List.append_of_mem listed
    have entered : (name, missingMessage settings) ∈ entryNotes settings nodes ([] ++ before) name :=
      mem_entryNotes_iff.2 (.inl ⟨without, rfl⟩)
    exact ⟨_, mem_notesAfter_iff.2 ⟨before, name, later, split, entered⟩, rfl⟩
  · obtain ⟨kind, address, advertised, advertised_too⟩ := collides_iff.1 collides
    have owned : (owner? settings nodes names kind address).isSome :=
      List.find?_isSome.2 ⟨name, listed, advertised⟩
    obtain ⟨owner, owned⟩ := Option.isSome_iff_exists.1 owned
    -- If the name is the owner itself, it is noted where the other one runs into it.
    by_cases same : name = owner
    · exact exists_note_of_owner? owned listed_too advertised_too (same ▸ different) (.inr same)
    · exact exists_note_of_owner? owned listed advertised same (.inl rfl)

theorem notesAfter_eq_nil_iff :
    notesAfter settings nodes [] names = [] ↔
      (∀ name ∈ names, ¬ WithoutLoopback settings nodes name) ∧ Unshared settings nodes names := by
  rw [unshared_iff_collides, List.eq_nil_iff_forall_not_mem]
  constructor
  · intro unnoted
    have faultless : ∀ name ∈ names, ¬ Faulty settings nodes names name := by
      intro name listed faulty
      obtain ⟨note, noted, -⟩ := exists_note_of_faulty listed faulty
      exact unnoted note noted
    constructor
    · intro name listed without
      exact faultless name listed (.inl without)
    · intro first hf second hs collides
      by_contra different
      exact faultless first hf (.inr ⟨second, hs, Ne.symm different, collides⟩)
  · intro h note noted
    obtain ⟨present, apart⟩ := h
    obtain ⟨listed, without | ⟨other, listed_too, different, collides⟩⟩ :=
      faulty_of_mem_notesAfter noted
    · exact present note.1 listed without
    · exact different (apart note.1 listed other listed_too collides).symm

/-- Populating notes something on the nodes that lack a loopback and on all that share an address of
their loopback, and on no other. -/
theorem noted_iff_faulty (settings : ValidationSettings) {store : Store}
    (clean : store.diagnostics = ∅) (names : List String) (name : String) :
    name ∈ (populate settings store names).1.diagnostics ↔
      name ∈ names ∧ Faulty settings store.nodes names name := by
  rw [(entered_populate settings store names).diagnostics, clean, mem_noteAll_iff,
    or_iff_right ExtTreeMap.not_mem_empty]
  constructor
  · intro h
    obtain ⟨note, noted, rfl⟩ := h
    exact faulty_of_mem_notesAfter noted
  · intro h
    exact exists_note_of_faulty h.1 h.2

/-- Three nodes with one IP address, two with one hardware address, one with nothing wrong and one
without a loopback. -/
def crowded : Store :=
  { Store.empty with nodes := ExtTreeMap.ofList [
    ("a", member 1 "a" "0a" "10.1.0.9/24" []),
    ("b", member 2 "b" "0b" "10.1.0.9/24" []),
    ("c", member 3 "c" "0c" "10.1.0.9/24" []),
    ("d", member 4 "d" "0b" "10.1.0.4/24" []),
    ("e", member 5 "e" "0e" "10.1.0.5/24" []),
    ("f", .ofIdentity ⟨6, "f", "", "f"⟩)] }

/-- Two nodes that both run into a third one are noted like any others that share an address. -/
theorem noted_crowded :
    let names := ["e", "f", "c", "ghost", "a", "d", "b"]
    crowded.diagnostics = ∅ ∧ Collides {} crowded.nodes "a" "b" ∧
      "a" ∈ (populate {} crowded names).1.diagnostics ∧ ¬ Faulty {} crowded.nodes names "e" := by
  intro names
  have clean : crowded.diagnostics = ∅ := rfl
  have collides : Collides {} crowded.nodes "a" "b" :=
    collides_iff.2 ⟨.ip, "10.1.0.9/24", by decide, by decide⟩
  have faulty : Faulty {} crowded.nodes names "a" := .inr ⟨"b", by decide, by decide, collides⟩
  refine ⟨clean, collides, (noted_iff_faulty {} clean names "a").2 ⟨by decide, faulty⟩, ?_⟩
  intro faulty
  have noted := (noted_iff_faulty {} clean names "e").2 ⟨by decide, faulty⟩
  exact absurd noted (by decide)

end Validation

end FabricSurvey
