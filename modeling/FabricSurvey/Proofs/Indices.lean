import Mathlib.Data.Finset.Card
import FabricSurvey.Collection.Payload
import FabricSurvey.Proofs.Body
import FabricSurvey.Proofs.Grammar.Integer
import FabricSurvey.Proofs.Grammar.Member

/-!
# Tables by index

An index is a 32-bit number between quotes, in its decimal digits and nothing else. No two texts of keys
stand for one index, so no entry of a table takes the place of another one unless their keys are the same
text. A body that has any other key is refused.
-/

namespace FabricSurvey.Json

open Std (ExtTreeMap TransOrd LawfulEqOrd)

theorem readWordKey_eq_ok_iff {key : Bytes} (closed : ClosedKey key) {n : UInt32} :
    readWordKey (key ++ [Byte.quote]) = .ok n ↔ key = Numeral.digitsOf n.toNat := by
  refine ⟨fun h => ?_, readWordKey_spelled⟩
  unfold readWordKey at h
  split at h
  · cases h
  · split at h
    · obtain ⟨⟨numeral, rest⟩, scanned, h⟩ := bind_eq_ok_iff.1 h
      obtain ⟨index, decoded, h⟩ := bind_eq_ok_iff.1 h
      obtain ⟨_, same, written, unsigned⟩ := exists_word decoded
      cases same
      obtain ⟨used, whole, spelled⟩ := Numeral.scan_extent (faultless_eq_ok_iff.1 scanned)
      have digits : used = Numeral.digitsOf index.toNat := spelled.eq_digitsOf written unsigned
      split at h
      · obtain rfl := Except.ok.inj h
        -- a quote comes next, and in the digits there is none, so it is the one that ends the key
        rw [ClosedKey, whole, digits] at closed
        have rescanned := (Numeral.scan_digitsOf index.toNat _).symm.trans closed
        exact (Prod.mk.inj (Except.ok.inj rescanned)).1.symm
      · cases h
    · cases h

theorem sound_of_commas {members : List Member} {inner : Bytes}
    (inside : Commas MemberText members inner) :
    ∀ member ∈ members, ClosedKey member.key ∧ OneValue member.value := by
  have sound {member : Member} {text : Bytes} (h : MemberText member text) :
      ClosedKey member.key ∧ OneValue member.value := by
    obtain ⟨-, closed, -, one⟩ := h
    exact ⟨closed, one⟩
  induction inside with
  | last only => exact List.forall_mem_singleton.2 (sound only)
  | next first _ ih => exact List.forall_mem_cons.2 ⟨sound first, ih⟩

theorem sound_of_objectText {members : List Member} {text : Bytes} (h : ObjectText members text) :
    ∀ member ∈ members, ClosedKey member.key ∧ OneValue member.value := by
  cases h with
  | none => exact fun member hm => absurd hm List.not_mem_nil
  | some _ inside _ => exact sound_of_commas inside

theorem parse_eq_decode {α : Type} [Shaped α] {value : Bytes} (one : OneValue value) {record : α} :
    parse α value = .ok record ↔ decode α (Draft.of value) = .ok record := by
  rw [parse, readWhole_eq_ok_iff, and_iff_left one.blank]
  rfl

section Table

variable {κ α : Type} [Ord κ] [TransOrd κ] [TableKey κ] [Shaped α]

/-- A member of an object gives a key and a record. -/
def Member.Gives (member : Member) (pair : κ × α) : Prop :=
  TableKey.read (member.key ++ [Byte.quote]) = .ok pair.1 ∧ parse α member.value = .ok pair.2

theorem readEntry_eq_ok_iff {table next : ExtTreeMap κ α} {member : Member}
    (one : OneValue member.value) :
    readEntry table member.entry = .ok next ↔
      ∃ pair : κ × α, member.Gives pair ∧ table.insert pair.1 pair.2 = next := by
  unfold readEntry Member.entry
  rw [bind_eq_ok_iff]
  constructor
  · rintro ⟨key, hk, h⟩
    obtain ⟨record, hr, h⟩ := bind_eq_ok_iff.1 h
    exact ⟨(key, record), ⟨hk, (parse_eq_decode one).2 hr⟩, Except.ok.inj h⟩
  · rintro ⟨⟨key, record⟩, ⟨hk, hr⟩, rfl⟩
    exact ⟨key, hk, bind_eq_ok_iff.2 ⟨record, (parse_eq_decode one).1 hr, rfl⟩⟩

theorem foldlM_entry_eq_ok_iff {members : List Member}
    (ones : ∀ member ∈ members, OneValue member.value) {table final : ExtTreeMap κ α} :
    (members.map Member.entry).foldlM readEntry table = .ok final ↔
      ∃ pairs : List (κ × α), List.Forall₂ Member.Gives members pairs ∧
        table.insertMany pairs = final := by
  induction members generalizing table with
  | nil => simp [pure, Except.pure, ExtTreeMap.insertMany_nil]
  | cons member members ih =>
      have ones_tail := fun m hm => ones m (List.mem_cons_of_mem member hm)
      rw [List.map_cons, List.foldlM_cons, bind_eq_ok_iff]
      constructor
      · rintro ⟨next, first, rest⟩
        obtain ⟨pair, gives, rfl⟩ := (readEntry_eq_ok_iff (ones member List.mem_cons_self)).1 first
        obtain ⟨pairs, each, rfl⟩ := (ih ones_tail).1 rest
        exact ⟨pair :: pairs, .cons gives each, ExtTreeMap.insertMany_cons⟩
      · rintro ⟨_, _ | ⟨gives, each⟩, same⟩
        rw [ExtTreeMap.insertMany_cons] at same
        exact ⟨_, (readEntry_eq_ok_iff (ones member List.mem_cons_self)).2 ⟨_, gives, rfl⟩,
          (ih ones_tail).2 ⟨_, each, same⟩⟩

/-- The text of an object is read as the table that its members give. -/
theorem readWhole_decodeTable_iff {members : List Member} {body : Bytes}
    (h : ObjectText members body) {table : ExtTreeMap κ α} :
    readWhole (decodeTable κ α) body = .ok table ↔
      ∃ pairs : List (κ × α), List.Forall₂ Member.Gives members pairs ∧
        (∅ : ExtTreeMap κ α).insertMany pairs = table := by
  obtain ⟨gap, read, blank⟩ := Draft.read_objectText h
  rw [readWhole_eq_ok_iff, read, and_iff_left blank,
    ← foldlM_entry_eq_ok_iff fun member hm => (sound_of_objectText h member hm).2]
  dsimp only
  rw [decodeTable, bind_eq_ok_iff]
  constructor
  · rintro ⟨found, folded, h⟩
    rw [folded, Except.ok.inj h]
  · exact fun folded => ⟨table, folded, rfl⟩

theorem exists_members {body : Bytes} {table : ExtTreeMap κ α}
    (h : readWhole (decodeTable κ α) body = .ok table) : ∃ members, ObjectText members body := by
  obtain ⟨decoded, blank⟩ := readWhole_eq_ok_iff.1 h
  have skips := (delimited_of_decodeTable decoded).skips
  generalize read : Draft.read body = found at decoded blank skips
  obtain ⟨draft, gap⟩ := found
  cases draft with
  | object entries ending => exact Draft.exists_objectText read skips blank
  | _ => exact absurd decoded mismatch_ne_ok

end Table

section Indexed

variable {α : Type} [Shaped α] {members : List Member} {table : ExtTreeMap UInt32 α}

/-- The last member whose key is the digits of an index has a record for a value. -/
def LastUnder (members : List Member) (n : UInt32) (record : α) : Prop :=
  ∃ before member later, members = before ++ member :: later ∧
    member.key = Numeral.digitsOf n.toNat ∧ (∀ next ∈ later, next.key ≠ member.key) ∧
    parse α member.value = .ok record

/-- Every member of an object has an index for a key and a record for a value, and the table has for each
index the record of the last member under it. -/
structure Indexes (members : List Member) (table : ExtTreeMap UInt32 α) : Prop where
  reads : ∀ member ∈ members, ∃ (n : UInt32) (record : α),
    member.key = Numeral.digitsOf n.toNat ∧ parse α member.value = .ok record
  last : ∀ (n : UInt32) (record : α), table[n]? = some record ↔ LastUnder members n record
  size : table.size = (members.map Member.key).toFinset.card

def Member.Under (member : Member) (pair : UInt32 × α) : Prop :=
  member.key = Numeral.digitsOf pair.1.toNat ∧ parse α member.value = .ok pair.2

theorem lastUnder_cons {member : Member} {n : UInt32} {record : α} :
    LastUnder (member :: members) n record ↔ LastUnder members n record ∨
      member.key = Numeral.digitsOf n.toNat ∧ (∀ next ∈ members, next.key ≠ member.key) ∧
        parse α member.value = .ok record := by
  constructor
  · rintro ⟨before, found, later, split, key, last, value⟩
    rcases List.cons_eq_append_iff.1 split with ⟨-, same⟩ | ⟨front, -, rest⟩
    · obtain ⟨rfl, rfl⟩ := List.cons.inj same
      exact .inr ⟨key, last, value⟩
    · exact .inl ⟨front, found, later, rest, key, last, value⟩
  · rintro (⟨before, found, later, rfl, key, last, value⟩ | ⟨key, last, value⟩)
    · exact ⟨member :: before, found, later, rfl, key, last, value⟩
    · exact ⟨[], member, members, rfl, key, last, value⟩

theorem digits_inj {m n : UInt32} (h : Numeral.digitsOf m.toNat = Numeral.digitsOf n.toNat) : m = n :=
  UInt32.toNat_inj.1 (Numeral.digitsOf_injective h)

theorem getElem?_insertMany_iff {pairs : List (UInt32 × α)}
    (each : List.Forall₂ Member.Under members pairs) (n : UInt32) (record : α) :
    (table.insertMany pairs)[n]? = some record ↔ LastUnder members n record ∨
      (∀ member ∈ members, member.key ≠ Numeral.digitsOf n.toNat) ∧ table[n]? = some record := by
  induction each generalizing table with
  | nil => simp [ExtTreeMap.insertMany_nil, LastUnder]
  | @cons member pair members pairs under _ ih =>
      rw [ExtTreeMap.insertMany_cons, ih, ExtTreeMap.getElem?_insert, lastUnder_cons, or_assoc,
        List.forall_mem_cons]
      refine or_congr_right ?_
      by_cases same : pair.1 = n
      · rw [if_pos (by simp [same]), ← same, ← under.1, under.2]
        simp
      · have other : member.key ≠ Numeral.digitsOf n.toNat :=
          fun h => same (digits_inj (under.1.symm.trans h))
        rw [if_neg (by simpa using same)]
        simp [other]

theorem under_of_gives {member : Member} {pair : UInt32 × α} (closed : ClosedKey member.key)
    (gives : member.Gives pair) : member.Under pair :=
  ⟨(readWordKey_eq_ok_iff closed).1 gives.1, gives.2⟩

theorem size_insertMany {pairs : List (UInt32 × α)}
    (each : List.Forall₂ Member.Under members pairs) :
    ((∅ : ExtTreeMap UInt32 α).insertMany pairs).size = (members.map Member.key).toFinset.card := by
  generalize held : (∅ : ExtTreeMap UInt32 α).insertMany pairs = table
  have keys : members.map Member.key =
      (pairs.map Prod.fst).map fun n => Numeral.digitsOf n.toNat := by
    clear held
    induction each with
    | nil => rfl
    | cons under _ ih => rw [List.map_cons, List.map_cons, List.map_cons, under.1, ih]
  have once : (table.keys.map fun n => Numeral.digitsOf n.toNat).Nodup :=
    ExtTreeMap.nodup_keys.map fun _ _ => digits_inj
  have same : (members.map Member.key).toFinset =
      (table.keys.map fun n => Numeral.digitsOf n.toNat).toFinset := by
    ext key
    rw [keys, List.mem_toFinset, List.mem_toFinset, List.mem_map, List.mem_map]
    refine exists_congr fun n => and_congr_left fun _ => ?_
    rw [ExtTreeMap.mem_keys, ← held, ExtTreeMap.mem_insertMany_list]
    simp
  rw [same, List.toFinset_card_of_nodup once, List.length_map, ExtTreeMap.length_keys]

theorem indexes_of_readWhole {body : Bytes} (h : ObjectText members body)
    (read : readWhole (decodeTable UInt32 α) body = .ok table) : Indexes members table := by
  obtain ⟨pairs, gives, rfl⟩ := (readWhole_decodeTable_iff h).1 read
  have closed := fun member hm => (sound_of_objectText h member hm).1
  have each : List.Forall₂ Member.Under members pairs :=
    ((List.forall₂_and_left _ _).2 ⟨closed, gives⟩).imp fun _ _ h => under_of_gives h.1 h.2
  refine ⟨?_, fun n record => ?_, size_insertMany each⟩
  · have reads := each.imp fun member pair under =>
      (⟨⟨pair.1, pair.2, under⟩, under⟩ :
        (∃ (n : UInt32) (record : α), member.key = Numeral.digitsOf n.toNat ∧
          parse α member.value = .ok record) ∧ member.Under pair)
    exact ((List.forall₂_and_left _ _).1 reads).1
  · rw [getElem?_insertMany_iff each]
    simp

end Indexed

end FabricSurvey.Json

namespace FabricSurvey

open Json
open Std (ExtTreeMap)

theorem Json.readWhole_map_eq_ok_iff {α β : Type} {read : Draft → Except Error α} {f : α → β}
    {body : Bytes} {b : β} :
    readWhole (fun draft => (read draft).map f) body = .ok b ↔
      ∃ a, readWhole read body = .ok a ∧ f a = b := by
  simp only [readWhole_eq_ok_iff, map_eq_ok_iff]
  constructor
  · rintro ⟨⟨a, ha, same⟩, blank⟩
    exact ⟨a, ⟨ha, blank⟩, same⟩
  · rintro ⟨a, ⟨ha, blank⟩, same⟩
    exact ⟨⟨a, ha, same⟩, blank⟩

namespace Payload

/-- No interface and no bridge domain is lost, merged or misnumbered. A body that is accepted is the text of
an object whose keys are indices in their decimal digits; the table has for each of them the record of the
last member under it, and as many entries as there are different keys. With any other key a body is
refused. -/
theorem indexed_by_members (body : Bytes) :
    (∀ payload, decode .interfaces body = .ok payload → ∃ table, payload = .interfaces table ∧
      (∃ members, ObjectText members body) ∧
        ∀ members, ObjectText members body → Indexes members table) ∧
    (∀ payload, decode .bridgeDomains body = .ok payload → ∃ table, payload = .bridgeDomains table ∧
      (∃ members, ObjectText members body) ∧
        ∀ members, ObjectText members body → Indexes members table) ∧
    ∀ category, category = .interfaces ∨ category = .bridgeDomains →
      ∀ members, ObjectText members body →
        (∃ member ∈ members, ∀ n : UInt32, member.key ≠ Numeral.digitsOf n.toNat) →
          ∃ reason, Report.outcomeOfBody category body = .error (.decode reason) := by
  have interfaces (payload : Payload) (h : decode .interfaces body = .ok payload) :
      ∃ table, payload = .interfaces table ∧ (∃ members, ObjectText members body) ∧
        ∀ members, ObjectText members body → Indexes members table := by
    obtain ⟨table, read, rfl⟩ := readWhole_map_eq_ok_iff.1 h
    exact ⟨table, rfl, exists_members read, fun members object => indexes_of_readWhole object read⟩
  have bridgeDomains (payload : Payload) (h : decode .bridgeDomains body = .ok payload) :
      ∃ table, payload = .bridgeDomains table ∧ (∃ members, ObjectText members body) ∧
        ∀ members, ObjectText members body → Indexes members table := by
    obtain ⟨table, read, rfl⟩ := readWhole_map_eq_ok_iff.1 h
    exact ⟨table, rfl, exists_members read, fun members object => indexes_of_readWhole object read⟩
  refine ⟨interfaces, bridgeDomains, ?_⟩
  rintro category among members object ⟨member, hm, other⟩
  suffices refused : ∀ payload, decode category body ≠ .ok payload by
    obtain ⟨cause, -, failed⟩ := Report.outcomeOfBody_of_refused refused
    exact ⟨cause.message, failed⟩
  intro payload accepted
  rcases among with rfl | rfl
  · obtain ⟨table, -, -, indexed⟩ := interfaces payload accepted
    obtain ⟨n, -, key, -⟩ := (indexed members object).reads member hm
    exact other n key
  · obtain ⟨table, -, -, indexed⟩ := bridgeDomains payload accepted
    obtain ⟨n, -, key, -⟩ := (indexed members object).reads member hm
    exact other n key

/-- An interface under 3, one under 12, and another one under 3. -/
def repeated : List Member :=
  [⟨utf8 "3", utf8 "\x7b\"name\":\"first\"\x7d"⟩, ⟨utf8 "12", utf8 "\x7b\x7d"⟩,
    ⟨utf8 "3", utf8 " \x7b\"name\":\"second\"\x7d "⟩]

def repeatedText : Bytes :=
  utf8 "\x7b\"3\":\x7b\"name\":\"first\"\x7d,\"12\":\x7b\x7d,\"3\": \x7b\"name\":\"second\"\x7d \x7d"

theorem objectText_repeated : ObjectText repeated repeatedText := by
  have inside : Commas MemberText repeated _ :=
    .next (memberText_of rfl ⟨rfl, by decide⟩) (.next (memberText_of rfl ⟨rfl, by decide⟩)
      (.last (memberText_of rfl ⟨rfl, by decide⟩)))
  exact .some blanks_nil inside blanks_nil

/-- The second record under a key takes the place of the first one and of no other. A key that is greater
by 4294967296 does not stand for the same index, and is refused. -/
theorem indexed_by_members_repeated :
    (∃ table, decode .interfaces repeatedText = .ok (.interfaces table) ∧ table.size = 2 ∧
      (table[(3 : UInt32)]?).map Interface.name = some "second") ∧
    ∃ reason, Report.outcomeOfBody .bridgeDomains (utf8 "\x7b\"4294967299\":\x7b\x7d\x7d") =
      .error (.decode reason) := by
  obtain ⟨accepted, -, -⟩ := indexed_by_members repeatedText
  obtain ⟨-, -, refused⟩ := indexed_by_members (utf8 "\x7b\"4294967299\":\x7b\x7d\x7d")
  constructor
  · have read : (decode .interfaces repeatedText).toOption.isSome := by decide +kernel
    cases found : decode .interfaces repeatedText with
    | error cause =>
        rw [found] at read
        cases read
    | ok payload =>
        obtain ⟨table, rfl, -, indexed⟩ := accepted payload found
        have indexes := indexed repeated objectText_repeated
        have record : table[(3 : UInt32)]? =
            some ⟨0, "", "second", 0, false, "", 0, none, [], none⟩ :=
          (indexes.last 3 _).2 ⟨repeated.take 2, repeated[2], [], rfl, rfl, nofun, rfl⟩
        exact ⟨table, rfl, indexes.size.trans (by decide), by rw [record]; rfl⟩
  · have object : ObjectText [⟨utf8 "4294967299", utf8 "\x7b\x7d"⟩] _ :=
      objectText_of rfl ⟨rfl, by decide⟩
    refine refused .bridgeDomains (.inr rfl) _ object ⟨_, List.mem_singleton_self _, fun n same => ?_⟩
    have digits : utf8 "4294967299" = Numeral.digitsOf 4294967299 := by decide
    have value := Numeral.digitsOf_injective (digits.symm.trans same)
    have small := n.toNat_lt
    omega

end Payload

end FabricSurvey
