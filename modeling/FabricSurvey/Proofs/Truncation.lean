import FabricSurvey.Collection.Payload
import FabricSurvey.Proofs.Grammar.Extent

/-!
# Bodies that are cut off or go on

What a body is decoded from can be stepped over, and it is an array or an object. Its last bracket
therefore delimits it: no part of an accepted body that lacks this bracket is accepted, and none that
goes on with anything but blanks.
-/

namespace FabricSurvey

namespace Json

theorem faultless_eq_ok_iff {α : Type} {x : Except Fault α} {value : α} :
    faultless x = .ok value ↔ x = .ok value := by
  cases x <;> simp [faultless]

theorem mismatch_ne_ok {α : Type} {draft : Draft} {expected : Expected} {value : α} :
    mismatch draft expected ≠ .ok value := by
  intro h
  obtain ⟨_, -, h⟩ := bind_eq_ok_iff.1 h
  cases h

namespace Draft

variable {draft : Draft} {ending : ObjectEnd}

theorem skipEnd_of_checkEnd (h : checkEnd ending = .ok ()) : skipEnd ending = .ok () := by
  cases ending with
  | closed => rfl
  | cut fault => cases h
  | openKey text => cases h

end Draft

theorem skip_of_integerIn {low high value : Int} {expected : Expected} {draft : Draft}
    (h : integerIn low high expected draft = .ok value) : draft.skip = .ok () := by
  cases draft with
  | number numeral => rfl
  | _ => exact absurd h mismatch_ne_ok

theorem skipItems_of_mapM {α : Type} {read : Draft → Except Error α}
    (item_skips : ∀ draft value, read draft = .ok value → draft.skip = .ok ()) {items : List Draft}
    {values : List α} (h : items.mapM read = .ok values) : Draft.skipItems items = .ok () := by
  induction items generalizing values with
  | nil => rfl
  | cons item items ih =>
      rw [List.mapM_cons] at h
      obtain ⟨value, hv, h⟩ := bind_eq_ok_iff.1 h
      obtain ⟨others, ho, -⟩ := bind_eq_ok_iff.1 h
      rw [Draft.skipItems, item_skips item value hv]
      exact ih ho

theorem skipEntries_of_foldlM {σ : Type} {read : σ → Bytes × Draft → Except Error σ}
    (entry_skips : ∀ state entry next, read state entry = .ok next → entry.2.skip = .ok ())
    {entries : List (Bytes × Draft)} {state final : σ}
    (h : entries.foldlM read state = .ok final) : Draft.skipEntries entries = .ok () := by
  induction entries generalizing state with
  | nil => rfl
  | cons entry entries ih =>
      rw [List.foldlM_cons] at h
      obtain ⟨next, hn, h⟩ := bind_eq_ok_iff.1 h
      rw [Draft.skipEntries, entry_skips state entry next hn]
      exact ih h

theorem skip_array {items : List Draft} {ending : Option Fault}
    (items_skip : Draft.skipItems items = .ok ()) (closed : Draft.checkBracket ending = .ok ()) :
    (Draft.array items ending).skip = .ok () := by
  rw [Draft.skip, items_skip]
  exact closed

theorem skip_object {entries : List (Bytes × Draft)} {ending : ObjectEnd}
    (entries_skip : Draft.skipEntries entries = .ok ()) (closed : Draft.skipEnd ending = .ok ()) :
    (Draft.object entries ending).skip = .ok () := by
  rw [Draft.skip, entries_skip]
  exact closed

mutual

/-- Whatever is decoded could also have been stepped over. -/
theorem Shape.skip_of_decode : (shape : Shape) → ∀ (draft : Draft) (value : shape.Data),
    shape.decode draft = .ok value → draft.skip = .ok ()
  | .word => fun draft value h => by
      rw [Shape.decode] at h
      obtain ⟨_, hi, -⟩ := bind_eq_ok_iff.1 h
      exact skip_of_integerIn hi
  | .count => fun draft value h => by
      rw [Shape.decode] at h
      obtain ⟨_, hi, -⟩ := bind_eq_ok_iff.1 h
      exact skip_of_integerIn hi
  | .text => fun draft value h => by
      rw [Shape.decode] at h
      cases draft with
      | string content => rfl
      | _ => exact absurd h mismatch_ne_ok
  | .flag => fun draft value h => by
      rw [Shape.decode] at h
      cases draft with
      | flag value => rfl
      | _ => exact absurd h mismatch_ne_ok
  | .list item => fun draft value h => by
      cases draft with
      | array items ending =>
          rw [Shape.decode] at h
          obtain ⟨_, hv, h⟩ := bind_eq_ok_iff.1 h
          obtain ⟨_, closed, -⟩ := bind_eq_ok_iff.1 h
          exact skip_array (skipItems_of_mapM item.skip_of_decode hv) (faultless_eq_ok_iff.1 closed)
      | _ => exact absurd h mismatch_ne_ok
  | .option item => fun draft value h => by
      cases draft with
      | null => rfl
      | _ =>
          rw [Shape.decode] at h
          · obtain ⟨_, hi, -⟩ := bind_eq_ok_iff.1 h
            exact item.skip_of_decode _ _ hi
          · intro same
            cases same
  | .record name fields => fun draft value h => by
      cases draft with
      | array items ending =>
          rw [Shape.decode] at h
          obtain ⟨items_skip, closed⟩ := fields.skip_of_ofItems _ _ _ _ _ _ h
          exact skip_array items_skip closed
      | object entries ending =>
          rw [Shape.decode] at h
          obtain ⟨_, hs, h⟩ := bind_eq_ok_iff.1 h
          obtain ⟨_, closed, -⟩ := bind_eq_ok_iff.1 h
          refine skip_object (skipEntries_of_foldlM (fun slots entry next hn => ?_) hs)
            (Draft.skipEnd_of_checkEnd (faultless_eq_ok_iff.1 closed))
          obtain ⟨_, -, hn⟩ := bind_eq_ok_iff.1 hn
          exact fields.skip_of_put _ _ _ _ hn
      | _ => exact absurd h mismatch_ne_ok

theorem Fields.skip_of_put : (fields : Fields) → ∀ (slots next : fields.Slots) (key : String)
    (draft : Draft), fields.put slots key draft = .ok next → draft.skip = .ok ()
  | .nil => fun _ _ _ _ h => faultless_eq_ok_iff.1 h
  | .cons _ _ shape rest => fun slots next key draft h => by
      rw [Fields.put] at h
      split_ifs at h
      · obtain ⟨_, hd, -⟩ := bind_eq_ok_iff.1 h
        exact shape.skip_of_decode draft _ hd
      · obtain ⟨_, hr, -⟩ := bind_eq_ok_iff.1 h
        exact rest.skip_of_put _ _ key draft hr

theorem Fields.skip_of_ofItems : (fields : Fields) → ∀ (record : String) (total index : Nat)
    (items : List Draft) (ending : Option Fault) (values : fields.Data),
    fields.ofItems record total index items ending = .ok values →
      Draft.skipItems items = .ok () ∧ Draft.checkBracket ending = .ok ()
  | .nil => fun _ _ _ items _ _ h => by
      cases items with
      | nil => exact ⟨rfl, faultless_eq_ok_iff.1 h⟩
      | cons item items => cases h
  | .cons _ _ shape rest => fun record total index items ending values h => by
      cases items with
      | nil =>
          obtain ⟨_, closed, -⟩ := bind_eq_ok_iff.1 h
          exact ⟨rfl, faultless_eq_ok_iff.1 closed⟩
      | cons item items =>
          obtain ⟨_, hd, h⟩ := bind_eq_ok_iff.1 h
          obtain ⟨_, hr, -⟩ := bind_eq_ok_iff.1 h
          obtain ⟨items_skip, closed⟩ := rest.skip_of_ofItems _ _ _ _ _ _ hr
          refine ⟨?_, closed⟩
          rw [Draft.skipItems, shape.skip_of_decode _ _ hd]
          exact items_skip

end

/-- The draft of an array or an object that can be stepped over. -/
structure Draft.Delimited (draft : Draft) : Prop where
  compound : ∃ closing, draft.closing? = some closing
  skips : draft.skip = .ok ()

theorem Shape.delimited_of_record {name : String} {fields : Fields} {draft : Draft}
    {value : (Shape.record name fields).Data}
    (h : (Shape.record name fields).decode draft = .ok value) : draft.Delimited where
  compound := by
    cases draft with
    | array items ending => exact ⟨_, rfl⟩
    | object entries ending => exact ⟨_, rfl⟩
    | _ => exact absurd h mismatch_ne_ok
  skips := Shape.skip_of_decode _ draft value h

theorem Shape.delimited_of_list {item : Shape} {draft : Draft} {values : (Shape.list item).Data}
    (h : (Shape.list item).decode draft = .ok values) : draft.Delimited where
  compound := by
    cases draft with
    | array items ending => exact ⟨_, rfl⟩
    | _ => exact absurd h mismatch_ne_ok
  skips := Shape.skip_of_decode _ draft values h

theorem skip_of_decode {α : Type} [Shaped α] {draft : Draft} {value : α}
    (h : decode α draft = .ok value) : draft.skip = .ok () := by
  obtain ⟨_, hd, -⟩ := map_eq_ok_iff.1 h
  exact Shape.skip_of_decode _ draft _ hd

theorem delimited_of_decodeTable {κ α : Type} [Ord κ] [Std.TransOrd κ] [TableKey κ] [Shaped α]
    {draft : Draft} {table : Std.ExtTreeMap κ α} (h : decodeTable κ α draft = .ok table) :
    draft.Delimited := by
  cases draft with
  | object entries ending =>
      rw [decodeTable] at h
      obtain ⟨_, ht, h⟩ := bind_eq_ok_iff.1 h
      obtain ⟨_, closed, -⟩ := bind_eq_ok_iff.1 h
      refine ⟨⟨_, rfl⟩, skip_object (skipEntries_of_foldlM (fun table entry next hn => ?_) ht) ?_⟩
      · obtain ⟨_, -, hn⟩ := bind_eq_ok_iff.1 hn
        obtain ⟨_, hd, -⟩ := bind_eq_ok_iff.1 hn
        exact skip_of_decode hd
      · cases ending with
        | closed => rfl
        | _ => cases closed
  | _ => exact absurd h mismatch_ne_ok

theorem blanks_append {front rest : Bytes} : Blanks (front ++ rest) ↔ Blanks front ∧ Blanks rest :=
  List.forall_mem_append

theorem readWhole_eq_ok_iff {α : Type} {decode : Draft → Except Error α} {text : Bytes} {value : α} :
    readWhole decode text = .ok value ↔
      decode (Draft.read text).1 = .ok value ∧ Blanks (Draft.read text).2 := by
  have ended (rest : Bytes) : endWhole rest = .ok () ↔ Blanks rest := by
    rw [← skipBlanks_eq_nil_iff, endWhole]
    split <;> simp_all
  unfold readWhole
  rw [bind_eq_ok_iff, ← ended]
  constructor
  · intro h
    obtain ⟨read, hr, h⟩ := h
    obtain ⟨_, end_of_text, same⟩ := bind_eq_ok_iff.1 h
    cases same
    exact ⟨hr, end_of_text⟩
  · intro h
    exact ⟨value, h.1, bind_eq_ok_iff.2 ⟨(), h.2, rfl⟩⟩

end Json

open Json

theorem ArpTable.delimited_of_decode {draft : Draft} {table : ArpTable}
    (h : ArpTable.decode draft = .ok table) : draft.Delimited := by
  obtain ⟨_, -, h⟩ := bind_eq_ok_iff.1 h
  split at h
  · rename_i listed
    obtain ⟨_, hd, -⟩ := map_eq_ok_iff.1 listed
    exact Shape.delimited_of_list hd
  · rename_i keyed
    exact delimited_of_decodeTable keyed
  · cases h

namespace Payload

variable {category : Category} {body : Bytes} {payload : Payload}

theorem delimited_of_ofDraft {draft : Draft} (h : ofDraft category draft = .ok payload) :
    draft.Delimited := by
  cases category with
  | liveness =>
      obtain ⟨_, hd, -⟩ := map_eq_ok_iff.1 h
      obtain ⟨_, hd, -⟩ := map_eq_ok_iff.1 hd
      exact Shape.delimited_of_record hd
  | interfaces | bridgeDomains | l2Entries | telemetry =>
      obtain ⟨_, hd, -⟩ := map_eq_ok_iff.1 h
      exact delimited_of_decodeTable hd
  | arp =>
      obtain ⟨_, hd, -⟩ := map_eq_ok_iff.1 h
      exact ArpTable.delimited_of_decode hd

/-- An accepted body is a front that ends in a bracket and blanks behind it. Whatever takes the place
of the blanks, the front is read as the same data. -/
theorem exists_front (h : decode category body = .ok payload) :
    ∃ inner closing gap, body = inner ++ closing :: gap ∧
      (closing = Byte.closeBracket ∨ closing = Byte.closeBrace) ∧ Blanks gap ∧
      ∀ more other, decode category (inner ++ closing :: more) = .ok other ↔
        Blanks more ∧ other = payload := by
  obtain ⟨hd, blank⟩ := readWhole_eq_ok_iff.1 h
  have delimited := delimited_of_ofDraft hd
  generalize read : Draft.read body = found at hd blank delimited
  obtain ⟨front, split, enclosed, again⟩ := Draft.read_append read delimited.skips
  obtain ⟨closing, closes⟩ := delimited.compound
  obtain ⟨inner, rfl⟩ := enclosed closing closes
  rw [List.append_assoc, List.singleton_append] at split
  refine ⟨inner, closing, _, split, Draft.bracket_of_closing? closes, blank, fun more other => ?_⟩
  have reread := again more (Draft.admits_of_closing? closes more)
  rw [List.append_assoc, List.singleton_append] at reread
  unfold decode
  rw [readWhole_eq_ok_iff, reread, hd, Except.ok.injEq, and_comm, eq_comm]

theorem decode_append_iff (h : decode category body = .ok payload) (more : Bytes) (other : Payload) :
    decode category (body ++ more) = .ok other ↔ Blanks more ∧ other = payload := by
  obtain ⟨inner, closing, gap, rfl, -, blank, again⟩ := exists_front h
  rw [List.append_assoc, List.cons_append, again, blanks_append, and_iff_right blank]

/-- Behind an accepted body nothing but blanks is accepted, and these make no difference. Without its
last bracket no part of it from its beginning is accepted. -/
theorem decode_self_delimiting (h : decode category body = .ok payload) :
    (∀ more other, decode category (body ++ more) = .ok other ↔ Blanks more ∧ other = payload) ∧
      ∃ front closing gap, body = front ++ closing :: gap ∧
        (closing = Byte.closeBracket ∨ closing = Byte.closeBrace) ∧ Blanks gap ∧
        ∀ cut rest, rest ≠ [] → cut ++ rest = front ++ [closing] →
          ∀ other, decode category cut ≠ .ok other := by
  refine ⟨decode_append_iff h, ?_⟩
  obtain ⟨front, closing, gap, split, bracket, blank, -⟩ := exists_front h
  refine ⟨front, closing, gap, split, bracket, blank, fun cut rest lacks cuts other accepted => ?_⟩
  have whole : decode category (cut ++ (rest ++ gap)) = .ok payload := by
    rw [← List.append_assoc, cuts, List.append_assoc, List.singleton_append, ← split, h]
  have blanks := (blanks_append.1 ((decode_append_iff accepted _ _).1 whole).1).1
  -- The bracket is the last byte of what the cut lacks, and that would have to be blank.
  rw [← List.dropLast_concat_getLast lacks, ← List.append_assoc] at cuts
  have last : rest.getLast lacks = closing :=
    List.singleton_inj.1 (List.append_inj_right' cuts rfl)
  have visible : Byte.isBlank closing = false := by
    rcases bracket with rfl | rfl <;> rfl
  rw [← last, blanks _ (List.getLast_mem lacks)] at visible
  cases visible

/-- A number, the list around it and what follows may be cut anywhere. -/
theorem decode_self_delimiting_numbered :
    (∀ more other, decode .arp (utf8 "[\x7b\"interface\":12\x7d]" ++ more) = .ok other ↔
        Blanks more ∧ other = .arp (.list [⟨12, "", "", false⟩])) ∧
      ∀ other, decode .arp (utf8 "[\x7b\"interface\":1") ≠ .ok other := by
  have accepted : decode .arp (utf8 "[\x7b\"interface\":12\x7d]") =
      .ok (.arp (.list [⟨12, "", "", false⟩])) := rfl
  refine ⟨(decode_self_delimiting accepted).1, fun other accepted_cut => ?_⟩
  obtain ⟨goes_on, -⟩ := decode_self_delimiting accepted_cut
  have blank : Blanks (utf8 "2\x7d]") := ((goes_on (utf8 "2\x7d]") _).1 accepted).1
  exact absurd (blank 0x32 (by decide)) (by decide)

end Payload

end FabricSurvey
