import FabricSurvey.Json.Draft.Steps
import FabricSurvey.Proofs.Grammar
import Mathlib.Data.List.TakeWhile

/-!
# How much of a text is read

A value that can be stepped over takes some bytes of a text and leaves the others. The same bytes are
taken for the same value whatever follows them, as long as nothing there would prolong a numeral. An
array or object ends with its bracket, so nothing that follows can prolong it.
-/

namespace FabricSurvey.Json

theorem exists_of_skipBlanks {text tail : Bytes} {b : UInt8} (h : skipBlanks text = b :: tail) :
    ∃ gap, text = gap ++ b :: tail ∧ Blanks gap ∧ Byte.isBlank b = false := by
  refine ⟨text.takeWhile Byte.isBlank, ?_, fun d hd => List.mem_takeWhile_imp hd, ?_⟩
  · rw [← h]
    exact List.takeWhile_append_dropWhile.symm
  · have stop := List.head?_dropWhile_not Byte.isBlank text
    rw [show text.dropWhile Byte.isBlank = b :: tail from h] at stop
    simpa using stop

theorem skipBlanks_eq_nil_iff {text : Bytes} : skipBlanks text = [] ↔ Blanks text :=
  List.dropWhile_eq_nil_iff

/-- What comes first in front of a closing byte comes first whatever takes the place of that byte. -/
theorem skipBlanks_front {used rest tail : Bytes} {b closing : UInt8}
    (h : skipBlanks (used ++ closing :: rest) = b :: tail) (visible : Byte.isBlank closing = false)
    (other : b ≠ closing) (more : Bytes) : ∃ tail, skipBlanks (used ++ more) = b :: tail := by
  cases first : skipBlanks used with
  | nil =>
      rw [Draft.skipBlanks_gap (skipBlanks_eq_nil_iff.1 first) visible] at h
      exact absurd (List.cons.inj h).1.symm other
  | cons d inner =>
      obtain ⟨gap, rfl, blank, seen⟩ := exists_of_skipBlanks first
      rw [List.append_assoc, List.cons_append, Draft.skipBlanks_gap blank seen] at h ⊢
      exact ⟨_, congrArg (· :: _) (List.cons.inj h).1⟩

namespace Quoted

theorem push_eq_ok_iff {b : UInt8} {r : Except Fault (Bytes × Bytes)} {content rest : Bytes} :
    push b r = .ok (content, rest) ↔ ∃ inner, r = .ok (inner, rest) ∧ content = b :: inner := by
  rw [push, map_eq_ok_iff]
  constructor
  · intro h
    obtain ⟨p, hr, same⟩ := h
    cases same
    exact ⟨p.1, hr, rfl⟩
  · intro h
    obtain ⟨inner, hr, rfl⟩ := h
    exact ⟨_, hr, rfl⟩

theorem foldr_push_eq_ok_iff (bytes : Bytes) {content rest : Bytes}
    {r : Except Fault (Bytes × Bytes)} :
    bytes.foldr push r = .ok (content, rest) ↔
      ∃ inner, r = .ok (inner, rest) ∧ content = bytes ++ inner := by
  induction bytes generalizing content with
  | nil => simp
  | cons b bytes ih =>
      rw [List.foldr_cons, push_eq_ok_iff]
      constructor
      · intro h
        obtain ⟨outer, ho, rfl⟩ := h
        obtain ⟨inner, hr, rfl⟩ := ih.1 ho
        exact ⟨inner, hr, rfl⟩
      · intro h
        obtain ⟨inner, hr, rfl⟩ := h
        exact ⟨bytes ++ inner, ih.2 ⟨inner, hr, rfl⟩, rfl⟩

/-- A string takes its content and the quote after it, and nothing else matters for it. -/
theorem scan_extent {text content rest : Bytes} (h : scan text = .ok (content, rest)) :
    text = content ++ Byte.quote :: rest ∧
      ∀ more, scan (content ++ Byte.quote :: more) = .ok (content, more) := by
  fun_induction scan text generalizing content rest with
  | case2 text =>
      cases h
      exact ⟨rfl, fun more => rfl⟩
  | case3 a b c d text digits ih =>
      obtain ⟨inner, hr, rfl⟩ :=
        (foldr_push_eq_ok_iff [Byte.backslash, Byte.letterU, a, b, c, d]).1 h
      obtain ⟨rfl, reread⟩ := ih hr
      refine ⟨by simp, fun more => ?_⟩
      rw [List.append_assoc, scan_unit digits, reread, foldr_push]
  | case6 e text _ _ short ih =>
      obtain ⟨inner, hr, rfl⟩ := (foldr_push_eq_ok_iff [Byte.backslash, e]).1 h
      obtain ⟨rfl, reread⟩ := ih hr
      refine ⟨by simp, fun more => ?_⟩
      rw [List.append_assoc, scan_letter short, reread, foldr_push]
  | case10 b text unquoted _ _ letter alone visible ih =>
      have ordinary : Ordinary b := by
        refine ⟨unquoted, fun same => ?_, Bool.eq_false_iff.2 visible⟩
        cases text with
        | nil => exact alone same rfl
        | cons e text => exact letter e text same rfl
      obtain ⟨inner, hr, rfl⟩ := push_eq_ok_iff.1 h
      obtain ⟨rfl, reread⟩ := ih hr
      refine ⟨rfl, fun more => ?_⟩
      rw [List.cons_append, scan_ordinary ordinary, reread]
      rfl
  | case1 | case4 | case5 | case7 | case8 | case9 => cases h

end Quoted

namespace Numeral

theorem scanDigits_extent {text run rest : Bytes} (h : scanDigits text = .ok (run, rest)) :
    text = run ++ rest ∧ Digits run := by
  unfold scanDigits at h
  split at h
  · cases h
  · rename_i some_digit
    cases h
    exact ⟨List.takeWhile_append_dropWhile.symm, some_digit, fun d hd => List.mem_takeWhile_imp hd⟩

theorem scanWhole_extent {text run rest : Bytes} (h : scanWhole text = .ok (run, rest)) :
    text = run ++ rest ∧ Digits run ∧ (run.head? = some Byte.zero → run = [Byte.zero]) := by
  have zero : Digits [Byte.zero] := ⟨List.cons_ne_nil _ _, List.forall_mem_singleton.2 rfl⟩
  unfold scanWhole at h
  split at h
  · cases h
  · split at h
    · split at h
      · cases h
      · cases h
        exact ⟨rfl, zero, fun _ => rfl⟩
    · cases h
      exact ⟨rfl, zero, fun _ => rfl⟩
  · rename_i d text nonzero
    split at h
    · rename_i digit
      cases h
      refine ⟨?_, ⟨List.cons_ne_nil _ _, fun e he => ?_⟩, fun first => ?_⟩
      · rw [List.cons_append, List.takeWhile_append_dropWhile]
      · rcases List.mem_cons.1 he with rfl | later
        · exact digit
        · exact List.mem_takeWhile_imp later
      · exact absurd (Option.some.inj first) nonzero
    · cases h

theorem scanFraction_extent {text fraction rest : Bytes}
    (h : scanFraction text = .ok (fraction, rest)) :
    ∃ written, text = written ++ rest ∧ SpellsFraction fraction written := by
  unfold scanFraction at h
  split at h
  · obtain ⟨rfl, digits⟩ := scanDigits_extent h
    exact ⟨Byte.point :: fraction, rfl, .present digits⟩
  · cases h
    exact ⟨[], rfl, .absent⟩

theorem scanSign_extent (text : Bytes) :
    ∃ sign, text = sign ++ (scanSign text).2 ∧ SpellsSign (scanSign text).1 sign := by
  unfold scanSign
  split
  · exact ⟨_, rfl, .minus⟩
  · exact ⟨_, rfl, .plus⟩
  · exact ⟨[], rfl, .unsigned⟩

theorem scanExponent_extent {text rest : Bytes} {exponent : Option Exponent}
    (h : scanExponent text = .ok (exponent, rest)) :
    ∃ power, text = power ++ rest ∧ SpellsExponent exponent power := by
  unfold scanExponent at h
  split at h
  · cases h
    exact ⟨[], rfl, .absent⟩
  · rename_i c text
    split at h
    · rename_i mark
      obtain ⟨p, scanned, same⟩ := bind_eq_ok_iff.1 h
      cases same
      obtain ⟨sign, split, signed⟩ := scanSign_extent text
      obtain ⟨after, digits⟩ := scanDigits_extent scanned
      refine ⟨c :: (sign ++ p.1), ?_, .present (by simpa using mark) signed digits⟩
      rw [List.cons_append, List.append_assoc, ← after]
      exact congrArg (c :: ·) split
    · cases h
      exact ⟨[], rfl, .absent⟩

/-- A numeral that has been read is spelled by what was taken. -/
theorem scan_extent {text rest : Bytes} {numeral : Numeral} (h : scan text = .ok (numeral, rest)) :
    ∃ used, text = used ++ rest ∧ numeral.Spells used := by
  obtain ⟨negative, unsigned, split, h⟩ : ∃ negative unsigned,
      text = (if negative then [Byte.minus] else []) ++ unsigned ∧
      (do let whole ← scanWhole unsigned
          let fraction ← scanFraction whole.2
          let exponent ← scanExponent fraction.2
          .ok ((⟨negative, whole.1, fraction.1, exponent.1⟩ : Numeral), exponent.2)) =
        (.ok (numeral, rest) : Except Fault _) := by
    unfold scan at h
    split at h
    rename_i negative unsigned sign
    split at sign
    · cases sign
      exact ⟨true, _, rfl, h⟩
    · cases sign
      exact ⟨false, _, rfl, h⟩
  obtain ⟨⟨whole, afterWhole⟩, hw, h⟩ := bind_eq_ok_iff.1 h
  obtain ⟨⟨fraction, afterFraction⟩, hf, h⟩ := bind_eq_ok_iff.1 h
  obtain ⟨⟨exponent, afterExponent⟩, he, same⟩ := bind_eq_ok_iff.1 h
  cases same
  obtain ⟨rfl, digits, canonical⟩ := scanWhole_extent hw
  obtain ⟨written, rfl, fractional⟩ := scanFraction_extent hf
  obtain ⟨power, rfl, scaled⟩ := scanExponent_extent he
  refine ⟨_, ?_, .intro digits canonical fractional scaled⟩
  rw [split]
  simp only [List.append_assoc]

end Numeral

namespace Draft

variable {text rest used : Bytes} {draft : Draft} {steps : Nat} {b : UInt8}

theorem expect_extent {word : Bytes} (h : expect word text = .ok rest) : text = word ++ rest := by
  fun_induction expect word text with
  | case1 text => cases h; rfl
  | case2 => cases h
  | case3 w word text ih => rw [List.cons_append, ih h]
  | case4 => cases h

theorem expect_append (word more : Bytes) : expect word (word ++ more) = .ok more := by
  induction word with
  | nil => rfl
  | cons w word ih => rw [List.cons_append, expect, if_pos rfl, ih]

theorem readWord_extent {word : Bytes} {value : Draft} (h : readWord word value text = (draft, rest))
    (skips : draft.skip = .ok ()) : draft = value ∧ text = word ++ rest := by
  unfold readWord at h
  split at h
  · rename_i expected
    cases h
    exact ⟨rfl, expect_extent expected⟩
  · cases h
    cases skips

theorem readString_extent (h : readString text = (draft, rest)) (skips : draft.skip = .ok ()) :
    ∃ content, draft = .string content ∧ text = content ++ Byte.quote :: rest ∧
      ∀ more, readString (content ++ Byte.quote :: more) = (draft, more) := by
  unfold readString at h
  split at h
  · rename_i content rest scanned
    cases h
    obtain ⟨split, reread⟩ := Quoted.scan_extent scanned
    exact ⟨content, rfl, split, fun more => by rw [readString, reread]⟩
  · cases h
    cases skips

theorem readNumber_extent (h : readNumber text = (draft, rest)) (skips : draft.skip = .ok ()) :
    ∃ numeral used, draft = .number numeral ∧ text = used ++ rest ∧ numeral.Spells used := by
  unfold readNumber at h
  split at h
  · rename_i numeral rest scanned
    cases h
    obtain ⟨used, split, spelled⟩ := Numeral.scan_extent scanned
    exact ⟨numeral, used, rfl, split, spelled⟩
  · cases h
    cases skips

/-- What comes behind a number has to end it. -/
def Admits : Draft → Bytes → Prop
  | .number _, rest => Numeral.Ends rest
  | _, _ => True

theorem admits_of_ends (h : Numeral.Ends rest) : draft.Admits rest := by
  cases draft <;> first | exact h | trivial

/-- The bracket that an array or an object ends with. -/
def closing? : Draft → Option UInt8
  | .array _ _ => some Byte.closeBracket
  | .object _ _ => some Byte.closeBrace
  | _ => none

theorem admits_of_closing? {closing : UInt8} (h : draft.closing? = some closing) (rest : Bytes) :
    draft.Admits rest := by
  cases draft with
  | number numeral => cases h
  | _ => trivial

theorem bracket_of_closing? {closing : UInt8} (h : draft.closing? = some closing) :
    closing = Byte.closeBracket ∨ closing = Byte.closeBrace := by
  cases draft with
  | array items ending => exact .inl (Option.some.inj h).symm
  | object entries ending => exact .inr (Option.some.inj h).symm
  | _ => cases h

def Enclosed (draft : Draft) (used : Bytes) : Prop :=
  ∀ closing, draft.closing? = some closing → ∃ inner, used = inner ++ [closing]

theorem enclosed_of_closing?_eq_none (h : draft.closing? = none) (used : Bytes) :
    draft.Enclosed used := by
  intro closing closes
  rw [h] at closes
  cases closes

theorem enclosed_of_closing? {closing : UInt8} (h : draft.closing? = some closing)
    (inner : Bytes) : draft.Enclosed (inner ++ [closing]) := by
  intro other closes
  rw [h, Option.some.injEq] at closes
  exact ⟨inner, by rw [closes]⟩

theorem Enclosed.append (h : draft.Enclosed used) (front : Bytes) :
    draft.Enclosed (front ++ used) := by
  intro closing closes
  obtain ⟨inner, rfl⟩ := h closing closes
  exact ⟨front ++ inner, (List.append_assoc ..).symm⟩

/-- With enough steps a value that starts with `b` takes these bytes after it, and no more. -/
structure Takes (steps : Nat) (b : UInt8) (draft : Draft) (used : Bytes) : Prop where
  enclosed : draft.Enclosed used
  reread : ∀ count more, steps ≤ count → draft.Admits more →
    readValue count b (used ++ more) = (draft, more)

theorem takes_of_succ (enclosed : draft.Enclosed used)
    (reread : ∀ count more, steps ≤ count → draft.Admits more →
      readValue (count + 1) b (used ++ more) = (draft, more)) : Takes (steps + 1) b draft used where
  enclosed := enclosed
  reread count more enough admits := by
    cases count with
    | zero => omega
    | succ count => exact reread count more (by omega) admits

/-- The values that are read in some steps take what they would take anywhere. -/
def ValueExtent (steps : Nat) : Prop := ∀ b text draft rest,
  readValue steps b text = (draft, rest) → draft.skip = .ok () →
    ∃ used, text = used ++ rest ∧ Takes steps b draft used

def ItemsExtent (steps : Nat) : Prop := ∀ text items ending rest,
  readItems steps text = ((items, ending), rest) → skipItems items = .ok () →
    checkBracket ending = .ok () →
    ∃ used, text = used ++ Byte.closeBracket :: rest ∧ ∀ count more, steps ≤ count →
      readItems count (used ++ Byte.closeBracket :: more) = ((items, ending), more)

def EntriesExtent (steps : Nat) : Prop := ∀ text entries ending rest,
  readEntries steps text = ((entries, ending), rest) → skipEntries entries = .ok () →
    skipEnd ending = .ok () →
    ∃ used, text = used ++ Byte.closeBrace :: rest ∧ ∀ count more, steps ≤ count →
      readEntries count (used ++ Byte.closeBrace :: more) = ((entries, ending), more)

theorem word_extent {word : Bytes} {value : Draft}
    (unfolds : ∀ count text, readValue (count + 1) b text = readWord word value text)
    (h : readWord word value text = (draft, rest)) (skips : draft.skip = .ok ())
    (open_ended : value.closing? = none) :
    ∃ used, text = used ++ rest ∧ Takes (steps + 1) b draft used := by
  obtain ⟨rfl, split⟩ := readWord_extent h skips
  refine ⟨word, split, takes_of_succ (enclosed_of_closing?_eq_none open_ended word) fun count more _ _ => ?_⟩
  rw [unfolds, readWord, expect_append]

theorem array_extent (inner : ItemsExtent steps)
    (h : readValue (steps + 1) Byte.openBracket text = (draft, rest)) (skips : draft.skip = .ok ()) :
    ∃ used, text = used ++ rest ∧ Takes (steps + 1) Byte.openBracket draft used := by
  cases started : skipBlanks text with
  | nil =>
      rw [readValue.eq_def] at h
      simp only [started] at h
      cases h
      cases skips
  | cons first tail =>
      by_cases closed : first = Byte.closeBracket
      · subst closed
        obtain ⟨gap, rfl, blank, -⟩ := exists_of_skipBlanks started
        rw [readValue_noItems blank] at h
        cases h
        refine ⟨gap ++ [Byte.closeBracket], by simp,
          takes_of_succ (enclosed_of_closing? rfl gap) fun count more _ _ => ?_⟩
        rw [List.append_assoc]
        exact readValue_noItems blank count more
      · rw [readValue_items started closed] at h
        cases h
        obtain ⟨_, items_skip, ended⟩ := bind_eq_ok_iff.1 skips
        obtain ⟨used, split, reread⟩ := inner text _ _ _ rfl items_skip ended
        refine ⟨used ++ [Byte.closeBracket], by simpa using split,
          takes_of_succ (enclosed_of_closing? rfl used) fun count more enough _ => ?_⟩
        rw [split] at started
        obtain ⟨tail, again⟩ :=
          skipBlanks_front started (by decide) closed (Byte.closeBracket :: more)
        rw [List.append_assoc, List.singleton_append, readValue_items again closed,
          reread count more enough]

theorem object_extent (inner : EntriesExtent steps)
    (h : readValue (steps + 1) Byte.openBrace text = (draft, rest)) (skips : draft.skip = .ok ()) :
    ∃ used, text = used ++ rest ∧ Takes (steps + 1) Byte.openBrace draft used := by
  cases started : skipBlanks text with
  | nil =>
      rw [readValue.eq_def] at h
      simp only [started] at h
      cases h
      cases skips
  | cons first tail =>
      by_cases closed : first = Byte.closeBrace
      · subst closed
        obtain ⟨gap, rfl, blank, -⟩ := exists_of_skipBlanks started
        rw [readValue_noEntries blank] at h
        cases h
        refine ⟨gap ++ [Byte.closeBrace], by simp,
          takes_of_succ (enclosed_of_closing? rfl gap) fun count more _ _ => ?_⟩
        rw [List.append_assoc]
        exact readValue_noEntries blank count more
      · rw [readValue_entries started closed] at h
        cases h
        obtain ⟨_, entries_skip, ended⟩ := bind_eq_ok_iff.1 skips
        obtain ⟨used, split, reread⟩ := inner text _ _ _ rfl entries_skip ended
        refine ⟨used ++ [Byte.closeBrace], by simpa using split,
          takes_of_succ (enclosed_of_closing? rfl used) fun count more enough _ => ?_⟩
        rw [split] at started
        obtain ⟨tail, again⟩ :=
          skipBlanks_front started (by decide) closed (Byte.closeBrace :: more)
        rw [List.append_assoc, List.singleton_append, readValue_entries again closed,
          reread count more enough]

theorem number_extent (first : (b == Byte.minus || Byte.isDigit b) = true)
    (h : readNumber (b :: text) = (draft, rest)) (skips : draft.skip = .ok ()) :
    ∃ used, text = used ++ rest ∧ Takes (steps + 1) b draft used := by
  obtain ⟨numeral, used, rfl, split, spelled⟩ := readNumber_extent h skips
  obtain ⟨d, tail, rfl, -⟩ := exists_cons_of_spells spelled
  obtain ⟨rfl, behind⟩ := List.cons.inj split
  refine ⟨tail, behind, takes_of_succ (enclosed_of_closing?_eq_none rfl tail)
    fun count more _ ends => ?_⟩
  rw [readValue_numeral first]
  exact readNumber_spelled spelled ends

theorem value_extent (items : ItemsExtent steps) (entries : EntriesExtent steps) :
    ValueExtent (steps + 1) := by
  intro b text draft rest h skips
  rw [readValue.eq_def] at h
  dsimp only at h
  split at h
  · exact word_extent (fun _ _ => rfl) h skips rfl
  · exact word_extent (fun _ _ => rfl) h skips rfl
  · exact word_extent (fun _ _ => rfl) h skips rfl
  · obtain ⟨content, rfl, split, reread⟩ := readString_extent h skips
    refine ⟨content ++ [Byte.quote], by simpa using split,
      takes_of_succ (enclosed_of_closing?_eq_none rfl _) fun count more _ _ => ?_⟩
    rw [List.append_assoc]
    exact reread more
  · exact array_extent items (by rw [readValue.eq_def]; exact h) skips
  · exact object_extent entries (by rw [readValue.eq_def]; exact h) skips
  · split at h
    · rename_i first
      exact number_extent first h skips
    · cases h
      cases skips

theorem ItemAt.extent {item : Draft} {after : Bytes} (values : ValueExtent steps)
    (h : ItemAt steps text item after) (skips : item.skip = .ok ()) :
    ∃ taken, text = taken ++ after ∧ ∀ count behind, steps ≤ count → Numeral.Ends behind →
      ItemAt count (taken ++ behind) item behind := by
  obtain @⟨b, tail, first, value⟩ := h
  obtain ⟨gap, rfl, blank, visible⟩ := exists_of_skipBlanks first
  obtain ⟨taken, rfl, takes⟩ := values b tail item after value skips
  refine ⟨gap ++ b :: taken, by simp, fun count behind enough ends => ?_⟩
  rw [List.append_assoc, List.cons_append]
  exact ⟨skipBlanks_gap blank visible _, takes.reread count behind enough (admits_of_ends ends)⟩

theorem EntryAt.extent {key after : Bytes} {item : Draft} (values : ValueExtent steps)
    (h : EntryAt steps text key item after) (skips : item.skip = .ok ()) :
    ∃ taken, text = taken ++ after ∧ ∀ count behind, steps ≤ count → Numeral.Ends behind →
      EntryAt count (taken ++ behind) key item behind := by
  obtain ⟨quoted, scanned, colon, value⟩ := h
  obtain ⟨gap, rfl, blank, visible⟩ := exists_of_skipBlanks quoted
  obtain ⟨rfl, rescan⟩ := Quoted.scan_extent scanned
  obtain ⟨beforeColon, rfl, blank_beforeColon, parted⟩ := exists_of_skipBlanks colon
  obtain ⟨taken, rfl, again⟩ := value.extent values skips
  refine ⟨gap ++ Byte.quote :: (key ++ Byte.quote :: (beforeColon ++ Byte.colon :: taken)), by simp,
    fun count behind enough ends => ?_⟩
  simp only [List.append_assoc, List.cons_append]
  exact ⟨skipBlanks_gap blank visible _, rescan _, skipBlanks_gap blank_beforeColon parted _,
    again count behind enough ends⟩

theorem items_of_read {items : List Draft} {ending : Option Fault}
    (h : readItems (steps + 1) text = ((items, ending), rest)) (skips : skipItems items = .ok ())
    (ended : checkBracket ending = .ok ()) :
    ∃ item after, ItemAt steps text item after ∧ item.skip = .ok () ∧
      ((∃ more others, skipBlanks after = Byte.comma :: more ∧
          readItems steps more = ((others, ending), rest) ∧ skipItems others = .ok () ∧
          items = item :: others) ∨
        (skipBlanks after = Byte.closeBracket :: rest ∧ items = [item] ∧ ending = none)) := by
  rw [readItems] at h
  split at h
  · cases h
    cases skips
  · rename_i b tail first
    dsimp only at h
    split at h
    · rename_i more comma
      cases h
      obtain ⟨_, item_skips, others_skip⟩ := bind_eq_ok_iff.1 skips
      exact ⟨_, _, ⟨first, rfl⟩, item_skips, .inl ⟨more, _, comma, rfl, others_skip, rfl⟩⟩
    · rename_i closing
      cases h
      obtain ⟨_, item_skips, -⟩ := bind_eq_ok_iff.1 skips
      exact ⟨_, _, ⟨first, rfl⟩, item_skips, .inr ⟨closing, rfl, rfl⟩⟩
    · cases h
      cases ended

theorem entries_of_read {entries : List (Bytes × Draft)} {ending : ObjectEnd}
    (h : readEntries (steps + 1) text = ((entries, ending), rest))
    (skips : skipEntries entries = .ok ()) (ended : skipEnd ending = .ok ()) :
    ∃ key item after, EntryAt steps text key item after ∧ item.skip = .ok () ∧
      ((∃ more others, skipBlanks after = Byte.comma :: more ∧
          readEntries steps more = ((others, ending), rest) ∧ skipEntries others = .ok () ∧
          entries = (key, item) :: others) ∨
        (skipBlanks after = Byte.closeBrace :: rest ∧ entries = [(key, item)] ∧
          ending = .closed)) := by
  rw [readEntries] at h
  split at h
  · rename_i afterQuote quoted
    split at h
    · rename_i unclosed
      cases h
      rw [skipEnd, unclosed] at ended
      cases ended
    · rename_i key afterKey scanned
      split at h
      · rename_i afterColon colon
        split at h
        · cases h
          cases skips
        · rename_i b tail first
          dsimp only at h
          split at h
          · rename_i more comma
            cases h
            obtain ⟨_, item_skips, others_skip⟩ := bind_eq_ok_iff.1 skips
            exact ⟨key, _, _, ⟨quoted, scanned, colon, first, rfl⟩, item_skips,
              .inl ⟨more, _, comma, rfl, others_skip, rfl⟩⟩
          · rename_i closing
            cases h
            obtain ⟨_, item_skips, -⟩ := bind_eq_ok_iff.1 skips
            exact ⟨key, _, _, ⟨quoted, scanned, colon, first, rfl⟩, item_skips,
              .inr ⟨closing, rfl, rfl⟩⟩
          · cases h
            cases ended
      · cases h
        cases skips
  · cases h
    cases ended

theorem items_extent (values : ValueExtent steps) (items : ItemsExtent steps) :
    ItemsExtent (steps + 1) := by
  intro text read ending rest h skips ended
  obtain ⟨item, after, first, item_skips, goes_on⟩ := items_of_read h skips ended
  obtain ⟨taken, rfl, again⟩ := first.extent values item_skips
  rcases goes_on with ⟨more, others, comma, hr, others_skip, rfl⟩ | ⟨closing, rfl, rfl⟩
  · obtain ⟨gap, rfl, blank, seen⟩ := exists_of_skipBlanks comma
    obtain ⟨used, rfl, reread⟩ := items more others ending rest hr others_skip ended
    refine ⟨taken ++ (gap ++ Byte.comma :: used), by simp, fun count more enough => ?_⟩
    cases count with
    | zero => omega
    | succ count =>
        have item_again := again count (gap ++ Byte.comma :: (used ++ Byte.closeBracket :: more))
          (by omega) (ends_of_gap blank (ends_cons (by decide) _))
        simp only [List.append_assoc, List.cons_append]
        rw [(readItems_step item_again _).1 (skipBlanks_gap blank seen _),
          reread count more (by omega)]
  · obtain ⟨gap, rfl, blank, seen⟩ := exists_of_skipBlanks closing
    refine ⟨taken ++ gap, by simp, fun count more enough => ?_⟩
    cases count with
    | zero => omega
    | succ count =>
        have item_again := again count (gap ++ Byte.closeBracket :: more) (by omega)
          (ends_of_gap blank (ends_cons (by decide) _))
        rw [List.append_assoc]
        exact (readItems_step item_again more).2 (skipBlanks_gap blank seen more)

theorem entries_extent (values : ValueExtent steps) (entries : EntriesExtent steps) :
    EntriesExtent (steps + 1) := by
  intro text read ending rest h skips ended
  obtain ⟨key, item, after, first, item_skips, goes_on⟩ := entries_of_read h skips ended
  obtain ⟨taken, rfl, again⟩ := first.extent values item_skips
  rcases goes_on with ⟨more, others, comma, hr, others_skip, rfl⟩ | ⟨closing, rfl, rfl⟩
  · obtain ⟨gap, rfl, blank, seen⟩ := exists_of_skipBlanks comma
    obtain ⟨used, rfl, reread⟩ := entries more others ending rest hr others_skip ended
    refine ⟨taken ++ (gap ++ Byte.comma :: used), by simp, fun count more enough => ?_⟩
    cases count with
    | zero => omega
    | succ count =>
        have entry_again := again count (gap ++ Byte.comma :: (used ++ Byte.closeBrace :: more))
          (by omega) (ends_of_gap blank (ends_cons (by decide) _))
        simp only [List.append_assoc, List.cons_append]
        rw [(readEntries_step entry_again _).1 (skipBlanks_gap blank seen _),
          reread count more (by omega)]
  · obtain ⟨gap, rfl, blank, seen⟩ := exists_of_skipBlanks closing
    refine ⟨taken ++ gap, by simp, fun count more enough => ?_⟩
    cases count with
    | zero => omega
    | succ count =>
        have entry_again := again count (gap ++ Byte.closeBrace :: more) (by omega)
          (ends_of_gap blank (ends_cons (by decide) _))
        rw [List.append_assoc]
        exact (readEntries_step entry_again more).2 (skipBlanks_gap blank seen more)

/-- What is taken does not depend on the number of steps, nor on what comes behind. -/
theorem read_extent (steps : Nat) :
    ValueExtent steps ∧ ItemsExtent steps ∧ EntriesExtent steps := by
  induction steps with
  | zero =>
      refine ⟨fun b text draft rest h skips => ?_, fun text items ending rest h _ ended => ?_,
        fun text entries ending rest h _ ended => ?_⟩
      · rw [readValue] at h
        cases h
        cases skips
      · rw [readItems] at h
        cases h
        cases ended
      · rw [readEntries] at h
        cases h
        cases ended
  | succ steps ih =>
      obtain ⟨values, items, entries⟩ := ih
      exact ⟨value_extent items entries, items_extent values items, entries_extent values entries⟩

/-- A text that starts with a value that can be stepped over can be continued without a difference,
if what comes behind the value does not prolong it. -/
theorem read_append (h : read text = (draft, rest)) (skips : draft.skip = .ok ()) :
    ∃ front, text = front ++ rest ∧ draft.Enclosed front ∧
      ∀ more, draft.Admits more → read (front ++ more) = (draft, more) := by
  unfold read at h
  split at h
  · cases h
    cases skips
  · rename_i b tail first
    obtain ⟨gap, rfl, blank, visible⟩ := exists_of_skipBlanks first
    obtain ⟨used, rfl, takes⟩ := (read_extent _).1 b tail draft rest h skips
    refine ⟨gap ++ [b] ++ used, by simp, takes.enclosed.append (gap ++ [b]), fun more admits => ?_⟩
    -- The text may have become shorter, so the steps are made enough for both texts first.
    have again := takes.reread
      (2 * (used ++ rest).length + 2 + (2 * (used ++ more).length + 2)) more (by omega) admits
    rw [readValue_eq_of_le (by omega)] at again
    rw [List.append_assoc, List.append_assoc, List.singleton_append, read,
      skipBlanks_gap blank visible]
    exact again

end Draft

end FabricSurvey.Json
