import FabricSurvey.Json.Shaped
import FabricSurvey.Proofs.Grammar.Numeral

/-!
# Written values

The texts that a faultless draft is the tree of: tokens as they are spelled, with any blanks between them.
Reading such a text gives back its tree, whatever comes after it, as long as nothing there would prolong a
numeral.
-/

namespace FabricSurvey.Json

/-- What may stand between two tokens. -/
def Blanks (gap : Bytes) : Prop := ∀ b ∈ gap, Byte.isBlank b = true

instance (gap : Bytes) : Decidable (Blanks gap) :=
  decidable_of_iff (gap.all Byte.isBlank = true) List.all_eq_true

theorem blanks_nil : Blanks [] := fun _ hb => absurd hb List.not_mem_nil

namespace Draft

/-- A value, the items of an array or the entries of an object. -/
inductive Part where
  | value (draft : Draft)
  | items (items : List Draft)
  | entries (entries : List (Bytes × Draft))

inductive Written : Part → Bytes → Prop
  | null : Written (.value .null) [Byte.letterN, 0x75, 0x6C, 0x6C]
  | yes : Written (.value (.flag true)) [Byte.letterT, 0x72, 0x75, 0x65]
  | no : Written (.value (.flag false)) [Byte.letterF, 0x61, 0x6C, 0x73, 0x65]
  | number {numeral : Numeral} {text : Bytes} (spelled : numeral.Spells text) :
      Written (.value (.number numeral)) text
  | string {chars : List Char} {content : Bytes} (spelled : Quoted.Spells chars content) :
      Written (.value (.string content)) (Byte.quote :: (content ++ [Byte.quote]))
  | noItems {gap : Bytes} (blank : Blanks gap) :
      Written (.value (.array [] none)) (Byte.openBracket :: (gap ++ [Byte.closeBracket]))
  | array {items : List Draft} {text : Bytes} (inner : Written (.items items) text) :
      Written (.value (.array items none)) (Byte.openBracket :: (text ++ [Byte.closeBracket]))
  | noEntries {gap : Bytes} (blank : Blanks gap) :
      Written (.value (.object [] .closed)) (Byte.openBrace :: (gap ++ [Byte.closeBrace]))
  | object {entries : List (Bytes × Draft)} {text : Bytes} (inner : Written (.entries entries) text) :
      Written (.value (.object entries .closed)) (Byte.openBrace :: (text ++ [Byte.closeBrace]))
  | lastItem {item : Draft} {before text after : Bytes} (blankBefore : Blanks before)
      (value : Written (.value item) text) (blankAfter : Blanks after) :
      Written (.items [item]) (before ++ (text ++ after))
  | nextItem {item : Draft} {items : List Draft} {before text after more : Bytes}
      (blankBefore : Blanks before) (value : Written (.value item) text) (blankAfter : Blanks after)
      (others : Written (.items items) more) :
      Written (.items (item :: items)) (before ++ (text ++ (after ++ Byte.comma :: more)))
  | lastEntry {item : Draft} {chars : List Char} {before key beforeColon afterColon text after : Bytes}
      (blankBefore : Blanks before) (spelled : Quoted.Spells chars key)
      (blankBeforeColon : Blanks beforeColon) (blankAfterColon : Blanks afterColon)
      (value : Written (.value item) text) (blankAfter : Blanks after) :
      Written (.entries [(key, item)])
        (before ++ Byte.quote :: (key ++ Byte.quote ::
          (beforeColon ++ Byte.colon :: (afterColon ++ (text ++ after)))))
  | nextEntry {item : Draft} {entries : List (Bytes × Draft)} {chars : List Char}
      {before key beforeColon afterColon text after more : Bytes}
      (blankBefore : Blanks before) (spelled : Quoted.Spells chars key)
      (blankBeforeColon : Blanks beforeColon) (blankAfterColon : Blanks afterColon)
      (value : Written (.value item) text) (blankAfter : Blanks after)
      (others : Written (.entries entries) more) :
      Written (.entries ((key, item) :: entries))
        (before ++ Byte.quote :: (key ++ Byte.quote ::
          (beforeColon ++ Byte.colon :: (afterColon ++ (text ++ (after ++ Byte.comma :: more))))))

theorem skipBlanks_append {gap : Bytes} (blank : Blanks gap) (text : Bytes) :
    skipBlanks (gap ++ text) = skipBlanks text := by
  induction gap with
  | nil => rfl
  | cons b gap ih =>
      have hb := blank b List.mem_cons_self
      rw [skipBlanks, List.cons_append, List.dropWhile_cons, if_pos hb]
      exact ih fun b hb => blank b (List.mem_cons_of_mem _ hb)

theorem skipBlanks_cons {b : UInt8} (h : Byte.isBlank b = false) (text : Bytes) :
    skipBlanks (b :: text) = b :: text := by
  rw [skipBlanks, List.dropWhile_cons, if_neg (by simp [h])]

theorem skipBlanks_gap {gap : Bytes} {b : UInt8} (blank : Blanks gap) (h : Byte.isBlank b = false)
    (text : Bytes) : skipBlanks (gap ++ b :: text) = b :: text := by
  rw [skipBlanks_append blank, skipBlanks_cons h]

theorem skipBlanks_of_blanks {gap : Bytes} (blank : Blanks gap) : skipBlanks gap = [] := by
  have h := skipBlanks_append blank []
  rwa [List.append_nil] at h

theorem ends_nil : Numeral.Ends [] := by
  intro b hb
  cases hb

theorem ends_cons {b : UInt8}
    (h : Byte.isDigit b = false ∧ b ≠ Byte.point ∧ b ≠ 0x65 ∧ b ≠ 0x45) (text : Bytes) :
    Numeral.Ends (b :: text) := by
  intro first hfirst
  obtain rfl := Option.some.inj hfirst
  exact h

theorem eq_of_isBlank {b : UInt8} (h : Byte.isBlank b = true) :
    b = 0x20 ∨ b = 0x09 ∨ b = 0x0A ∨ b = 0x0D := by
  simpa [Byte.isBlank, or_assoc] using h

theorem ends_of_gap {gap rest : Bytes} (blank : Blanks gap) (ends : Numeral.Ends rest) :
    Numeral.Ends (gap ++ rest) := by
  cases gap with
  | nil => exact ends
  | cons b gap =>
      rcases eq_of_isBlank (blank b List.mem_cons_self) with rfl | rfl | rfl | rfl <;>
        exact ends_cons (by decide) _

/-- What the first byte of a value is not. -/
structure Starts (b : UInt8) : Prop where
  visible : Byte.isBlank b = false
  ne_closeBracket : b ≠ Byte.closeBracket

theorem exists_cons_of_spells {numeral : Numeral} {text : Bytes} (h : numeral.Spells text) :
    ∃ b tail, text = b :: tail ∧ (b == Byte.minus || Byte.isDigit b) = true := by
  cases h with
  | @intro negative whole fraction written power exponent digits =>
      cases negative with
      | true => exact ⟨Byte.minus, _, rfl, by decide⟩
      | false =>
          cases whole with
          | nil => exact absurd rfl digits.ne_nil
          | cons d whole =>
              exact ⟨d, _, rfl, by rw [digits.digit d List.mem_cons_self, Bool.or_true]⟩

theorem starts_of_numeral {b : UInt8} (h : (b == Byte.minus || Byte.isDigit b) = true) :
    Starts b := by
  constructor
  · refine Bool.eq_false_iff.2 fun blank => ?_
    rcases eq_of_isBlank blank with rfl | rfl | rfl | rfl <;> exact absurd h (by decide)
  · rintro rfl
    exact absurd h (by decide)

theorem exists_cons_of_written {draft : Draft} {text : Bytes} (h : Written (.value draft) text) :
    ∃ b tail, text = b :: tail ∧ Starts b := by
  cases h with
  | number spelled =>
      obtain ⟨b, tail, rfl, first⟩ := exists_cons_of_spells spelled
      exact ⟨b, tail, rfl, starts_of_numeral first⟩
  | _ => exact ⟨_, _, rfl, by decide, by decide⟩

theorem skipBlanks_items {items : List Draft} {text : Bytes} (h : Written (.items items) text)
    (rest : Bytes) : ∃ b tail, skipBlanks (text ++ rest) = b :: tail ∧ b ≠ Byte.closeBracket := by
  cases h with
  | lastItem blankBefore value =>
      obtain ⟨b, tail, rfl, first⟩ := exists_cons_of_written value
      rw [List.append_assoc, List.append_assoc, List.cons_append,
        skipBlanks_gap blankBefore first.visible]
      exact ⟨b, _, rfl, first.ne_closeBracket⟩
  | nextItem blankBefore value =>
      obtain ⟨b, tail, rfl, first⟩ := exists_cons_of_written value
      rw [List.append_assoc, List.append_assoc, List.cons_append,
        skipBlanks_gap blankBefore first.visible]
      exact ⟨b, _, rfl, first.ne_closeBracket⟩

theorem skipBlanks_entries {entries : List (Bytes × Draft)} {text : Bytes}
    (h : Written (.entries entries) text) (rest : Bytes) :
    ∃ tail, skipBlanks (text ++ rest) = Byte.quote :: tail := by
  cases h with
  | lastEntry blankBefore =>
      rw [List.append_assoc, List.cons_append, skipBlanks_gap blankBefore (by decide)]
      exact ⟨_, rfl⟩
  | nextEntry blankBefore =>
      rw [List.append_assoc, List.cons_append, skipBlanks_gap blankBefore (by decide)]
      exact ⟨_, rfl⟩

theorem readString_spelled {chars : List Char} {content : Bytes} (h : Quoted.Spells chars content)
    (rest : Bytes) : readString (content ++ Byte.quote :: rest) = (.string content, rest) := by
  rw [readString, Quoted.scan_spelled h]

theorem readValue_numeral {b : UInt8} (h : (b == Byte.minus || Byte.isDigit b) = true)
    (steps : Nat) (text : Bytes) : readValue (steps + 1) b text = readNumber (b :: text) := by
  rw [readValue]
  · rw [if_pos h]
  all_goals
    rintro rfl
    exact absurd h (by decide)

theorem readNumber_spelled {numeral : Numeral} {text rest : Bytes} (h : numeral.Spells text)
    (ends : Numeral.Ends rest) : readNumber (text ++ rest) = (.number numeral, rest) := by
  rw [readNumber, Numeral.scan_spelled h ends]

theorem readValue_noItems {gap : Bytes} (blank : Blanks gap) (steps : Nat) (rest : Bytes) :
    readValue (steps + 1) Byte.openBracket (gap ++ Byte.closeBracket :: rest) =
      (.array [] none, rest) := by
  have h := skipBlanks_gap (b := Byte.closeBracket) blank (by decide) rest
  rw [readValue.eq_def]
  simp only [h]
  rfl

theorem readValue_noEntries {gap : Bytes} (blank : Blanks gap) (steps : Nat) (rest : Bytes) :
    readValue (steps + 1) Byte.openBrace (gap ++ Byte.closeBrace :: rest) =
      (.object [] .closed, rest) := by
  have h := skipBlanks_gap (b := Byte.closeBrace) blank (by decide) rest
  rw [readValue.eq_def]
  simp only [h]
  rfl

theorem readValue_items {text tail : Bytes} {b : UInt8} (first : skipBlanks text = b :: tail)
    (other : b ≠ Byte.closeBracket) (steps : Nat) :
    readValue (steps + 1) Byte.openBracket text =
      (.array (readItems steps text).1.1 (readItems steps text).1.2, (readItems steps text).2) := by
  rw [readValue.eq_def]
  simp only [first]
  change (match b :: tail with
    | [] => _
    | Byte.closeBracket :: rest => _
    | _ :: _ => _) = _
  split
  · contradiction
  · exact absurd (List.cons.inj ‹_›).1 other
  · rfl

theorem readValue_entries {text tail : Bytes} {b : UInt8} (first : skipBlanks text = b :: tail)
    (other : b ≠ Byte.closeBrace) (steps : Nat) :
    readValue (steps + 1) Byte.openBrace text =
      (.object (readEntries steps text).1.1 (readEntries steps text).1.2,
        (readEntries steps text).2) := by
  rw [readValue.eq_def]
  simp only [first]
  change (match b :: tail with
    | [] => _
    | Byte.closeBrace :: rest => _
    | _ :: _ => _) = _
  split
  · contradiction
  · exact absurd (List.cons.inj ‹_›).1 other
  · rfl

theorem readValue_array {items : List Draft} {text : Bytes} (h : Written (.items items) text)
    (steps : Nat) (rest : Bytes) :
    readValue (steps + 1) Byte.openBracket (text ++ rest) =
      (.array (readItems steps (text ++ rest)).1.1 (readItems steps (text ++ rest)).1.2,
        (readItems steps (text ++ rest)).2) := by
  obtain ⟨b, tail, first, other⟩ := skipBlanks_items h rest
  exact readValue_items first other steps

theorem readValue_object {entries : List (Bytes × Draft)} {text : Bytes}
    (h : Written (.entries entries) text) (steps : Nat) (rest : Bytes) :
    readValue (steps + 1) Byte.openBrace (text ++ rest) =
      (.object (readEntries steps (text ++ rest)).1.1 (readEntries steps (text ++ rest)).1.2,
        (readEntries steps (text ++ rest)).2) := by
  obtain ⟨tail, first⟩ := skipBlanks_entries h rest
  exact readValue_entries first (by decide) steps

/-- Behind some blanks a text starts with a value. -/
inductive ItemAt (steps : Nat) (text : Bytes) (item : Draft) (after : Bytes) : Prop
  | intro {b : UInt8} {tail : Bytes} (first : skipBlanks text = b :: tail)
      (value : readValue steps b tail = (item, after)) : ItemAt steps text item after

/-- A text starts with a key, a colon and a value, with any blanks in front of them. -/
inductive EntryAt (steps : Nat) (text key : Bytes) (item : Draft) (after : Bytes) : Prop
  | intro {afterQuote afterKey afterColon : Bytes}
      (quoted : skipBlanks text = Byte.quote :: afterQuote)
      (scanned : Quoted.scan afterQuote = .ok (key, afterKey))
      (colon : skipBlanks afterKey = Byte.colon :: afterColon)
      (value : ItemAt steps afterColon item after) : EntryAt steps text key item after

/-- Behind an item comes a comma with more items, or the bracket. -/
theorem readItems_step {item : Draft} {text after : Bytes} {steps : Nat}
    (h : ItemAt steps text item after) (more : Bytes) :
    (skipBlanks after = Byte.comma :: more →
      readItems (steps + 1) text =
        ((item :: (readItems steps more).1.1, (readItems steps more).1.2),
          (readItems steps more).2)) ∧
      (skipBlanks after = Byte.closeBracket :: more →
        readItems (steps + 1) text = (([item], none), more)) := by
  obtain ⟨first, value⟩ := h
  constructor
  all_goals
    intro behind
    rw [readItems, first]
    simp only [value, behind]
    rfl

/-- Behind an entry comes a comma with more entries, or the brace. -/
theorem readEntries_step {item : Draft} {text key after : Bytes} {steps : Nat}
    (h : EntryAt steps text key item after) (more : Bytes) :
    (skipBlanks after = Byte.comma :: more →
      readEntries (steps + 1) text =
        (((key, item) :: (readEntries steps more).1.1, (readEntries steps more).1.2),
          (readEntries steps more).2)) ∧
      (skipBlanks after = Byte.closeBrace :: more →
        readEntries (steps + 1) text = (([(key, item)], .closed), more)) := by
  obtain ⟨quoted, scanned, colon, first, value⟩ := h
  constructor
  all_goals
    intro behind
    rw [readEntries, quoted]
    split
    · rename_i same
      cases same
      rw [scanned]
      simp only [colon]
      split
      · rename_i same
        cases same
        simp only [first, value, behind]
        rfl
      · rename_i other
        exact absurd rfl (other _)
    · rename_i other
      exact absurd rfl (other _)

/-- What reading makes of the text of a part, given enough steps. -/
def ReadBack : Part → Bytes → Prop
  | .value draft, text => ∀ (b : UInt8) (tail rest : Bytes) (steps : Nat), text = b :: tail →
      Numeral.Ends rest → 2 * (tail ++ rest).length + 2 ≤ steps →
      readValue steps b (tail ++ rest) = (draft, rest)
  | .items items, text => ∀ (rest : Bytes) (steps : Nat),
      2 * (text ++ Byte.closeBracket :: rest).length + 1 ≤ steps →
      readItems steps (text ++ Byte.closeBracket :: rest) = ((items, none), rest)
  | .entries entries, text => ∀ (rest : Bytes) (steps : Nat),
      2 * (text ++ Byte.closeBrace :: rest).length + 1 ≤ steps →
      readEntries steps (text ++ Byte.closeBrace :: rest) = ((entries, .closed), rest)

theorem ReadBack.afterGap {item : Draft} {gap text rest : Bytes} (h : ReadBack (.value item) text)
    (value : Written (.value item) text) (blank : Blanks gap) (ends : Numeral.Ends rest)
    (steps : Nat) (enough : 2 * (text ++ rest).length ≤ steps) :
    ∃ b tail, skipBlanks (gap ++ (text ++ rest)) = b :: tail ∧
      readValue steps b tail = (item, rest) := by
  obtain ⟨b, tail, rfl, first⟩ := exists_cons_of_written value
  refine ⟨b, tail ++ rest, ?_, h b tail rest steps rfl ends ?_⟩
  · rw [List.cons_append, skipBlanks_gap blank first.visible]
  · simp only [List.cons_append, List.length_cons] at enough
    omega

theorem readItems_last {item : Draft} {before text after : Bytes} (blankBefore : Blanks before)
    (value : Written (.value item) text) (blankAfter : Blanks after)
    (h : ReadBack (.value item) text) : ReadBack (.items [item]) (before ++ (text ++ after)) := by
  intro rest steps enough
  have closing : Byte.isBlank Byte.closeBracket = false := by decide
  have ends := ends_of_gap blankAfter (ends_cons (by decide) (b := Byte.closeBracket) rest)
  simp only [List.append_assoc, List.length_append, List.length_cons] at enough ⊢
  cases steps with
  | zero => omega
  | succ steps =>
      obtain ⟨b, tail, first, hvalue⟩ := h.afterGap value blankBefore ends steps (by
        simp only [List.length_append, List.length_cons]
        omega)
      exact (readItems_step ⟨first, hvalue⟩ rest).2 (skipBlanks_gap blankAfter closing rest)

theorem readItems_next {item : Draft} {items : List Draft} {before text after more : Bytes}
    (blankBefore : Blanks before) (value : Written (.value item) text) (blankAfter : Blanks after)
    (h : ReadBack (.value item) text) (others : ReadBack (.items items) more) :
    ReadBack (.items (item :: items)) (before ++ (text ++ (after ++ Byte.comma :: more))) := by
  intro rest steps enough
  have comma : Byte.isBlank Byte.comma = false := by decide
  have ends := ends_of_gap blankAfter
    (ends_cons (by decide) (b := Byte.comma) (more ++ Byte.closeBracket :: rest))
  simp only [List.append_assoc, List.cons_append, List.length_append, List.length_cons] at enough ⊢
  cases steps with
  | zero => omega
  | succ steps =>
      obtain ⟨b, tail, first, hvalue⟩ := h.afterGap value blankBefore ends steps (by
        simp only [List.length_append, List.length_cons]
        omega)
      have hothers := others rest steps (by
        simp only [List.length_append, List.length_cons]
        omega)
      rw [(readItems_step ⟨first, hvalue⟩ _).1 (skipBlanks_gap blankAfter comma _), hothers]

theorem readEntries_value {item : Draft} {chars : List Char}
    {before key beforeColon afterColon text rest : Bytes} {steps : Nat}
    (blankBefore : Blanks before) (spelled : Quoted.Spells chars key)
    (blankBeforeColon : Blanks beforeColon) (blankAfterColon : Blanks afterColon)
    (value : Written (.value item) text) (h : ReadBack (.value item) text)
    (ends : Numeral.Ends rest) (enough : 2 * (text ++ rest).length ≤ steps) (more : Bytes) :
    (skipBlanks rest = Byte.comma :: more →
      readEntries (steps + 1) (before ++ Byte.quote :: (key ++ Byte.quote ::
          (beforeColon ++ Byte.colon :: (afterColon ++ (text ++ rest))))) =
        (((key, item) :: (readEntries steps more).1.1, (readEntries steps more).1.2),
          (readEntries steps more).2)) ∧
      (skipBlanks rest = Byte.closeBrace :: more →
        readEntries (steps + 1) (before ++ Byte.quote :: (key ++ Byte.quote ::
            (beforeColon ++ Byte.colon :: (afterColon ++ (text ++ rest))))) =
          (([(key, item)], .closed), more)) := by
  have quoted := skipBlanks_gap (b := Byte.quote) blankBefore (by decide)
    (key ++ Byte.quote :: (beforeColon ++ Byte.colon :: (afterColon ++ (text ++ rest))))
  have scanned := Quoted.scan_spelled spelled
    (beforeColon ++ Byte.colon :: (afterColon ++ (text ++ rest)))
  have colon := skipBlanks_gap (b := Byte.colon) blankBeforeColon (by decide)
    (afterColon ++ (text ++ rest))
  obtain ⟨b, tail, first, hvalue⟩ := h.afterGap value blankAfterColon ends _ enough
  exact readEntries_step ⟨quoted, scanned, colon, first, hvalue⟩ more

theorem readEntries_last {item : Draft} {chars : List Char}
    {before key beforeColon afterColon text after : Bytes}
    (blankBefore : Blanks before) (spelled : Quoted.Spells chars key)
    (blankBeforeColon : Blanks beforeColon) (blankAfterColon : Blanks afterColon)
    (value : Written (.value item) text) (blankAfter : Blanks after)
    (h : ReadBack (.value item) text) :
    ReadBack (.entries [(key, item)])
      (before ++ Byte.quote :: (key ++ Byte.quote ::
        (beforeColon ++ Byte.colon :: (afterColon ++ (text ++ after))))) := by
  intro rest steps enough
  have closing : Byte.isBlank Byte.closeBrace = false := by decide
  have ends := ends_of_gap blankAfter (ends_cons (by decide) (b := Byte.closeBrace) rest)
  simp only [List.append_assoc, List.cons_append, List.length_append, List.length_cons] at enough ⊢
  cases steps with
  | zero => omega
  | succ steps =>
      have room : 2 * (text ++ (after ++ Byte.closeBrace :: rest)).length ≤ steps := by
        simp only [List.length_append, List.length_cons]
        omega
      exact (readEntries_value blankBefore spelled blankBeforeColon blankAfterColon value h ends room
        rest).2 (skipBlanks_gap blankAfter closing rest)

theorem readEntries_next {item : Draft} {entries : List (Bytes × Draft)} {chars : List Char}
    {before key beforeColon afterColon text after more : Bytes}
    (blankBefore : Blanks before) (spelled : Quoted.Spells chars key)
    (blankBeforeColon : Blanks beforeColon) (blankAfterColon : Blanks afterColon)
    (value : Written (.value item) text) (blankAfter : Blanks after)
    (h : ReadBack (.value item) text) (others : ReadBack (.entries entries) more) :
    ReadBack (.entries ((key, item) :: entries))
      (before ++ Byte.quote :: (key ++ Byte.quote ::
        (beforeColon ++ Byte.colon :: (afterColon ++ (text ++ (after ++ Byte.comma :: more)))))) := by
  intro rest steps enough
  have comma : Byte.isBlank Byte.comma = false := by decide
  have ends := ends_of_gap blankAfter
    (ends_cons (by decide) (b := Byte.comma) (more ++ Byte.closeBrace :: rest))
  simp only [List.append_assoc, List.cons_append, List.length_append, List.length_cons] at enough ⊢
  cases steps with
  | zero => omega
  | succ steps =>
      have hothers := others rest steps (by
        simp only [List.length_append, List.length_cons]
        omega)
      have room : 2 * (text ++ (after ++ Byte.comma :: (more ++ Byte.closeBrace :: rest))).length ≤
          steps := by
        simp only [List.length_append, List.length_cons]
        omega
      have first := (readEntries_value blankBefore spelled blankBeforeColon blankAfterColon value h ends
        room _).1 (skipBlanks_gap blankAfter comma _)
      rw [first, hothers]

/-- The reader of values knows the first byte of a value, and has used up a step on it. -/
theorem readBack_value {draft : Draft} {b : UInt8} {tail : Bytes}
    (h : ∀ (rest : Bytes) (steps : Nat), Numeral.Ends rest → 2 * (tail ++ rest).length + 1 ≤ steps →
      readValue (steps + 1) b (tail ++ rest) = (draft, rest)) :
    ReadBack (.value draft) (b :: tail) := by
  intro b' tail' rest steps same ends enough
  cases same
  cases steps with
  | zero => omega
  | succ steps => exact h rest steps ends (by omega)

theorem readBack_numeral {numeral : Numeral} {text : Bytes} (spelled : numeral.Spells text) :
    ReadBack (.value (.number numeral)) text := by
  obtain ⟨b, tail, rfl, start⟩ := exists_cons_of_spells spelled
  refine readBack_value fun rest steps ends _ => ?_
  rw [readValue_numeral start, ← List.cons_append, readNumber_spelled spelled ends]

theorem readBack_array {items : List Draft} {text : Bytes} (inner : Written (.items items) text)
    (h : ReadBack (.items items) text) :
    ReadBack (.value (.array items none)) (Byte.openBracket :: (text ++ [Byte.closeBracket])) := by
  refine readBack_value fun rest steps _ enough => ?_
  rw [List.append_assoc, List.singleton_append] at enough ⊢
  rw [readValue_array inner, h rest steps enough]

theorem readBack_object {entries : List (Bytes × Draft)} {text : Bytes}
    (inner : Written (.entries entries) text) (h : ReadBack (.entries entries) text) :
    ReadBack (.value (.object entries .closed)) (Byte.openBrace :: (text ++ [Byte.closeBrace])) := by
  refine readBack_value fun rest steps _ enough => ?_
  rw [List.append_assoc, List.singleton_append] at enough ⊢
  rw [readValue_object inner, h rest steps enough]

theorem readBack_of_written {part : Part} {text : Bytes} (h : Written part text) :
    ReadBack part text := by
  -- on how the text is written, not on the steps, which are counted down by the text that is left
  induction h with
  | lastItem blankBefore value blankAfter ih => exact readItems_last blankBefore value blankAfter ih
  | nextItem blankBefore value blankAfter _ ih others =>
      exact readItems_next blankBefore value blankAfter ih others
  | lastEntry blankBefore spelled blankBeforeColon blankAfterColon value blankAfter ih =>
      exact readEntries_last blankBefore spelled blankBeforeColon blankAfterColon value blankAfter ih
  | nextEntry blankBefore spelled blankBeforeColon blankAfterColon value blankAfter _ ih others =>
      exact readEntries_next blankBefore spelled blankBeforeColon blankAfterColon value blankAfter ih
        others
  | null | yes | no => exact readBack_value fun _ _ _ _ => rfl
  | number spelled => exact readBack_numeral spelled
  | string spelled =>
      refine readBack_value fun rest steps _ _ => ?_
      rw [List.append_assoc]
      exact readString_spelled spelled rest
  | noItems blank =>
      refine readBack_value fun rest steps _ _ => ?_
      rw [List.append_assoc]
      exact readValue_noItems blank steps rest
  | noEntries blank =>
      refine readBack_value fun rest steps _ _ => ?_
      rw [List.append_assoc]
      exact readValue_noEntries blank steps rest
  | array inner ih => exact readBack_array inner ih
  | object inner ih => exact readBack_object inner ih

/-- A written value may have blanks around it. -/
def WholeText (draft : Draft) (text : Bytes) : Prop :=
  ∃ before body after, text = before ++ (body ++ after) ∧ Blanks before ∧
    Written (.value draft) body ∧ Blanks after

theorem read_written {draft : Draft} {before body after : Bytes} (blankBefore : Blanks before)
    (value : Written (.value draft) body) (blankAfter : Blanks after) :
    read (before ++ (body ++ after)) = (draft, after) := by
  obtain ⟨b, tail, rfl, first⟩ := exists_cons_of_written value
  have ends := ends_of_gap blankAfter ends_nil
  rw [List.append_nil] at ends
  rw [read, List.cons_append, skipBlanks_gap blankBefore first.visible]
  exact readBack_of_written value b tail after _ rfl ends (Nat.le_refl _)

/-- What the items of an array and the entries of an object are in a written part. -/
def Members : Part → Prop
  | .value _ => True
  | .items items => ∀ item ∈ items, ∃ text, Written (.value item) text
  | .entries entries => ∀ entry ∈ entries,
      (∃ chars, Quoted.Spells chars entry.1) ∧ ∃ text, Written (.value entry.2) text

theorem members_of_written {part : Part} {text : Bytes} (h : Written part text) : Members part := by
  induction h with
  | lastItem _ value =>
      intro item hitem
      obtain rfl := List.mem_singleton.1 hitem
      exact ⟨_, value⟩
  | nextItem _ value _ _ _ others =>
      intro item hitem
      rcases List.mem_cons.1 hitem with rfl | hitem
      · exact ⟨_, value⟩
      · exact others item hitem
  | lastEntry _ spelled _ _ value =>
      intro entry hentry
      obtain rfl := List.mem_singleton.1 hentry
      exact ⟨⟨_, spelled⟩, _, value⟩
  | nextEntry _ spelled _ _ value _ _ _ others =>
      intro entry hentry
      rcases List.mem_cons.1 hentry with rfl | hentry
      · exact ⟨⟨_, spelled⟩, _, value⟩
      · exact others entry hentry
  | _ => trivial

theorem written_of_mem_items {items : List Draft} {ending : Option Fault} {text : Bytes}
    (h : Written (.value (.array items ending)) text) :
    ending = none ∧ ∀ item ∈ items, ∃ text, Written (.value item) text := by
  cases h with
  | noItems => exact ⟨rfl, fun item hitem => absurd hitem List.not_mem_nil⟩
  | array inner => exact ⟨rfl, members_of_written inner⟩

theorem written_of_mem_entries {entries : List (Bytes × Draft)} {ending : ObjectEnd} {text : Bytes}
    (h : Written (.value (.object entries ending)) text) :
    ending = .closed ∧ ∀ entry ∈ entries,
      (∃ chars, Quoted.Spells chars entry.1) ∧ ∃ text, Written (.value entry.2) text := by
  cases h with
  | noEntries => exact ⟨rfl, fun entry hentry => absurd hentry List.not_mem_nil⟩
  | object inner => exact ⟨rfl, members_of_written inner⟩

end Draft

/-- A whole text is decoded as its tree is. -/
theorem readWhole_written {α : Type} {draft : Draft} {text : Bytes} (h : draft.WholeText text)
    (decode : Draft → Except Error α) : readWhole decode text = decode draft := by
  obtain ⟨before, body, after, rfl, blankBefore, written, blankAfter⟩ := h
  have finish : endWhole after = .ok () := by
    rw [endWhole, Draft.skipBlanks_of_blanks blankAfter]
  simp only [readWhole, Draft.read_written blankBefore written blankAfter, finish, bind, Except.bind]
  cases decode draft <;> rfl

end FabricSurvey.Json
