import FabricSurvey.Json.Quoted

/-!
# Spelled characters

Between quotes a character stands for itself, unless it is a quote, a backslash or a control, or it is
escaped: by a letter of its own, by its UTF-16 unit, or by the two units of a surrogate pair. In whatever
mixture of these a string is spelled, its content ends at the quote after it and is understood as the
characters that were spelled.
-/

namespace FabricSurvey.Json

/-- The bytes of some characters. -/
def bytesOf (chars : List Char) : Bytes := chars.flatMap String.utf8EncodeChar

@[simp] theorem bytesOf_nil : bytesOf [] = [] := rfl

@[simp] theorem bytesOf_cons (c : Char) (chars : List Char) :
    bytesOf (c :: chars) = String.utf8EncodeChar c ++ bytesOf chars := List.flatMap_cons ..

@[simp] theorem bytesOf_append (chars more : List Char) :
    bytesOf (chars ++ more) = bytesOf chars ++ bytesOf more := List.flatMap_append ..

theorem utf8_ofList (chars : List Char) : utf8 (String.ofList chars) = bytesOf chars := by
  simp [utf8, bytesOf, String.toUTF8, List.utf8Encode]

theorem utf8?_bytesOf (chars : List Char) : utf8? (bytesOf chars) = some (String.ofList chars) := by
  have same : (⟨(bytesOf chars).toArray⟩ : ByteArray) = (String.ofList chars).toByteArray :=
    ByteArray.ext (by simp [bytesOf, List.utf8Encode])
  rw [utf8?, same, String.fromUTF8?, dif_pos (String.ofList chars).isValidUTF8]
  rfl

theorem utf8EncodeChar_of_ascii {c : Char} (h : c.toNat < 0x80) :
    String.utf8EncodeChar c = [UInt8.ofNat c.toNat] := by
  have small : c.val.toNat ≤ 0x7F := Nat.le_of_lt_succ h
  rw [String.utf8EncodeChar, if_pos small]
  rfl

theorem le_of_mem_utf8EncodeChar {c : Char} (h : 0x80 ≤ c.toNat) :
    ∀ b ∈ String.utf8EncodeChar c, 0x80 ≤ b.toNat := by
  intro b hb
  have large : ¬ c.val.toNat ≤ 0x7F := Nat.not_le.2 h
  rw [String.utf8EncodeChar, if_neg large] at hb
  split at hb
  · simp only [List.mem_cons, List.not_mem_nil, or_false] at hb
    rcases hb with rfl | rfl <;> simp only [UInt8.toNat_ofNat'] <;> omega
  · split at hb
    · simp only [List.mem_cons, List.not_mem_nil, or_false] at hb
      rcases hb with rfl | rfl | rfl <;> simp only [UInt8.toNat_ofNat'] <;> omega
    · simp only [List.mem_cons, List.not_mem_nil, or_false] at hb
      rcases hb with rfl | rfl | rfl | rfl <;> simp only [UInt8.toNat_ofNat'] <;> omega

namespace Quoted

/-- One of the ways to write a character between quotes. -/
inductive SpellsChar : Char → Bytes → Prop
  | plain {c : Char} (visible : 0x20 ≤ c.toNat) (unquoted : c.toNat ≠ 0x22)
      (unescaped : c.toNat ≠ 0x5C) : SpellsChar c (String.utf8EncodeChar c)
  | letter {c : Char} {e b : UInt8} (meaning : shortEscape? e = some b) (same : c.toNat = b.toNat) :
      SpellsChar c [Byte.backslash, e]
  | unit {c : Char} {h₁ h₂ h₃ h₄ : UInt8} (digits : unit? h₁ h₂ h₃ h₄ = some c.toNat) :
      SpellsChar c [Byte.backslash, Byte.letterU, h₁, h₂, h₃, h₄]
  | pair {c : Char} {h₁ h₂ h₃ h₄ l₁ l₂ l₃ l₄ : UInt8} {high low : Nat}
      (first : unit? h₁ h₂ h₃ h₄ = some high) (leading : 0xD800 ≤ high ∧ high ≤ 0xDBFF)
      (second : unit? l₁ l₂ l₃ l₄ = some low) (trailing : 0xDC00 ≤ low ∧ low ≤ 0xDFFF)
      (same : c.toNat = 0x10000 + (high - 0xD800) * 0x400 + (low - 0xDC00)) :
      SpellsChar c [Byte.backslash, Byte.letterU, h₁, h₂, h₃, h₄,
        Byte.backslash, Byte.letterU, l₁, l₂, l₃, l₄]

inductive Spells : List Char → Bytes → Prop
  | nil : Spells [] []
  | cons {c : Char} {chars : List Char} {bytes content : Bytes} (first : SpellsChar c bytes)
      (rest : Spells chars content) : Spells (c :: chars) (bytes ++ content)

/-- A character that may stand for itself between quotes. -/
def isPlain (c : Char) : Bool := 0x20 ≤ c.toNat && c.toNat != 0x22 && c.toNat != 0x5C

theorem spells_plain (chars : List Char) (plain : chars.all isPlain = true) :
    Spells chars (bytesOf chars) := by
  induction chars with
  | nil => exact .nil
  | cons c chars ih =>
      simp only [List.all_cons, Bool.and_eq_true, isPlain, decide_eq_true_eq, bne_iff_ne] at plain
      obtain ⟨⟨⟨visible, unquoted⟩, unescaped⟩, rest⟩ := plain
      exact .cons (.plain visible unquoted unescaped) (ih rest)

/-- A byte that stands for itself between quotes. -/
structure Ordinary (b : UInt8) : Prop where
  ne_quote : b ≠ Byte.quote
  ne_backslash : b ≠ Byte.backslash
  visible : Byte.isControl b = false

theorem ordinary_of_mem_encode {c : Char} (visible : 0x20 ≤ c.toNat) (unquoted : c.toNat ≠ 0x22)
    (unescaped : c.toNat ≠ 0x5C) : ∀ b ∈ String.utf8EncodeChar c, Ordinary b := by
  intro b hb
  have h : 0x20 ≤ b.toNat ∧ b.toNat ≠ 0x22 ∧ b.toNat ≠ 0x5C := by
    rcases Nat.lt_or_ge c.toNat 0x80 with small | large
    · rw [utf8EncodeChar_of_ascii small, List.mem_singleton] at hb
      rw [hb, UInt8.toNat_ofNat', Nat.mod_eq_of_lt (by omega)]
      exact ⟨visible, unquoted, unescaped⟩
    · have := le_of_mem_utf8EncodeChar large b hb
      omega
  refine ⟨?_, ?_, ?_⟩
  · rintro rfl
    exact h.2.1 rfl
  · rintro rfl
    exact h.2.2 rfl
  · have : ¬ b < 0x20 := by
      rw [UInt8.lt_iff_toNat_lt]
      exact Nat.not_lt.2 h.1
    simpa [Byte.isControl] using this

theorem scan_ordinary {b : UInt8} (h : Ordinary b) (text : Bytes) :
    scan (b :: text) = push b (scan text) := by
  rw [scan]
  · rw [if_neg (by simp [h.visible])]
  · exact h.ne_quote
  all_goals
    intros
    exact absurd ‹_› h.ne_backslash

theorem scan_letter {e : UInt8} (h : (shortEscape? e).isSome) (text : Bytes) :
    scan ([Byte.backslash, e] ++ text) = [Byte.backslash, e].foldr push (scan text) := by
  have noUnit : e ≠ Byte.letterU := by
    rintro rfl
    exact absurd h (by decide)
  exact (scan.eq_5 e text (fun _ _ _ _ _ same => absurd same noUnit) noUnit).trans (if_pos h)

theorem scan_unit {h₁ h₂ h₃ h₄ : UInt8} (h : (unit? h₁ h₂ h₃ h₄).isSome) (text : Bytes) :
    scan ([Byte.backslash, Byte.letterU, h₁, h₂, h₃, h₄] ++ text) =
      [Byte.backslash, Byte.letterU, h₁, h₂, h₃, h₄].foldr push (scan text) :=
  (scan.eq_3 h₁ h₂ h₃ h₄ text).trans (if_pos h)

theorem scan_run {bytes : Bytes} (ordinary : ∀ b ∈ bytes, Ordinary b) (text : Bytes) :
    scan (bytes ++ text) = bytes.foldr push (scan text) := by
  induction bytes with
  | nil => rfl
  | cons b bytes ih =>
      rw [List.cons_append, scan_ordinary (ordinary b List.mem_cons_self),
        ih fun b hb => ordinary b (List.mem_cons_of_mem _ hb)]
      rfl

theorem scan_spelledChar {c : Char} {bytes : Bytes} (h : SpellsChar c bytes) (text : Bytes) :
    scan (bytes ++ text) = bytes.foldr push (scan text) := by
  cases h with
  | plain visible unquoted unescaped =>
      exact scan_run (ordinary_of_mem_encode visible unquoted unescaped) text
  | letter meaning => exact scan_letter (Option.isSome_of_eq_some meaning) text
  | unit digits => exact scan_unit (Option.isSome_of_eq_some digits) text
  | @pair _ _ _ _ l₁ l₂ l₃ l₄ _ _ first _ second =>
      have inner := scan_unit (Option.isSome_of_eq_some second) text
      have outer := scan_unit (Option.isSome_of_eq_some first)
        ([Byte.backslash, Byte.letterU, l₁, l₂, l₃, l₄] ++ text)
      rw [inner] at outer
      exact outer

theorem foldr_push (bytes content rest : Bytes) :
    bytes.foldr push (.ok (content, rest)) = .ok (bytes ++ content, rest) := by
  induction bytes with
  | nil => rfl
  | cons b bytes ih => rw [List.foldr_cons, ih]; rfl

/-- A spelled string ends at the first quote after it. -/
theorem scan_spelled {chars : List Char} {content : Bytes} (h : Spells chars content)
    (rest : Bytes) : scan (content ++ Byte.quote :: rest) = .ok (content, rest) := by
  induction h with
  | nil => rfl
  | cons first _ ih => rw [List.append_assoc, scan_spelledChar first, ih, foldr_push]

theorem unescape_ordinary {b : UInt8} (h : Ordinary b) (text : Bytes) :
    unescape (b :: text) = (unescape text).map (b :: ·) := by
  rw [unescape]
  · rw [if_neg (by simp [h.visible])]
  all_goals
    intros
    exact absurd ‹_› h.ne_backslash

theorem unescape_letter {e b : UInt8} (h : shortEscape? e = some b) (text : Bytes) :
    unescape ([Byte.backslash, e] ++ text) = (unescape text).map (b :: ·) := by
  have noUnit : e ≠ Byte.letterU := by
    rintro rfl
    cases h
  have step := unescape.eq_4 e text (fun _ _ _ _ _ same => absurd same noUnit) noUnit
  rw [h] at step
  exact step

theorem emit_of_encode {c : Char} {b : UInt8} (h : c.toNat = b.toNat) (small : b.toNat < 0x80)
    (r : Except Fault Bytes) : emit c r = r.map (b :: ·) := by
  rw [← h] at small
  rw [emit, utf8EncodeChar_of_ascii small, h, UInt8.ofNat_toNat]
  rfl

theorem ascii_of_shortEscape {e b : UInt8} (h : shortEscape? e = some b) : b.toNat < 0x80 := by
  unfold shortEscape? at h
  split at h
  all_goals
    cases h
    try decide

theorem isSurrogate_toNat (c : Char) : isLeading c.toNat = false ∧ isTrailing c.toNat = false := by
  have valid : c.toNat < 0xD800 ∨ 0xDFFF < c.toNat ∧ c.toNat < 0x110000 := c.valid
  simp only [isLeading, isTrailing, Bool.and_eq_false_iff, decide_eq_false_iff_not]
  omega

theorem unescape_unit {h₁ h₂ h₃ h₄ : UInt8} {c : Char} (h : unit? h₁ h₂ h₃ h₄ = some c.toNat)
    (text : Bytes) :
    unescape ([Byte.backslash, Byte.letterU, h₁, h₂, h₃, h₄] ++ text) = emit c (unescape text) := by
  have step := unescape.eq_2 h₁ h₂ h₃ h₄ text
  obtain ⟨notLeading, notTrailing⟩ := isSurrogate_toNat c
  rw [h] at step
  simp only [notLeading, notTrailing, Char.ofNat_toNat] at step
  exact step

theorem unescape_pair {h₁ h₂ h₃ h₄ l₁ l₂ l₃ l₄ : UInt8} {high low : Nat} {c : Char}
    (first : unit? h₁ h₂ h₃ h₄ = some high) (leading : 0xD800 ≤ high ∧ high ≤ 0xDBFF)
    (second : unit? l₁ l₂ l₃ l₄ = some low) (trailing : 0xDC00 ≤ low ∧ low ≤ 0xDFFF)
    (same : c.toNat = 0x10000 + (high - 0xD800) * 0x400 + (low - 0xDC00)) (text : Bytes) :
    unescape ([Byte.backslash, Byte.letterU, h₁, h₂, h₃, h₄,
      Byte.backslash, Byte.letterU, l₁, l₂, l₃, l₄] ++ text) = emit c (unescape text) := by
  have step := unescape.eq_2 h₁ h₂ h₃ h₄ (Byte.backslash :: Byte.letterU :: l₁ :: l₂ :: l₃ :: l₄ :: text)
  have isLead : isLeading high = true := by simp [isLeading, leading]
  have isTrail : isTrailing low = true := by simp [isTrailing, trailing]
  have notTrail : isTrailing high = false := by
    simp only [isTrailing, Bool.and_eq_false_iff, decide_eq_false_iff_not]
    omega
  have pairs : pair high low = c := by rw [pair, ← same, Char.ofNat_toNat]
  rw [first] at step
  refine step.trans ?_
  simp only [notTrail, isLead, if_true]
  rw [if_neg Bool.false_ne_true]
  -- of the ways the text can go on after a leading surrogate, only a second escape is this one
  split
  case h_3 escaped =>
    cases escaped
    simp only [second, isTrail, if_true, pairs]
  case h_4 short escaped =>
    cases escaped
    exact absurd rfl (short _ _ _ _ _)
  case h_5 unescaped => exact absurd rfl (unescaped _)
  all_goals
    exact absurd ‹_› (by simp)

theorem unescape_spelledChar {c : Char} {bytes : Bytes} (h : SpellsChar c bytes) (text : Bytes) :
    unescape (bytes ++ text) = emit c (unescape text) := by
  cases h with
  | plain visible unquoted unescaped =>
      have ordinary := ordinary_of_mem_encode visible unquoted unescaped
      rw [emit]
      generalize String.utf8EncodeChar c = bytes at ordinary
      induction bytes with
      | nil => rw [List.nil_append]; cases unescape text <;> rfl
      | cons b bytes ih =>
          rw [List.cons_append, unescape_ordinary (ordinary b List.mem_cons_self),
            ih fun b hb => ordinary b (List.mem_cons_of_mem _ hb)]
          cases unescape text <;> rfl
  | letter meaning same =>
      rw [unescape_letter meaning, emit_of_encode same (ascii_of_shortEscape meaning)]
  | unit digits => exact unescape_unit digits text
  | pair first leading second trailing same =>
      exact unescape_pair first leading second trailing same text

theorem unescape_spelled {chars : List Char} {content : Bytes} (h : Spells chars content) :
    unescape content = .ok (bytesOf chars) := by
  induction h with
  | nil => rfl
  | cons first _ ih =>
      rw [unescape_spelledChar first, ih, bytesOf_cons]
      rfl

/-- A spelled string is understood as what it spells. -/
theorem text?_spelled {chars : List Char} {content : Bytes} (h : Spells chars content) :
    text? content = some (String.ofList chars) := by
  simp only [text?, unescape_spelled h, utf8?_bytesOf]

theorem spells_inj {chars others : List Char} {content : Bytes} (h : Spells chars content)
    (h' : Spells others content) : chars = others := by
  have same := (text?_spelled h).symm.trans (text?_spelled h')
  exact String.ofList_injective (Option.some.inj same)

end Quoted

end FabricSurvey.Json
