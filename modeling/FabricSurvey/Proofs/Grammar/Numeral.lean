import FabricSurvey.Json.Shape
import FabricSurvey.Proofs.Grammar.Character

/-!
# Spelled numerals

A numeral is spelled by a sign, whole digits without a leading zero, a fraction and an exponent, the last
two being optional. It is read up to the first byte that cannot go on with it. An integer has one
spelling without fraction and exponent, and that spelling is read as the same integer.
-/

namespace FabricSurvey.Json

namespace Numeral

structure Digits (run : Bytes) : Prop where
  ne_nil : run ≠ []
  digit : ∀ d ∈ run, Byte.isDigit d = true

inductive SpellsFraction : Bytes → Bytes → Prop
  | absent : SpellsFraction [] []
  | present {run : Bytes} (digits : Digits run) : SpellsFraction run (Byte.point :: run)

inductive SpellsSign : Bool → Bytes → Prop
  | unsigned : SpellsSign false []
  | plus : SpellsSign false [Byte.plus]
  | minus : SpellsSign true [Byte.minus]

inductive SpellsExponent : Option Exponent → Bytes → Prop
  | absent : SpellsExponent none []
  | present {letter : UInt8} {negative : Bool} {sign run : Bytes}
      (mark : letter = 0x65 ∨ letter = 0x45) (signed : SpellsSign negative sign)
      (digits : Digits run) : SpellsExponent (some ⟨negative, run⟩) (letter :: (sign ++ run))

inductive Spells : Numeral → Bytes → Prop
  | intro {negative : Bool} {whole fraction written power : Bytes} {exponent : Option Exponent}
      (digits : Digits whole) (canonical : whole.head? = some Byte.zero → whole = [Byte.zero])
      (fractional : SpellsFraction fraction written) (scaled : SpellsExponent exponent power) :
      Spells ⟨negative, whole, fraction, exponent⟩
        ((if negative then [Byte.minus] else []) ++ (whole ++ (written ++ power)))

/-- No digit, point or exponent comes next. -/
def Ends (rest : Bytes) : Prop :=
  ∀ b ∈ rest.head?, Byte.isDigit b = false ∧ b ≠ Byte.point ∧ b ≠ 0x65 ∧ b ≠ 0x45

theorem takeWhile_digits {run rest : Bytes} (digits : ∀ d ∈ run, Byte.isDigit d = true)
    (ends : ∀ b ∈ rest.head?, Byte.isDigit b = false) :
    (run ++ rest).takeWhile Byte.isDigit = run ∧ (run ++ rest).dropWhile Byte.isDigit = rest := by
  induction run with
  | nil =>
      cases rest with
      | nil => exact ⟨rfl, rfl⟩
      | cons b rest =>
          have stop := ends b rfl
          simp [stop]
  | cons d run ih =>
      have hd := digits d List.mem_cons_self
      have hrun := ih fun d hd => digits d (List.mem_cons_of_mem _ hd)
      simp [hd, hrun]

theorem scanDigits_spelled {run rest : Bytes} (digits : Digits run)
    (ends : ∀ b ∈ rest.head?, Byte.isDigit b = false) : scanDigits (run ++ rest) = .ok (run, rest) := by
  obtain ⟨taken, dropped⟩ := takeWhile_digits digits.digit ends
  rw [scanDigits, taken, dropped]
  cases run with
  | nil => exact absurd rfl digits.ne_nil
  | cons d run => rfl

theorem scanWhole_spelled {run rest : Bytes} (digits : Digits run)
    (canonical : run.head? = some Byte.zero → run = [Byte.zero])
    (ends : ∀ b ∈ rest.head?, Byte.isDigit b = false) : scanWhole (run ++ rest) = .ok (run, rest) := by
  cases run with
  | nil => exact absurd rfl digits.ne_nil
  | cons d run =>
      by_cases zero : d = Byte.zero
      · subst zero
        obtain rfl : run = [] := (List.cons.inj (canonical rfl)).2
        cases rest with
        | nil => rfl
        | cons b rest => exact if_neg (by rw [ends b rfl]; decide)
      · have hd := digits.digit d List.mem_cons_self
        obtain ⟨taken, dropped⟩ :=
          takeWhile_digits (fun d hd => digits.digit d (List.mem_cons_of_mem _ hd)) ends
        rw [List.cons_append, scanWhole, if_pos hd, taken, dropped]
        exact zero

theorem scanFraction_spelled {fraction written rest : Bytes} (h : SpellsFraction fraction written)
    (ends : ∀ b ∈ rest.head?, Byte.isDigit b = false ∧ b ≠ Byte.point) :
    scanFraction (written ++ rest) = .ok (fraction, rest) := by
  cases h with
  | absent =>
      cases rest with
      | nil => rfl
      | cons b rest => exact scanFraction.eq_2 _ (fun _ same => (ends b rfl).2 (List.cons.inj same).1)
  | present digits => exact scanDigits_spelled digits fun b hb => (ends b hb).1

theorem scanSign_spelled {negative : Bool} {sign run : Bytes} (h : SpellsSign negative sign)
    (digits : Digits run) (rest : Bytes) : scanSign (sign ++ (run ++ rest)) = (negative, run ++ rest) := by
  cases h with
  | plus => rfl
  | minus => rfl
  | unsigned =>
      cases run with
      | nil => exact absurd rfl digits.ne_nil
      | cons d run =>
          have hd := digits.digit d List.mem_cons_self
          have notMinus : d ≠ Byte.minus := by rintro rfl; exact absurd hd (by decide)
          have notPlus : d ≠ Byte.plus := by rintro rfl; exact absurd hd (by decide)
          exact scanSign.eq_3 _ (fun _ same => notMinus (List.cons.inj same).1)
            (fun _ same => notPlus (List.cons.inj same).1)

theorem scanExponent_spelled {exponent : Option Exponent} {power rest : Bytes}
    (h : SpellsExponent exponent power) (ends : Ends rest) :
    scanExponent (power ++ rest) = .ok (exponent, rest) := by
  cases h with
  | absent =>
      cases rest with
      | nil => rfl
      | cons b rest =>
          obtain ⟨-, -, notSmall, notLarge⟩ := ends b rfl
          simp [scanExponent, notSmall, notLarge]
  | @present letter _ sign run mark signed digits =>
      have hletter : (letter == 0x65 || letter == 0x45) = true := by
        rcases mark with rfl | rfl <;> rfl
      have hdigits := scanDigits_spelled digits fun b hb => (ends b hb).1
      rw [List.cons_append, List.append_assoc, scanExponent, if_pos hletter,
        scanSign_spelled signed digits]
      simp only [hdigits, bind, Except.bind]

theorem SpellsExponent.head {exponent : Option Exponent} {power rest : Bytes}
    (h : SpellsExponent exponent power) (ends : Ends rest) :
    ∀ b ∈ (power ++ rest).head?, Byte.isDigit b = false ∧ b ≠ Byte.point := by
  intro b hb
  cases h with
  | absent => exact ⟨(ends b hb).1, (ends b hb).2.1⟩
  | present mark =>
      obtain rfl := Option.some.inj hb
      rcases mark with rfl | rfl <;> exact ⟨rfl, by decide⟩

theorem SpellsFraction.head {fraction written rest : Bytes} (h : SpellsFraction fraction written)
    (ends : ∀ b ∈ rest.head?, Byte.isDigit b = false ∧ b ≠ Byte.point) :
    ∀ b ∈ (written ++ rest).head?, Byte.isDigit b = false := by
  intro b hb
  cases h with
  | absent => exact (ends b hb).1
  | present =>
      obtain rfl := Option.some.inj hb
      rfl

/-- A spelled numeral is read up to what comes after it. -/
theorem scan_spelled {numeral : Numeral} {text rest : Bytes} (h : Spells numeral text)
    (ends : Ends rest) : scan (text ++ rest) = .ok (numeral, rest) := by
  cases h with
  | @intro negative whole fraction written power exponent digits canonical fractional scaled =>
      have hexponent := scanExponent_spelled scaled ends
      have hfraction := scanFraction_spelled fractional (scaled.head ends)
      have hwhole := scanWhole_spelled digits canonical (fractional.head (scaled.head ends))
      rw [List.append_assoc, List.append_assoc, List.append_assoc]
      cases negative with
      | true =>
          rw [if_pos rfl, List.singleton_append]
          refine (scan.eq_1 _).trans ?_
          simp only [hwhole, hfraction, hexponent, bind, Except.bind]
      | false =>
          rw [if_neg Bool.false_ne_true, List.nil_append]
          cases whole with
          | nil => exact absurd rfl digits.ne_nil
          | cons d whole =>
              have unsigned : d ≠ Byte.minus := by
                rintro rfl
                exact absurd (digits.digit _ List.mem_cons_self) (by decide)
              rw [List.cons_append] at hwhole ⊢
              rw [scan]
              · simp only [hwhole, hfraction, hexponent, bind, Except.bind]
              · intro _ same
                exact unsigned (List.cons.inj same).1

/-- The decimal digits of a natural number. -/
def digitsOf (n : Nat) : Bytes := bytesOf (Nat.toDigits 10 n)

/-- The numeral of an integer, without fraction and exponent. -/
def ofInt (value : Int) : Numeral := ⟨decide (value < 0), digitsOf value.natAbs, [], none⟩

theorem toNat_of_isDigit {c : Char} (h : c.isDigit) : 0x30 ≤ c.toNat ∧ c.toNat ≤ 0x39 := by
  simpa [Char.isDigit, UInt32.le_iff_toNat_le] using h

theorem bytesOf_digits {chars : List Char} (h : ∀ c ∈ chars, c.isDigit) :
    bytesOf chars = chars.map fun c => UInt8.ofNat c.toNat := by
  induction chars with
  | nil => rfl
  | cons c chars ih =>
      have hc := toNat_of_isDigit (h c List.mem_cons_self)
      rw [bytesOf_cons, utf8EncodeChar_of_ascii (by omega),
        ih fun c hc => h c (List.mem_cons_of_mem _ hc)]
      rfl

theorem isDigit_of_mem_toDigits {n : Nat} : ∀ c ∈ Nat.toDigits 10 n, c.isDigit :=
  fun _ => Nat.isDigit_of_mem_toDigits (by decide) (by decide)

theorem digitsOf_eq (n : Nat) : digitsOf n = (Nat.toDigits 10 n).map fun c => UInt8.ofNat c.toNat :=
  bytesOf_digits isDigit_of_mem_toDigits

theorem digits_digitsOf (n : Nat) : Digits (digitsOf n) where
  ne_nil := by simp [digitsOf_eq, Nat.toDigits_ne_nil]
  digit := by
    intro d hd
    rw [digitsOf_eq, List.mem_map] at hd
    obtain ⟨c, hc, rfl⟩ := hd
    have := toNat_of_isDigit (isDigit_of_mem_toDigits c hc)
    simp only [Byte.isDigit, UInt8.le_iff_toNat_le, UInt8.toNat_ofNat', Bool.and_eq_true,
      decide_eq_true_eq]
    change 0x30 ≤ _ ∧ _ ≤ 0x39
    omega

theorem eq_zero_of_head?_toDigits {n : Nat} (h : (Nat.toDigits 10 n).head? = some '0') : n = 0 := by
  induction n using Nat.strongRecOn with
  | ind n ih =>
      rw [Nat.toDigits_eq_if (by decide)] at h
      split at h
      · rename_i small
        rw [List.head?_cons, Option.some.injEq] at h
        have single : ∀ n < 10, n.digitChar = '0' → n = 0 := by decide
        exact single n small h
      · rename_i large
        obtain ⟨c, more, hc⟩ := List.exists_cons_of_ne_nil (Nat.toDigits_ne_nil (b := 10) (n := n / 10))
        have := ih (n / 10) (by omega) (by rw [hc] at h ⊢; exact h)
        omega

theorem head?_digitsOf {n : Nat} (h : (digitsOf n).head? = some Byte.zero) :
    digitsOf n = [Byte.zero] := by
  have hzero : n = 0 := by
    apply eq_zero_of_head?_toDigits
    rw [digitsOf_eq, List.head?_map, Option.map_eq_some_iff] at h
    obtain ⟨c, hc, same⟩ := h
    have hdigit := toNat_of_isDigit (isDigit_of_mem_toDigits c (List.mem_of_head? hc))
    have value : c.toNat = 0x30 := by
      have := congrArg UInt8.toNat same
      rw [UInt8.toNat_ofNat', Nat.mod_eq_of_lt (by omega)] at this
      exact this
    rw [hc, ← Char.ofNat_toNat c, value]
  subst hzero
  decide

/-- The value of a run of digits behind digits of some value. -/
def valueFrom (value : Nat) (digits : Bytes) : Nat :=
  digits.foldl (fun n d => n * 10 + Byte.digitValue d) value

@[simp] theorem valueFrom_nil (value : Nat) : valueFrom value [] = value := rfl

theorem valueFrom_cons (value : Nat) (d : UInt8) (digits : Bytes) :
    valueFrom value (d :: digits) = valueFrom (value * 10 + Byte.digitValue d) digits := by
  rw [valueFrom, List.foldl_cons, valueFrom]

theorem valueFrom_map {chars : List Char} (h : ∀ c ∈ chars, c.isDigit) (value : Nat) :
    valueFrom value (chars.map fun c => UInt8.ofNat c.toNat) = Nat.ofDigitChars 10 chars value := by
  induction chars generalizing value with
  | nil => rfl
  | cons c chars ih =>
      have hc := toNat_of_isDigit (h c List.mem_cons_self)
      have digit : Byte.digitValue (UInt8.ofNat c.toNat) = c.toNat - '0'.toNat := by
        rw [Byte.digitValue, UInt8.toNat_ofNat', Nat.mod_eq_of_lt (by omega)]
        rfl
      rw [List.map_cons, valueFrom_cons, ih fun c hc => h c (List.mem_cons_of_mem _ hc), digit,
        Nat.ofDigitChars_cons, Nat.mul_comm]

theorem digitsValue_digitsOf (n : Nat) : digitsValue (digitsOf n) = n := by
  rw [digitsOf_eq]
  exact (valueFrom_map isDigit_of_mem_toDigits 0).trans
    (Nat.ofDigitChars_toDigits (by decide) (by decide))

theorem spells_ofInt (value : Int) :
    Spells (ofInt value) ((if value < 0 then [Byte.minus] else []) ++ digitsOf value.natAbs) := by
  have h := @Spells.intro (decide (value < 0)) _ _ _ _ _ (digits_digitsOf value.natAbs)
    head?_digitsOf .absent .absent
  simpa [ofInt] using h

theorem le_valueFrom (value : Nat) (digits : Bytes) : value ≤ valueFrom value digits := by
  induction digits generalizing value with
  | nil => exact Nat.le_refl _
  | cons d digits ih =>
      have := ih (value * 10 + Byte.digitValue d)
      rw [valueFrom_cons]
      omega

theorem absorb_eq_of_le {digits : Bytes} {value : Nat} (h : valueFrom value digits ≤ maxSignificand) :
    absorb value digits = (valueFrom value digits, []) := by
  induction digits generalizing value with
  | nil => rfl
  | cons d digits ih =>
      have hnext := Nat.le_trans (le_valueFrom (value * 10 + Byte.digitValue d) digits) h
      rw [absorb, if_pos hnext, ih h]
      rfl

theorem scientific_ofInt {value : Int} (small : value.natAbs ≤ maxSignificand) :
    absorb 0 (ofInt value).whole = (value.natAbs, []) ∧
      (ofInt value).scientific = (value.natAbs, 0) := by
  have hvalue : valueFrom 0 (digitsOf value.natAbs) = value.natAbs := digitsValue_digitsOf value.natAbs
  have whole : absorb 0 (digitsOf value.natAbs) = (value.natAbs, []) := by
    rw [absorb_eq_of_le, hvalue]
    rwa [hvalue]
  exact ⟨whole, by simp [scientific, ofInt, whole, absorb]⟩

/-- An integer of 64 bits is read from its numeral as it is. -/
theorem number?_ofInt {value : Int} (low : -0x8000000000000000 ≤ value)
    (high : value ≤ 0xFFFFFFFFFFFFFFFF) : (ofInt value).number? = some (.integer value) := by
  obtain ⟨whole, significand⟩ := @scientific_ofInt value (by
    rw [maxSignificand]
    omega)
  simp only [number?, whole, significand]
  by_cases negative : value < 0
  · have positive : (0 < value.natAbs && value.natAbs ≤ 0x8000000000000000) = true := by
      simp only [Bool.and_eq_true, decide_eq_true_eq]
      omega
    simp only [ofInt, negative, decide_true, List.isEmpty_nil, Option.isNone_none, Bool.and_self,
      if_true, positive]
    congr 2
    omega
  · simp only [ofInt, negative, decide_false, List.isEmpty_nil, Option.isNone_none, Bool.and_self,
      if_true, Bool.false_eq_true, if_false]
    congr 2
    omega

end Numeral

theorem integerIn_ofInt {low high value : Int} {expected : Expected} (atLeast : low ≤ value)
    (atMost : value ≤ high) (lowest : -0x8000000000000000 ≤ low) (highest : high ≤ 0xFFFFFFFFFFFFFFFF) :
    integerIn low high expected (.number (.ofInt value)) = .ok value := by
  have number := Numeral.number?_ofInt (Int.le_trans lowest atLeast) (Int.le_trans atMost highest)
  have inside : (low ≤ value && value ≤ high) = true := by
    simp only [Bool.and_eq_true, decide_eq_true_eq]
    exact ⟨atLeast, atMost⟩
  simp only [integerIn, numberOf, number, bind, Except.bind, inside, if_true]

theorem decodeWord_ofInt (value : UInt32) :
    decodeWord (.number (.ofInt value.toNat)) = .ok value := by
  have small := value.toNat_lt
  rw [decodeWord, integerIn_ofInt (by omega) (by omega) (by decide) (by decide)]
  simp [bind, Except.bind]

theorem decodeCount_ofInt (value : Int64) :
    decodeCount (.number (.ofInt value.toInt)) = .ok value := by
  have atLeast := value.le_toInt
  have atMost := value.toInt_lt
  rw [decodeCount, integerIn_ofInt (by omega) (by omega) (by decide) (by decide)]
  simp [bind, Except.bind]

end FabricSurvey.Json
