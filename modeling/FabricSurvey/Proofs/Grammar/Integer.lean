import Mathlib.Data.List.Induction
import FabricSurvey.Proofs.Grammar.Range
import FabricSurvey.Proofs.Truncation

/-!
# Integer numerals

A numeral without fraction and exponent is an integer as it is written. Whoever asks for an integer is
given that one or nothing: it is never cut to some number of bits. The digits of a number are the only ones
that are read as it.
-/

namespace FabricSurvey.Json

namespace Numeral

/-- The integer that is written, if neither a fraction nor an exponent is. -/
def integer? (n : Numeral) : Option Int :=
  if n.fraction = [] ∧ n.exponent = none then
    some (if n.negative then -(digitsValue n.whole : Int) else digitsValue n.whole)
  else none

theorem absorb_eq_digitsValue {whole : Bytes} (all : (absorb 0 whole).2 = []) :
    (absorb 0 whole).1 = digitsValue whole := by
  have kept := valueFrom_absorb 0 whole
  rwa [all, valueFrom_nil] at kept

theorem integer?_of_number? {n : Numeral} {value : Int} (h : n.number? = some (.integer value)) :
    n.integer? = some value ∧ (n.negative = true → value < 0) := by
  have noFloat (overflow : Bool) :
      (if overflow then none else some Number.floating) ≠ some (.integer value) := by
    cases overflow <;> simp
  unfold number? at h
  dsimp only at h
  split at h
  · rename_i plain
    simp only [Bool.and_eq_true, List.isEmpty_iff, Option.isNone_iff_eq_none] at plain
    obtain ⟨⟨noFraction, noExponent⟩, all⟩ := plain
    have significand : n.scientific.1 = digitsValue n.whole := by
      rw [← absorb_eq_digitsValue all]
      simp [scientific, noFraction, absorb]
    rw [significand] at h
    rw [integer?, if_pos ⟨noFraction, noExponent⟩]
    cases negative : n.negative with
    | false =>
        rw [negative] at h
        cases h
        exact ⟨rfl, fun minus => absurd minus Bool.false_ne_true⟩
    | true =>
        rw [negative, if_pos rfl] at h
        split at h
        · rename_i fits
          cases h
          simp only [Bool.and_eq_true, decide_eq_true_eq] at fits
          refine ⟨rfl, fun _ => ?_⟩
          omega
        · exact absurd h (noFloat _)
  · exact absurd h (noFloat _)

theorem digitsValue_concat (digits : Bytes) (d : UInt8) :
    digitsValue (digits ++ [d]) = digitsValue digits * 10 + Byte.digitValue d := by
  rw [digitsValue, digitsValue, List.foldl_append, List.foldl_cons, List.foldl_nil]

theorem digit_of_isDigit {d : UInt8} (h : Byte.isDigit d = true) :
    Byte.digitValue d < 10 ∧ digitsOf (Byte.digitValue d) = [d] := by
  have bounds : 0x30 ≤ d.toNat ∧ d.toNat ≤ 0x39 := by
    simpa [Byte.isDigit, UInt8.le_iff_toNat_le] using h
  have written : ∀ n < 10, digitsOf n = [UInt8.ofNat (n + 0x30)] := by decide
  have small : Byte.digitValue d < 10 := by
    rw [Byte.digitValue]
    omega
  have same : UInt8.ofNat (Byte.digitValue d + 0x30) = d := by
    rw [Byte.digitValue, Nat.sub_add_cancel bounds.1, UInt8.ofNat_toNat]
  exact ⟨small, by rw [written _ small, same]⟩

theorem digitsOf_append {value d : Nat} (positive : 0 < value) (small : d < 10) :
    digitsOf (value * 10 + d) = digitsOf value ++ digitsOf d := by
  rw [digitsOf_eq, digitsOf_eq, digitsOf_eq, ← List.map_append, Nat.mul_comm,
    Nat.toDigits_append_toDigits (by decide) positive small]

theorem digitsOf_digitsValue {digits : Bytes} (run : Digits digits)
    (canonical : digits.head? = some Byte.zero → digits = [Byte.zero]) :
    digitsOf (digitsValue digits) = digits := by
  induction digits using List.reverseRecOn with
  | nil => exact absurd rfl run.ne_nil
  | append_singleton digits d ih =>
      obtain ⟨small, last⟩ := digit_of_isDigit (run.digit d (by simp))
      cases digits with
      | nil => simpa [digitsValue] using last
      | cons first more =>
          have nonzero : first ≠ Byte.zero := by
            rintro rfl
            exact absurd (canonical rfl) (by simp)
          have front : digitsOf (digitsValue (first :: more)) = first :: more := by
            refine ih ⟨List.cons_ne_nil _ _, fun e he => run.digit e (List.mem_append_left _ he)⟩ ?_
            exact fun zero => absurd (Option.some.inj zero) nonzero
          have positive : 0 < digitsValue (first :: more) := by
            refine Nat.pos_of_ne_zero fun zero => nonzero ?_
            rw [zero] at front
            exact (List.cons.inj front).1.symm
          rw [digitsValue_concat, digitsOf_append positive small, front, last]

theorem digitsOf_injective : Function.Injective digitsOf :=
  Function.LeftInverse.injective digitsValue_digitsOf

theorem Spells.eq_digitsOf {n : Numeral} {text : Bytes} (h : n.Spells text) {value : Nat}
    (written : n.integer? = some (value : Int)) (unsigned : n.negative = false) :
    text = digitsOf value := by
  obtain @⟨negative, whole, fraction, point, power, exponent, digits, canonical, fractional,
    scaled⟩ := h
  obtain rfl : negative = false := unsigned
  unfold integer? at written
  split at written
  · rename_i plain
    obtain ⟨rfl, rfl⟩ := plain
    cases scaled
    cases fractional with
    | absent =>
        have same : digitsValue whole = value := by simpa using written
        rw [← same, digitsOf_digitsValue digits canonical]
        simp
    | present digits => exact absurd rfl digits.ne_nil
  · cases written

theorem ordinary_of_mem_digitsOf {n : Nat} : ∀ b ∈ digitsOf n, Quoted.Ordinary b := by
  intro b hb
  have bounds : 0x30 ≤ b.toNat ∧ b.toNat ≤ 0x39 := by
    simpa [Byte.isDigit, UInt8.le_iff_toNat_le] using (digits_digitsOf n).digit b hb
  refine ⟨?_, ?_, ?_⟩
  · rintro rfl
    exact absurd bounds (by decide)
  · rintro rfl
    exact absurd bounds (by decide)
  · have : ¬ b < 0x20 := by
      rw [UInt8.lt_iff_toNat_lt]
      exact Nat.not_lt.2 (Nat.le_trans (by decide) bounds.1)
    simpa [Byte.isControl] using this

theorem scan_digitsOf (n : Nat) (rest : Bytes) :
    Quoted.scan (digitsOf n ++ Byte.quote :: rest) = .ok (digitsOf n, rest) := by
  have quote : Quoted.scan (Byte.quote :: rest) = .ok ([], rest) := rfl
  rw [Quoted.scan_run ordinary_of_mem_digitsOf, quote, Quoted.foldr_push, List.append_nil]

end Numeral

/-- The integer that is given is the one that is written, and it lies between the bounds. -/
theorem exists_integer {low high value : Int} {expected : Expected} {draft : Draft}
    (h : integerIn low high expected draft = .ok value) :
    ∃ n, draft = .number n ∧ n.integer? = some value ∧ (n.negative = true → value < 0) ∧
      low ≤ value ∧ value ≤ high := by
  cases draft with
  | number n =>
      obtain ⟨number, understood, h⟩ := bind_eq_ok_iff.1 h
      cases number with
      | floating => cases h
      | integer found =>
          dsimp only at h
          split at h
          · rename_i inside
            cases h
            simp only [Bool.and_eq_true, decide_eq_true_eq] at inside
            have read : n.number? = some (.integer value) := by
              unfold numberOf at understood
              split at understood
              · rename_i found
                rw [found, Except.ok.inj understood]
              · cases understood
            obtain ⟨written, negative⟩ := Numeral.integer?_of_number? read
            exact ⟨n, rfl, written, negative, inside⟩
          · cases h
  | _ => exact absurd h mismatch_ne_ok

/-- A word is never cut: the numeral that it is read from is written as the same number. -/
theorem exists_word {draft : Draft} {word : UInt32} (h : decodeWord draft = .ok word) :
    ∃ n, draft = .number n ∧ n.integer? = some (word.toNat : Int) ∧ n.negative = false := by
  obtain ⟨value, asked, same⟩ := bind_eq_ok_iff.1 h
  obtain rfl := Except.ok.inj same
  obtain ⟨n, rfl, written, negative, low, high⟩ := exists_integer asked
  have whole : (UInt32.ofNat value.toNat).toNat = value.toNat :=
    UInt32.toNat_ofNat_of_lt' (by change value.toNat < 4294967296; omega)
  refine ⟨n, rfl, ?_, Bool.eq_false_iff.2 fun minus => ?_⟩
  · rw [whole, Int.toNat_of_nonneg low]
    exact written
  · have := negative minus
    omega

end FabricSurvey.Json
