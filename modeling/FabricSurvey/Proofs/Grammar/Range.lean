import Mathlib.Tactic.Ring
import FabricSurvey.Proofs.Grammar.Numeral

/-!
# Numerals in range

A numeral that is no plain integer is read as the product of two binary64 numbers: its first digits, as
many as fit 64 bits, and a power of ten. It is refused where this product overflows. Both factors are
rounded, so the last numbers below the greatest binary64 number may be lost, but no others are.
-/

namespace FabricSurvey.Json.Numeral

def StaysFinite (n : Numeral) : Prop := overflows n.scientific.1 n.scientific.2 = false

def power (n : Numeral) : Int :=
  (match n.exponent with
    | none => 0
    | some e => if e.negative then -(digitsValue e.digits : Int) else digitsValue e.digits) -
    n.fraction.length

/-- The magnitude of a numeral, exactly as it is written, is at most a bound. -/
def AtMost (bound : Nat) (n : Numeral) : Prop :=
  digitsValue (n.whole ++ n.fraction) * 10 ^ n.power.toNat ≤ bound * 10 ^ (-n.power).toNat

instance (bound : Nat) (n : Numeral) : Decidable (AtMost bound n) :=
  inferInstanceAs (Decidable (_ ≤ _))

theorem isSome_number?_iff (n : Numeral) : n.number?.isSome ↔ n.StaysFinite := by
  have float : ((if overflows n.scientific.1 n.scientific.2 then none else some Number.floating).isSome
      = true) ↔ n.StaysFinite := by
    rw [StaysFinite]
    cases overflows n.scientific.1 n.scientific.2 <;> simp
  by_cases plain : (n.fraction.isEmpty && n.exponent.isNone && (absorb 0 n.whole).2.isEmpty) = true
  · have unscaled : n.scientific.2 = 0 := by
      simp only [Bool.and_eq_true, List.isEmpty_iff, Option.isNone_iff_eq_none] at plain
      simp [scientific, plain, absorb]
    have finite : n.StaysFinite := by
      rw [StaysFinite, overflows, unscaled]
      simp
    simp only [number?, plain, if_true, finite, iff_true]
    split
    · split
      · rfl
      · exact float.2 finite
    · rfl
  · simp only [number?, plain]
    exact float

theorem valueFrom_append (value : Nat) (digits more : Bytes) :
    valueFrom value (digits ++ more) = valueFrom (valueFrom value digits) more := List.foldl_append ..

theorem mul_pow_le_valueFrom (value : Nat) (digits : Bytes) :
    value * 10 ^ digits.length ≤ valueFrom value digits := by
  induction digits generalizing value with
  | nil => simp
  | cons d digits ih =>
      calc value * 10 ^ (digits.length + 1)
          = value * 10 * 10 ^ digits.length := by rw [Nat.pow_succ, Nat.mul_comm (10 ^ _), Nat.mul_assoc]
        _ ≤ (value * 10 + Byte.digitValue d) * 10 ^ digits.length :=
            Nat.mul_le_mul_right _ (Nat.le_add_right _ _)
        _ ≤ valueFrom (value * 10 + Byte.digitValue d) digits := ih _

theorem valueFrom_absorb (value : Nat) (digits : Bytes) :
    valueFrom (absorb value digits).1 (absorb value digits).2 = valueFrom value digits := by
  fun_induction absorb value digits with
  | case1 => rfl
  | case2 value d digits next fits ih => exact ih
  | case3 => rfl

theorem absorb_le {value : Nat} (small : value ≤ maxSignificand) (digits : Bytes) :
    (absorb value digits).1 ≤ maxSignificand := by
  fun_induction absorb value digits with
  | case1 => exact small
  | case2 value d digits next fits ih => exact ih fits
  | case3 => exact small

theorem lt_of_absorb {value significand : Nat} {digits rest : Bytes} {d : UInt8}
    (h : absorb value digits = (significand, d :: rest)) :
    maxSignificand < significand * 10 + Byte.digitValue d := by
  fun_induction absorb value digits with
  | case1 => cases h
  | case2 value d' digits next fits ih => exact ih h
  | case3 value d' digits next tooBig =>
      cases h
      exact Nat.lt_of_not_le tooBig

theorem absorb_eq_self_or_lt (value : Nat) (digits : Bytes) :
    absorb value digits = (value, digits) ∨ (absorb value digits).2.length < digits.length := by
  fun_induction absorb value digits with
  | case1 => exact .inl rfl
  | case2 value d digits next fits ih =>
      right
      rcases ih with same | shorter
      · rw [same]
        exact Nat.lt_succ_self _
      · exact Nat.lt_succ_of_lt shorter
  | case3 => exact .inl rfl

theorem kept_le {whole fraction left dropped : Bytes} {first significand : Nat}
    (hwhole : absorb 0 whole = (first, left))
    (hfraction : absorb first fraction = (significand, dropped)) :
    significand * 10 ^ (left.length + dropped.length) ≤ digitsValue (whole ++ fraction) := by
  have wholeValue : valueFrom first left = valueFrom 0 whole := by
    have := valueFrom_absorb 0 whole
    rwa [hwhole] at this
  have total : digitsValue (whole ++ fraction) = valueFrom (valueFrom first left) fraction := by
    rw [wholeValue]
    exact valueFrom_append 0 whole fraction
  rw [total]
  cases left with
  | nil =>
      have fractionValue := valueFrom_absorb first fraction
      rw [hfraction] at fractionValue
      rw [valueFrom_nil, ← fractionValue, List.length_nil, Nat.zero_add]
      exact mul_pow_le_valueFrom significand dropped
  | cons d rest =>
      have tooBig := lt_of_absorb hwhole
      have firstSmall : first ≤ maxSignificand := by
        have := absorb_le (Nat.zero_le _) whole
        rwa [hwhole] at this
      have small : significand ≤ maxSignificand := by
        have := absorb_le firstSmall fraction
        rwa [hfraction] at this
      have behind := mul_pow_le_valueFrom (valueFrom first (d :: rest)) fraction
      refine Nat.le_trans ?_ behind
      -- the fraction may go on filling the significand after a whole digit was left out, but then that
      -- digit alone makes the numeral greater than any significand
      rcases absorb_eq_self_or_lt first fraction with same | shorter
      · obtain ⟨rfl, rfl⟩ := Prod.mk.inj (hfraction.symm.trans same)
        rw [Nat.pow_add, ← Nat.mul_assoc]
        exact Nat.mul_le_mul_right _ (mul_pow_le_valueFrom significand (d :: rest))
      · rw [hfraction] at shorter
        calc significand * 10 ^ (rest.length + 1 + dropped.length)
            ≤ significand * 10 ^ (rest.length + fraction.length) :=
              Nat.mul_le_mul_left _ (Nat.pow_le_pow_right (by decide) (by
                change dropped.length < fraction.length at shorter
                omega))
          _ = significand * 10 ^ rest.length * 10 ^ fraction.length := by
              rw [Nat.pow_add, Nat.mul_assoc]
          _ ≤ (first * 10 + Byte.digitValue d) * 10 ^ rest.length * 10 ^ fraction.length :=
              Nat.mul_le_mul_right _ (Nat.mul_le_mul_right _ (by omega))
          _ ≤ valueFrom first (d :: rest) * 10 ^ fraction.length :=
              Nat.mul_le_mul_right _ (mul_pow_le_valueFrom _ rest)

theorem scientific_le {n : Numeral} {bound : Nat} (h : n.AtMost bound) (large : 0 ≤ n.scientific.2) :
    n.scientific.1 * 10 ^ n.scientific.2.toNat ≤ bound := by
  generalize hwhole : absorb 0 n.whole = whole at *
  generalize hfraction : absorb whole.1 n.fraction = fraction at *
  have kept := kept_le hwhole hfraction
  have significand : n.scientific.1 = fraction.1 := by
    simp [scientific, hwhole, hfraction]
  have exponent : n.scientific.2 = n.power + (whole.2.length + fraction.2.length : Nat) := by
    simp only [scientific, power, hwhole, hfraction]
    cases n.exponent <;> simp only <;> omega
  rw [significand]
  rw [exponent] at large ⊢
  have written := Nat.le_trans (Nat.mul_le_mul_right (10 ^ n.power.toNat) kept) h
  refine Nat.le_of_mul_le_mul_right ?_ (Nat.pow_pos (by decide) : 0 < 10 ^ (-n.power).toNat)
  have powers : (n.power + (whole.2.length + fraction.2.length : Nat)).toNat + (-n.power).toNat =
      (whole.2.length + fraction.2.length) + n.power.toNat := by
    omega
  rw [Nat.mul_assoc, ← Nat.pow_add, powers, Nat.pow_add, ← Nat.mul_assoc]
  exact written

theorem roundToDouble_le (n : Nat) : roundToDouble n * 2 ^ 53 ≤ n * (2 ^ 53 + 1) := by
  have division := Nat.div_add_mod' n (Nat.pow 2 (n.log2 - 52))
  have remainder := Nat.mod_lt n (Nat.pow_pos (by decide) : 0 < Nat.pow 2 (n.log2 - 52))
  rw [roundToDouble]
  split
  · omega
  · rename_i upward
    simp only [Bool.or_eq_true, Bool.and_eq_true, decide_eq_true_eq, not_or] at upward
    have large : Nat.pow 2 (n.log2 - 52) * 2 ^ 52 ≤ n := by
      have notZero : n ≠ 0 := by
        rintro rfl
        exact upward.1 (by decide)
      have long : 52 ≤ n.log2 := by
        refine Nat.le_of_not_lt fun short => ?_
        rw [Nat.sub_eq_zero_of_le (Nat.le_of_lt short)] at remainder upward
        change n % 1 < 1 at remainder
        change ¬ 2 * (n % 1) < 1 ∧ _ at upward
        omega
      calc 2 ^ (n.log2 - 52) * 2 ^ 52 = 2 ^ n.log2 := by rw [← Nat.pow_add, Nat.sub_add_cancel long]
        _ ≤ n := Nat.log2_self_le notZero
    generalize Nat.pow 2 (n.log2 - 52) = unit at *
    have half : 2 * ((n / unit + 1) * unit) ≤ 2 * n + unit := by
      rw [Nat.add_mul, Nat.one_mul]
      omega
    calc (n / unit + 1) * unit * 2 ^ 53
        = 2 * ((n / unit + 1) * unit) * 2 ^ 52 := by ring
      _ ≤ (2 * n + unit) * 2 ^ 52 := Nat.mul_le_mul_right _ half
      _ = n * 2 ^ 53 + unit * 2 ^ 52 := by ring
      _ ≤ n * 2 ^ 53 + n := Nat.add_le_add_left large _

/-- The greatest binary64 number. -/
def greatestDouble : Nat := 2 ^ 1024 - 2 ^ 971

/-- The third greatest binary64 number. -/
def safeLimit : Nat := 2 ^ 1024 - 3 * 2 ^ 971

/-- Only two binary64 numbers are greater than the bound up to which every numeral stays finite. -/
theorem staysFinite_of_atMost {n : Numeral} (h : n.AtMost safeLimit) : n.StaysFinite := by
  rw [StaysFinite, Bool.eq_false_iff]
  intro beyond
  simp only [overflows, Bool.and_eq_true, bne_iff_ne, Bool.or_eq_true, decide_eq_true_eq] at beyond
  obtain ⟨⟨nonzero, scaled⟩, beyond⟩ := beyond
  have value := scientific_le h (Int.le_of_lt scaled)
  rcases beyond with great | product
  · have many : 10 ^ 309 ≤ 10 ^ n.scientific.2.toNat := by
      apply Nat.pow_le_pow_right
      · decide
      · omega
    have bounded : 10 ^ n.scientific.2.toNat ≤ safeLimit :=
      Nat.le_trans (Nat.le_mul_of_pos_left _ (Nat.pos_of_ne_zero nonzero)) value
    exact absurd (Nat.le_trans many bounded) (by decide +kernel)
  · have first := roundToDouble_le n.scientific.1
    have second := roundToDouble_le (Nat.pow 10 n.scientific.2.toNat)
    have gap : safeLimit * ((2 ^ 53 + 1) * (2 ^ 53 + 1)) < doubleLimit * (2 ^ 53 * 2 ^ 53) := by
      decide +kernel
    refine absurd gap (Nat.not_lt.2 ?_)
    change n.scientific.1 * Nat.pow 10 n.scientific.2.toNat ≤ safeLimit at value
    generalize Nat.pow 10 n.scientific.2.toNat = scale at *
    generalize 2 ^ 53 = unit at *
    calc doubleLimit * (unit * unit)
        ≤ roundToDouble n.scientific.1 * roundToDouble scale * (unit * unit) :=
          Nat.mul_le_mul_right _ product
      _ = roundToDouble n.scientific.1 * unit * (roundToDouble scale * unit) :=
          Nat.mul_mul_mul_comm ..
      _ ≤ n.scientific.1 * (unit + 1) * (scale * (unit + 1)) := Nat.mul_le_mul first second
      _ = n.scientific.1 * scale * ((unit + 1) * (unit + 1)) := Nat.mul_mul_mul_comm ..
      _ ≤ safeLimit * ((unit + 1) * (unit + 1)) := Nat.mul_le_mul_right _ value

end FabricSurvey.Json.Numeral
