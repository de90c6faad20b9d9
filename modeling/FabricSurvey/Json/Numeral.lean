import FabricSurvey.Json.Bytes

/-!
# Numerals

A numeral is kept as it is spelled: sign, whole digits, fraction digits, exponent. What number it
stands for is a second question. A numeral without fraction and exponent is an integer as long as it
fits the 64-bit words of its sign; every other numeral is a floating-point number, and one beyond the
binary64 range is refused.
-/

namespace FabricSurvey.Json

structure Exponent where
  negative : Bool
  digits : Bytes
  deriving DecidableEq, Repr

structure Numeral where
  negative : Bool
  whole : Bytes
  /-- Empty when no decimal point is written. -/
  fraction : Bytes
  exponent : Option Exponent
  deriving DecidableEq, Repr

namespace Numeral

def digitsValue (digits : Bytes) : Nat := digits.foldl (fun n d => n * 10 + Byte.digitValue d) 0

/-- The whole digits in front of a text. A leading zero stands alone. -/
def scanWhole : Bytes → Except Fault (Bytes × Bytes)
  | [] => .error .endOfText
  | Byte.zero :: text =>
    match text with
    | d :: _ => if Byte.isDigit d then .error .malformed else .ok ([Byte.zero], text)
    | [] => .ok ([Byte.zero], [])
  | d :: text =>
    if Byte.isDigit d then .ok (d :: text.takeWhile Byte.isDigit, text.dropWhile Byte.isDigit)
    else .error .malformed

def scanDigits (text : Bytes) : Except Fault (Bytes × Bytes) :=
  match text.takeWhile Byte.isDigit with
  | [] => .error (.before text)
  | digits => .ok (digits, text.dropWhile Byte.isDigit)

def scanFraction : Bytes → Except Fault (Bytes × Bytes)
  | Byte.point :: text => scanDigits text
  | text => .ok ([], text)

def scanSign : Bytes → Bool × Bytes
  | Byte.minus :: text => (true, text)
  | Byte.plus :: text => (false, text)
  | text => (false, text)

def scanExponent : Bytes → Except Fault (Option Exponent × Bytes)
  | [] => .ok (none, [])
  | c :: text =>
    if c == 0x65 || c == 0x45 then do
      let (negative, text) := scanSign text
      let (digits, text) ← scanDigits text
      .ok (some ⟨negative, digits⟩, text)
    else .ok (none, c :: text)

/-- The numeral in front of a text, and the text after it. -/
def scan (text : Bytes) : Except Fault (Numeral × Bytes) := do
  let (negative, text) := match text with
    | Byte.minus :: text => (true, text)
    | text => (false, text)
  let (whole, text) ← scanWhole text
  let (fraction, text) ← scanFraction text
  let (exponent, text) ← scanExponent text
  .ok (⟨negative, whole, fraction, exponent⟩, text)

theorem length_scanWhole {text : Bytes} {r : Bytes × Bytes} (h : scanWhole text = .ok r) :
    r.2.length < text.length := by
  unfold scanWhole at h
  split at h
  · simp at h
  · split at h
    · split at h
      · simp at h
      · cases h; simp
    · cases h; simp
  · split at h
    · cases h
      exact Nat.lt_succ_of_le (List.dropWhile_sublist _).length_le
    · simp at h

theorem length_scanDigits {text : Bytes} {r : Bytes × Bytes} (h : scanDigits text = .ok r) :
    r.2.length ≤ text.length := by
  unfold scanDigits at h
  split at h
  · simp at h
  · cases h
    exact (List.dropWhile_sublist _).length_le

theorem length_scanFraction {text : Bytes} {r : Bytes × Bytes} (h : scanFraction text = .ok r) :
    r.2.length ≤ text.length := by
  unfold scanFraction at h
  split at h
  · exact Nat.le_succ_of_le (length_scanDigits h)
  · cases h; exact Nat.le_refl _

theorem length_scanSign (text : Bytes) : (scanSign text).2.length ≤ text.length := by
  unfold scanSign
  split <;> simp

theorem length_scanExponent {text : Bytes} {r : Option Exponent × Bytes}
    (h : scanExponent text = .ok r) : r.2.length ≤ text.length := by
  unfold scanExponent at h
  split at h
  · cases h; simp
  · rename_i c text
    split at h
    · cases hd : scanDigits (scanSign text).2 with
      | error e => simp [hd, bind, Except.bind] at h
      | ok q =>
        simp only [hd, bind, Except.bind] at h
        cases h
        have h₁ := length_scanDigits hd
        have h₂ := length_scanSign text
        simp only [List.length_cons]
        omega
    · cases h; exact Nat.le_refl _

theorem length_scan {text : Bytes} {r : Numeral × Bytes} (h : scan text = .ok r) :
    r.2.length < text.length := by
  unfold scan at h
  have key : ∀ (negative : Bool) (t : Bytes), t.length ≤ text.length →
      (do let (whole, t) ← scanWhole t
          let (fraction, t) ← scanFraction t
          let (exponent, t) ← scanExponent t
          .ok ((⟨negative, whole, fraction, exponent⟩ : Numeral), t)) = Except.ok (ε := Fault) r →
      r.2.length < text.length := by
    intro negative t ht h
    cases hw : scanWhole t with
    | error e => simp [hw, bind, Except.bind] at h
    | ok w =>
      simp only [hw, bind, Except.bind] at h
      cases hf : scanFraction w.2 with
      | error e => simp [hf] at h
      | ok f =>
        simp only [hf] at h
        cases he : scanExponent f.2 with
        | error e => simp [he] at h
        | ok e =>
          simp only [he] at h
          cases h
          have h₁ := length_scanWhole hw
          have h₂ := length_scanFraction hf
          have h₃ := length_scanExponent he
          simp only
          omega
  split at h
  rename_i negative t heq
  refine key negative t ?_ h
  split at heq
  · cases heq; simp
  · cases heq; exact Nat.le_refl _

end Numeral

/-- What a numeral stands for. Of a floating-point number nothing but its kind is ever used. -/
inductive Number where
  | integer (value : Int)
  | floating
  deriving DecidableEq, Repr

namespace Numeral

/-- The greatest significand that is kept. -/
def maxSignificand : Nat := 0xFFFFFFFFFFFFFFFF

/-- Takes digits into a significand while it fits 64 bits; gives the digits left out. -/
def absorb (significand : Nat) : Bytes → Nat × Bytes
  | [] => (significand, [])
  | d :: digits =>
    let next := significand * 10 + Byte.digitValue d
    if next ≤ maxSignificand then absorb next digits else (significand, d :: digits)

/-- A natural number cut to the 53 leading bits of a binary64 significand, to nearest, ties to even. -/
def roundToDouble (n : Nat) : Nat :=
  let unit := Nat.pow 2 (n.log2 - 52)
  let q := n / unit
  let r := n % unit
  if 2 * r < unit || (2 * r == unit && q % 2 == 0) then q * unit else (q + 1) * unit

/-- From this magnitude on a product rounds to infinity. -/
def doubleLimit : Nat := Nat.pow 2 1024 - Nat.pow 2 970

def overflows (significand : Nat) (exponent : Int) : Bool :=
  significand != 0 && 0 < exponent &&
    (308 < exponent ||
      doubleLimit ≤ roundToDouble significand * roundToDouble (Nat.pow 10 exponent.toNat))

def scientific (n : Numeral) : Nat × Int :=
  let (s, left) := absorb 0 n.whole
  let (s, dropped) := absorb s n.fraction
  let places : Int := (n.fraction.length : Int) - dropped.length
  let exponent : Int := match n.exponent with
    | none => 0
    | some e => if e.negative then -(digitsValue e.digits : Int) else digitsValue e.digits
  (s, (left.length : Int) - places + exponent)

/-- The number a numeral stands for, or `none` where it is out of range. Zero with a minus sign is a
floating-point number, and so is an integer that does not fit the 64-bit words of its sign. -/
def number? (n : Numeral) : Option Number :=
  let (significand, exponent) := n.scientific
  let float := if overflows significand exponent then none else some .floating
  if n.fraction.isEmpty && n.exponent.isNone && (absorb 0 n.whole).2.isEmpty then
    if n.negative then
      if 0 < significand && significand ≤ 0x8000000000000000 then
        some (.integer (-(significand : Int)))
      else float
    else some (.integer significand)
  else float

end Numeral

end FabricSurvey.Json
