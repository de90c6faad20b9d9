import FabricSurvey.Text.Natural

/-!
# Reading natural numbers

A run of digits is read up to the first character that is none, whatever comes after it. A number is read
back from its decimal digits, and digits without a leading zero are the only ones that a number is written
with.
-/

namespace FabricSurvey.Text

theorem isSome_digit?_of_le {base : Nat} {c : Char} (small : base ≤ 16)
    (h : (digit? base c).isSome) : (digit? 16 c).isSome := by
  obtain ⟨d, hd⟩ := Option.isSome_iff_exists.1 h
  rw [digit?, Option.filter_eq_some_iff] at hd
  obtain ⟨value, below⟩ := hd
  refine Option.isSome_iff_exists.2 ⟨d, ?_⟩
  rw [digit?, Option.filter_eq_some_iff]
  simp only [decide_eq_true_eq] at below ⊢
  exact ⟨value, by omega⟩

/-- No digit comes next. -/
def NoDigit (base : Nat) (rest : List Char) : Prop := ∀ c ∈ rest.head?, digit? base c = none

theorem noDigit_nil (base : Nat) : NoDigit base [] := fun _ none => nomatch none

theorem noDigit_cons {base : Nat} {c : Char} (small : base ≤ 16) (other : digit? 16 c = none)
    (text : List Char) : NoDigit base (c :: text) := by
  intro d hd
  obtain rfl := Option.some.inj hd
  rw [← Option.not_isSome_iff_eq_none] at other ⊢
  exact fun digit => other (isSome_digit?_of_le small digit)

theorem takeDigits_append {base : Nat} {tail : List Char} (stop : NoDigit base tail)
    (text : List Char) :
    takeDigits base (text ++ tail) = ((takeDigits base text).1, (takeDigits base text).2 ++ tail) := by
  induction text with
  | nil =>
      cases tail with
      | nil => rfl
      | cons c tail =>
          have none := stop c rfl
          simp only [List.nil_append, takeDigits, none]
  | cons c text ih =>
      rw [List.cons_append, takeDigits, takeDigits]
      cases digit? base c with
      | none => rfl
      | some d => rw [ih]

/-- What is taken are digits, and what is left follows them. -/
theorem takeDigits_spec (base : Nat) (text : List Char) :
    ∃ used, text = used ++ (takeDigits base text).2 ∧ ∀ c ∈ used, (digit? base c).isSome := by
  induction text with
  | nil => exact ⟨[], rfl, fun _ hc => absurd hc List.not_mem_nil⟩
  | cons c text ih =>
      rw [takeDigits]
      cases hd : digit? base c with
      | none => exact ⟨[], rfl, fun _ hc => absurd hc List.not_mem_nil⟩
      | some d =>
          obtain ⟨used, same, digits⟩ := ih
          refine ⟨c :: used, congrArg (c :: ·) same, fun e he => ?_⟩
          rcases List.mem_cons.1 he with rfl | he
          · exact Option.isSome_of_eq_some hd
          · exact digits e he

theorem takeDigits_eq_self {base : Nat} {text : List Char} (h : (takeDigits base text).1 = []) :
    (takeDigits base text).2 = text := by
  cases text with
  | nil => rfl
  | cons c text =>
      rw [takeDigits] at h ⊢
      cases hd : digit? base c with
      | none => rfl
      | some d =>
          rw [hd] at h
          cases h

theorem takeDigits_append_of_all {base : Nat} {text : List Char} (all : (takeDigits base text).2 = [])
    (tail : List Char) :
    takeDigits base (text ++ tail) =
      ((takeDigits base text).1 ++ (takeDigits base tail).1, (takeDigits base tail).2) := by
  induction text with
  | nil => rfl
  | cons c text ih =>
      rw [takeDigits] at all
      rw [List.cons_append, takeDigits, takeDigits]
      cases hd : digit? base c with
      | none =>
          rw [hd] at all
          cases all
      | some d =>
          rw [hd] at all
          rw [ih all]
          rfl

theorem length_takeDigits {base : Nat} {text : List Char} (all : (takeDigits base text).2 = []) :
    (takeDigits base text).1.length = text.length := by
  induction text with
  | nil => rfl
  | cons c text ih =>
      rw [takeDigits] at all ⊢
      cases hd : digit? base c with
      | none =>
          rw [hd] at all
          cases all
      | some d =>
          rw [hd] at all
          exact congrArg (· + 1) (ih all)

theorem digit?_digitChar {base d : Nat} (below : d < base) (small : base ≤ 16) :
    digit? base (Nat.digitChar d) = some d := by
  have sixteen : ∀ d < 16, digit? 16 (Nat.digitChar d) = some d := by decide
  have value := sixteen d (Nat.lt_of_lt_of_le below small)
  rw [digit?, Option.filter_eq_some_iff] at value ⊢
  exact ⟨value.1, decide_eq_true below⟩

theorem takeDigits_digitChar {base d : Nat} (below : d < base) (small : base ≤ 16) :
    takeDigits base [Nat.digitChar d] = ([d], []) := by
  rw [takeDigits, digit?_digitChar below small]
  rfl

theorem ofDigits_concat (base : Nat) (digits : List Nat) (d : Nat) :
    ofDigits base (digits ++ [d]) = ofDigits base digits * base + d := by
  rw [ofDigits, ofDigits, List.foldl_append, List.foldl_cons, List.foldl_nil]

/-- Digits that stand for a number without a zero to lead them. -/
structure Writes (base n : Nat) (digits : List Nat) : Prop where
  value : ofDigits base digits = n
  ne_nil : digits ≠ []
  canonical : digits.head? = some 0 → n = 0

/-- A number is read back from its digits in any base. -/
theorem takeDigits_toDigits {base : Nat} (two : 1 < base) (small : base ≤ 16) (n : Nat) :
    ∃ digits, takeDigits base (Nat.toDigits base n) = (digits, []) ∧ Writes base n digits := by
  induction n using Nat.strongRecOn with
  | ind n ih =>
      by_cases below : n < base
      · rw [Nat.toDigits_of_lt_base below]
        refine ⟨[n], takeDigits_digitChar below small, ?_, List.cons_ne_nil _ _, ?_⟩
        · rw [ofDigits, List.foldl_cons, Nat.zero_mul, Nat.zero_add, List.foldl_nil]
        · exact Option.some.inj
      · have large := Nat.not_lt.1 below
        have positive : 0 < n / base := Nat.div_pos large (Nat.lt_of_succ_lt two)
        obtain ⟨digits, taken, writes⟩ := ih (n / base) (Nat.div_lt_self (by omega) two)
        have last : n % base < base := Nat.mod_lt n (by omega)
        refine ⟨digits ++ [n % base], ?_, ?_, by simp, ?_⟩
        · rw [Nat.toDigits_of_base_le two large, takeDigits_append_of_all (by rw [taken]), taken,
            takeDigits_digitChar last small]
        · rw [ofDigits_concat, writes.value, Nat.mul_comm, Nat.div_add_mod]
        · intro zero
          have first : digits.head? = some 0 := by
            rwa [List.head?_append, Option.or_of_isSome (by simpa using writes.ne_nil)] at zero
          exact absurd (writes.canonical first) (Nat.ne_of_gt positive)

theorem digit?_ten_eq_some_iff {c : Char} {d : Nat} :
    digit? 10 c = some d ↔ c.isDigit ∧ d = c.toNat - '0'.toNat := by
  have digit : c.isDigit ↔ '0' ≤ c ∧ c ≤ '9' := by
    rw [Char.isDigit, Bool.and_eq_true, decide_eq_true_eq, decide_eq_true_eq]
    rfl
  have high : c ≤ '9' ↔ c.toNat ≤ 57 := Iff.rfl
  rw [digit, digit?, Option.filter_eq_some_iff, decide_eq_true_eq]
  split
  · rename_i decimal
    have zero : '0'.toNat = 48 := rfl
    rw [Option.some.injEq]
    have := high.1 decimal.2
    constructor
    · rintro ⟨rfl, -⟩
      exact ⟨decimal, rfl⟩
    · rintro ⟨-, rfl⟩
      exact ⟨rfl, by omega⟩
  · rename_i other
    constructor
    · rintro ⟨value, below⟩
      split at value
      · cases value
        omega
      · split at value
        · cases value
          omega
        · cases value
    · rintro ⟨decimal, -⟩
      exact absurd decimal other

theorem takeDigits_decimal (n : Nat) :
    ∃ digits, takeDigits 10 (decimal n) = (digits, []) ∧ Writes 10 n digits :=
  takeDigits_toDigits (by decide) (by decide) n

theorem takeDigits_hexadecimal (n : Nat) :
    ∃ digits, takeDigits 16 (hexadecimal n) = (digits, []) ∧ Writes 16 n digits :=
  takeDigits_toDigits (by decide) (by decide) n

theorem isDigit_of_mem_decimal {n : Nat} : ∀ c ∈ decimal n, c.isDigit :=
  fun _ hc => Nat.isDigit_of_mem_toDigits (by decide) (by decide) hc

/-- A number is read from its decimal digits, whatever comes next that is no digit. -/
theorem takeNumber?_decimal_append {limit n : Nat} {tail : List Char} (stop : NoDigit 10 tail)
    (h : n ≤ limit) : takeNumber? 10 limit (decimal n ++ tail) = some (n, tail) := by
  obtain ⟨digits, taken, writes⟩ := takeDigits_decimal n
  have nonempty : digits.isEmpty = false := List.isEmpty_eq_false_iff.2 writes.ne_nil
  rw [takeNumber?, takeDigits_append stop, taken]
  simp only [nonempty, writes.value, if_pos h, Bool.false_eq_true, if_false, List.nil_append]

theorem takeNumber?_decimal {limit n : Nat} (h : n ≤ limit) :
    takeNumber? 10 limit (decimal n) = some (n, []) := by
  have read := takeNumber?_decimal_append (noDigit_nil 10) h
  rwa [List.append_nil] at read

def unsigned : List Char → List Char
  | '+' :: rest => rest
  | text => text

theorem unsigned_of_head? {text : List Char} (noPlus : text.head? ≠ some '+') :
    unsigned text = text := by
  rw [unsigned]
  rintro rest rfl
  exact noPlus rfl

theorem unsigned_eq_self {text : List Char} (h : ∀ c ∈ text, c.isDigit) : unsigned text = text :=
  unsigned_of_head? fun plus => absurd (h '+' (List.mem_of_mem_head? plus)) (by decide)

theorem number?_eq_some_iff {limit n : Nat} {text : List Char} :
    number? limit text = some n ↔ takeNumber? 10 limit (unsigned text) = some (n, []) := by
  unfold number?
  split
  case' h_1 => rw [unsigned]
  case' h_2 bare => rw [unsigned.eq_2 _ bare]
  all_goals
    dsimp only
    split
    · rename_i found
      rw [found]
      simp
    · rename_i unfit
      exact ⟨fun missing => absurd missing.symm (Option.some_ne_none n), fun h => absurd h (unfit n)⟩

theorem number?_decimal {limit n : Nat} (h : n ≤ limit) : number? limit (decimal n) = some n := by
  rw [number?_eq_some_iff, unsigned_eq_self isDigit_of_mem_decimal]
  exact takeNumber?_decimal h

theorem takeNumber?_eq_some {base limit n : Nat} {text rest : List Char}
    (h : takeNumber? base limit text = some (n, rest)) :
    (takeDigits base text).2 = rest ∧ n ≤ limit := by
  simp only [takeNumber?] at h
  split at h
  · cases h
  · split at h
    · rename_i fits
      obtain ⟨rfl, rfl⟩ := Prod.mk.inj (Option.some.inj h)
      exact ⟨rfl, fits⟩
    · cases h

/-- A number is what the digits in front of the text stand for, and there are some. -/
theorem digits_of_takeNumber? {base limit n : Nat} {text rest : List Char}
    (h : takeNumber? base limit text = some (n, rest)) :
    (takeDigits base text).1 ≠ [] ∧ ofDigits base (takeDigits base text).1 = n := by
  simp only [takeNumber?] at h
  split at h
  · cases h
  · rename_i some_digits
    split at h
    · exact ⟨by simpa using some_digits, (Prod.mk.inj (Option.some.inj h)).1⟩
    · cases h

theorem number?_le {limit n : Nat} {text : List Char} (h : number? limit text = some n) : n ≤ limit :=
  (takeNumber?_eq_some (number?_eq_some_iff.1 h)).2

theorem digit?_of_mem_unsigned {limit n : Nat} {text : List Char} (h : number? limit text = some n) :
    ∀ c ∈ unsigned text, (digit? 10 c).isSome := by
  obtain ⟨used, same, digits⟩ := takeDigits_spec 10 (unsigned text)
  rw [(takeNumber?_eq_some (number?_eq_some_iff.1 h)).1, List.append_nil] at same
  rwa [same]

/-- Nothing but digits stands in a number, save a plus in front. -/
theorem mem_of_number? {limit n : Nat} {text : List Char} (h : number? limit text = some n) :
    ∀ c ∈ text, c = '+' ∨ (digit? 10 c).isSome := by
  have digits := digit?_of_mem_unsigned h
  intro c hc
  unfold unsigned at digits
  split at digits
  · rcases List.mem_cons.1 hc with rfl | hc
    · exact .inl rfl
    · exact .inr (digits c hc)
  · exact .inr (digits c hc)

theorem all_isDigit_iff_of_number? {limit n : Nat} {text : List Char}
    (h : number? limit text = some n) : (∀ c ∈ text, c.isDigit) ↔ text.head? ≠ some '+' := by
  constructor
  · intro digits plus
    exact absurd (digits '+' (List.mem_of_mem_head? plus)) (by decide)
  · intro noPlus c hc
    have digit := digit?_of_mem_unsigned h c (by rwa [unsigned_of_head? noPlus])
    obtain ⟨d, digit⟩ := Option.isSome_iff_exists.1 digit
    exact (digit?_ten_eq_some_iff.1 digit).1

theorem not_mem_of_number? {limit n : Nat} {text : List Char} (h : number? limit text = some n)
    {c : Char} (noPlus : c ≠ '+') (noDigit : digit? 10 c = none) : c ∉ text := by
  intro hc
  rcases mem_of_number? h c hc with plus | digit
  · exact noPlus plus
  · rw [noDigit] at digit
    cases digit

theorem digitChar_of_digit? {c : Char} {d : Nat} (h : digit? 10 c = some d) :
    d < 10 ∧ Nat.digitChar d = c := by
  obtain ⟨digit, rfl⟩ := digit?_ten_eq_some_iff.1 h
  have bounds : '0'.toNat ≤ c.toNat ∧ c.toNat ≤ '9'.toNat := by
    rwa [Char.isDigit, Bool.and_eq_true, decide_eq_true_eq, decide_eq_true_eq] at digit
  have zero : '0'.toNat = 48 := rfl
  have nine : '9'.toNat = 57 := rfl
  refine ⟨by omega, Char.toNat_inj.1 ?_⟩
  rw [Nat.toNat_digitChar_of_lt_ten (by omega)]
  omega

theorem decimal_append_takeDigits {value : Nat} (positive : 0 < value) (text : List Char) :
    decimal value ++ text =
      decimal ((takeDigits 10 text).1.foldl (fun n d => n * 10 + d) value) ++ (takeDigits 10 text).2 := by
  induction text generalizing value with
  | nil => rfl
  | cons c text ih =>
      rw [takeDigits]
      cases hd : digit? 10 c with
      | none => rfl
      | some d =>
          obtain ⟨small, rfl⟩ := digitChar_of_digit? hd
          have longer : decimal value ++ [Nat.digitChar d] = decimal (value * 10 + d) := by
            have joined := Nat.toDigits_append_toDigits (b := 10) (by decide) positive small
            rwa [Nat.toDigits_of_lt_base small, Nat.mul_comm] at joined
          rw [List.append_cons, longer, ih (by omega)]
          rfl

/-- Digits that do not start with a zero are those of their number, and so is a single digit. -/
theorem eq_decimal_append {text rest : List Char} {first : Nat} {more : List Nat}
    (h : takeDigits 10 text = (first :: more, rest)) (canonical : first ≠ 0 ∨ more = []) :
    text = decimal (ofDigits 10 (first :: more)) ++ rest := by
  cases text with
  | nil => cases h
  | cons c text =>
      rw [takeDigits] at h
      cases hd : digit? 10 c with
      | none =>
          rw [hd] at h
          cases h
      | some d =>
          rw [hd] at h
          cases h
          obtain ⟨small, rfl⟩ := digitChar_of_digit? hd
          have single : decimal first = [Nat.digitChar first] := Nat.toDigits_of_lt_base small
          rw [ofDigits, List.foldl_cons, Nat.zero_mul, Nat.zero_add]
          rcases canonical with positive | alone
          · rw [← decimal_append_takeDigits (Nat.pos_of_ne_zero positive), single]
            rfl
          · rw [alone, takeDigits_eq_self alone, List.foldl_nil, single]
            rfl

end FabricSurvey.Text
