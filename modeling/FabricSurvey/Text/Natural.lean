/-!
# Natural numbers in text

Digits in some base, runs of them at the front of a text, and whole texts that are a decimal number.
A whole text may have a plus in front and any number of leading zeros.
-/

namespace FabricSurvey.Text

def digit? (base : Nat) (c : Char) : Option Nat :=
  let value? :=
    if '0' ≤ c ∧ c ≤ '9' then some (c.toNat - '0'.toNat)
    else if 'a' ≤ c ∧ c ≤ 'f' then some (c.toNat - 'a'.toNat + 10)
    else if 'A' ≤ c ∧ c ≤ 'F' then some (c.toNat - 'A'.toNat + 10)
    else none
  value?.filter (· < base)

/-- The digits in front of a text, by their values, and the text after them. -/
def takeDigits (base : Nat) : List Char → List Nat × List Char
  | [] => ([], [])
  | c :: text =>
    match digit? base c with
    | none => ([], c :: text)
    | some d => ((d :: (takeDigits base text).1), (takeDigits base text).2)

def ofDigits (base : Nat) (digits : List Nat) : Nat := digits.foldl (fun n d => n * base + d) 0

/-- The number in front of a text: some digits that stand for no more than a limit. -/
def takeNumber? (base limit : Nat) (text : List Char) : Option (Nat × List Char) :=
  let (digits, rest) := takeDigits base text
  if digits.isEmpty then none
  else if ofDigits base digits ≤ limit then some (ofDigits base digits, rest)
  else none

abbrev max16 : Nat := 0xFFFF

abbrev max32 : Nat := 0xFFFFFFFF

abbrev max64 : Nat := 0xFFFFFFFFFFFFFFFF

def number? (limit : Nat) (text : List Char) : Option Nat :=
  let digits := match text with
    | '+' :: rest => rest
    | text => text
  match takeNumber? 10 limit digits with
  | some (n, []) => some n
  | _ => none

def decimal (n : Nat) : List Char := Nat.toDigits 10 n

def hexadecimal (n : Nat) : List Char := Nat.toDigits 16 n

end FabricSurvey.Text
