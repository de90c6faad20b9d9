import FabricSurvey.Text.CodePoints

/-!
# Punycode

A label of any characters is written with letters, digits and hyphens: first the ASCII characters it
holds, then a hyphen if there are any, then for each of its other characters, in the order of their
code points, how far it is from the one inserted before it. The distance to a character counts every
place in the label once for every code point on the way. Distances are numbers in base 36, the least
digit first, whose last digit is the first one below a threshold.
-/

namespace FabricSurvey.Domain.Punycode

open Text

def base : Nat := 36

/-- The code points from here on are inserted. -/
def firstInserted : Nat := 0x80

def firstBias : Nat := 72

def threshold (bias index : Nat) : Nat := min 26 (max 1 (base * (index + 1) - bias))

theorem one_le_threshold (bias index : Nat) : 1 ≤ threshold bias index := by
  simp only [threshold]
  omega

/-- The bias that suits a distance: 36 for each division by 35 that it takes to make it small, and a
part of 36 for the rest. -/
def biasOf (distance : Nat) : Nat :=
  if 455 < distance then base + biasOf (distance / 35)
  else base * distance / (distance + 38)
termination_by distance

/-- The bias after a distance to one of some characters. The first distance is taken for far less than
it is, because it leads from ASCII to the script of the label. -/
def adapted (distance length : Nat) (isFirst : Bool) : Nat :=
  let distance := distance / (if isFirst then 700 else 2)
  biasOf (distance + distance / length)

/-- Letters are the digits below 26 and numerals the others. -/
def digitChar (value : Nat) : Char :=
  if value < 26 then Char.ofNat ('a'.toNat + value) else Char.ofNat ('0'.toNat + (value - 26))

def digitsOf (bias index n : Nat) : List Char :=
  let t := threshold bias index
  if n < t then [digitChar n]
  else digitChar (t + (n - t) % (base - t)) :: digitsOf bias (index + 1) ((n - t) / (base - t))
termination_by n
decreasing_by
  have := one_le_threshold bias index
  have := Nat.div_le_self (n - threshold bias index) (base - threshold bias index)
  omega

structure Progress where
  written : List Char
  length : Nat
  /-- The distance walked since the last insertion. -/
  distance : Nat
  bias : Nat
  deriving DecidableEq, Repr

/-- Walks over one place of the label, when the characters below a code point are there and those with
this code point are inserted. -/
def Progress.walk (plain codePoint : Nat) (progress : Progress) (c : Char) : Progress :=
  if c.toNat < codePoint then { progress with distance := progress.distance + 1 }
  else if c.toNat = codePoint then
    { written := progress.written ++ digitsOf progress.bias 0 progress.distance
      length := progress.length + 1
      distance := 0
      bias := adapted progress.distance (progress.length + 1) (progress.length == plain) }
  else progress

def insertAll (label : List Char) (plain : Nat) (next : Nat) (progress : Progress) :
    List Nat → Progress
  | [] => progress
  | codePoint :: more =>
    let skipped := (codePoint - next) * (progress.length + 1)
    let progress := { progress with distance := progress.distance + skipped }
    let progress := label.foldl (Progress.walk plain codePoint) progress
    insertAll label plain (codePoint + 1) { progress with distance := progress.distance + 1 } more

def encode (label : List Char) : List Char :=
  let plain := label.filter isAscii
  let others := ((label.filter (!isAscii ·)).map Char.toNat).mergeSort.eraseDups
  let start := if plain.isEmpty then [] else plain ++ ['-']
  (insertAll label plain.length firstInserted ⟨start, plain.length, 0, firstBias⟩ others).written

def digitValue? (c : Char) : Option Nat :=
  if 'a' ≤ c ∧ c ≤ 'z' then some (c.toNat - 'a'.toNat)
  else if '0' ≤ c ∧ c ≤ '9' then some (c.toNat - '0'.toNat + 26)
  else none

/-- A sum and the number in front of a text, whose digits from the one with some index and weight on
are left. Sums and weights have 32 bits. -/
def addNumber? (bias : Nat) : (index weight sum : Nat) → List Char → Option (Nat × List Char)
  | _, _, _, [] => none
  | index, weight, sum, c :: text => do
    let value ← digitValue? c
    let sum := sum + value * weight
    let t := threshold bias index
    if max32 < sum then none
    else if value < t then some (sum, text)
    else if max32 < weight * (base - t) then none
    else addNumber? bias (index + 1) (weight * (base - t)) sum text

theorem length_addNumber? {bias index weight sum : Nat} {text : List Char} {p : Nat × List Char}
    (h : addNumber? bias index weight sum text = some p) : p.2.length < text.length := by
  induction text generalizing index weight sum with
  | nil => simp [addNumber?] at h
  | cons c text ih =>
    simp only [addNumber?, Option.bind_eq_bind, Option.bind_eq_some_iff] at h
    obtain ⟨value, -, h⟩ := h
    split at h
    · simp at h
    · split at h
      · cases h
        simp
      · split at h
        · simp at h
        · exact Nat.lt_succ_of_lt (ih h)

/-- The label that is made of some characters by the insertions that a text tells, when the last one
was made before a place and all further ones are of a code point or above. -/
def insertions? (label : List Char) (codePoint place bias : Nat) (text : List Char) :
    Option (List Char) :=
  if text.isEmpty then some label
  else match h : addNumber? bias 0 1 place text with
    | none => none
    | some (sum, rest) =>
      have : rest.length < text.length := length_addNumber? h
      let places := label.length + 1
      let codePoint := codePoint + sum / places
      if codePoint.isValidChar then
        insertions? (label.insertIdx (sum % places) (Char.ofNat codePoint)) codePoint
          (sum % places + 1) (adapted (sum - place) places (place == 0)) rest
      else none
termination_by text.length

def decode? (text : List Char) : Option (List Char) :=
  match splitLast? '-' text with
  | some ([], _) => none
  | some (plain, rest) => insertions? plain firstInserted 0 firstBias rest
  | none => insertions? [] firstInserted 0 firstBias text

end FabricSurvey.Domain.Punycode
