import FabricSurvey.Text.Natural

/-!
# IP addresses

Version 4 has four octets in decimal with dots between them; an octet has up to three digits and no
leading zero. Version 6 has eight 16-bit groups in hexadecimal with colons between them. One run of
zero groups may be written as a double colon, and the last two groups as an IPv4 address. The canonical
text compresses the longest run of at least two zero groups, the first of several, and shows an
IPv4-mapped address as such.
-/

namespace FabricSurvey

open Text

structure IPv4 where
  a : UInt8
  b : UInt8
  c : UInt8
  d : UInt8
  deriving DecidableEq, Repr

namespace IPv4

def ofNat (n : Nat) : IPv4 :=
  ⟨UInt8.ofNat (n / 0x1000000), UInt8.ofNat (n / 0x10000), UInt8.ofNat (n / 0x100), UInt8.ofNat n⟩

def takeOctet? (text : List Char) : Option (UInt8 × List Char) :=
  let (digits, rest) := takeDigits 10 text
  match digits with
  | [] => none
  | first :: more =>
    if digits.length ≤ 3 ∧ (first ≠ 0 ∨ more = []) ∧ ofDigits 10 digits < 256 then
      some (UInt8.ofNat (ofDigits 10 digits), rest)
    else none

def takeDotted? : List Char → Option (UInt8 × List Char)
  | '.' :: text => takeOctet? text
  | _ => none

def take? (text : List Char) : Option (IPv4 × List Char) := do
  let (a, text) ← takeOctet? text
  let (b, text) ← takeDotted? text
  let (c, text) ← takeDotted? text
  let (d, text) ← takeDotted? text
  return (⟨a, b, c, d⟩, text)

def chars (ip : IPv4) : List Char :=
  decimal ip.a.toNat ++ '.' :: decimal ip.b.toNat ++ '.' :: decimal ip.c.toNat ++
    '.' :: decimal ip.d.toNat

def groups (ip : IPv4) : List UInt16 :=
  [UInt16.ofNat (ip.a.toNat * 256 + ip.b.toNat), UInt16.ofNat (ip.c.toNat * 256 + ip.d.toNat)]

end IPv4

structure IPv6 where
  groups : List UInt16
  length_groups : groups.length = 8
  deriving DecidableEq, Repr

namespace IPv6

/-- The group in front of a text: one to four hexadecimal digits. -/
def takeGroup? (text : List Char) : Option (UInt16 × List Char) :=
  let (digits, rest) := takeDigits 16 text
  if digits.isEmpty ∨ 4 < digits.length then none
  else some (UInt16.ofNat (ofDigits 16 digits), rest)

/-- What is left after the colon that comes before every group but the first. -/
def takeSeparator? (first : Bool) (text : List Char) : Option (List Char) :=
  if first then some text
  else match text with
    | ':' :: text => some text
    | _ => none

/-- The groups in front of a text. -/
structure Groups where
  groups : List UInt16
  embedded : Bool
  rest : List Char

/-- Up to `room` groups in front of a text, an embedded IPv4 address taking two and coming last. -/
def takeGroups (first : Bool) : (room : Nat) → List Char → Groups
  | 0, text => ⟨[], false, text⟩
  | room + 1, text =>
    let embedded? := if room = 0 then none else (takeSeparator? first text).bind IPv4.take?
    match embedded? with
    | some (ip, rest) => ⟨ip.groups, true, rest⟩
    | none =>
      match (takeSeparator? first text).bind takeGroup? with
      | none => ⟨[], false, text⟩
      | some (group, rest) =>
        let more := takeGroups false room rest
        ⟨group :: more.groups, more.embedded, more.rest⟩

theorem length_takeGroups (first : Bool) (room : Nat) (text : List Char) :
    (takeGroups first room text).groups.length ≤ room := by
  fun_induction takeGroups first room text with
  | case1 => simp
  | case2 first room text e ip rest h =>
    have hroom : room ≠ 0 := by
      intro h0
      simp only [e, h0, if_true] at h
      simp at h
    simp only [IPv4.groups, List.length_cons, List.length_nil]
    omega
  | case3 => simp
  | case4 first room text e _ group rest _ more ih =>
    simp only [List.length_cons]
    exact Nat.succ_le_succ ih

/-- The address whose groups start with `head` and end with `tail`, all others being zero. -/
def compressed (head tail : List UInt16) (h : head.length + tail.length ≤ 8) : IPv6 where
  groups := head ++ List.replicate (8 - head.length - tail.length) 0 ++ tail
  length_groups := by simp; omega

/-- The address in front of a text. A double colon stands for at least one group, and no embedded
address comes before it. -/
def take? (text : List Char) : Option (IPv6 × List Char) :=
  let head := takeGroups true 8 text
  if h : head.groups.length = 8 then some (⟨head.groups, h⟩, head.rest)
  else if head.embedded then none
  else
    match head.rest with
    | ':' :: ':' :: rest =>
      let tail := takeGroups true (7 - head.groups.length) rest
      have hle : head.groups.length + tail.groups.length ≤ 8 := by
        have h₁ := length_takeGroups true 8 text
        have h₂ := length_takeGroups true (7 - head.groups.length) rest
        simp only [head, tail] at *
        omega
      some (compressed head.groups tail.groups hle, tail.rest)
    | _ => none

def joinGroups : List UInt16 → List Char
  | [] => []
  | [group] => hexadecimal group.toNat
  | group :: groups => hexadecimal group.toNat ++ ':' :: joinGroups groups

def zeroRun (groups : List UInt16) : Nat := (groups.takeWhile (· == 0)).length

/-- Start and length of the longest run of zero groups, the first of several. -/
def longestZeros : List UInt16 → Nat × Nat
  | [] => (0, 0)
  | group :: groups =>
    let here := zeroRun (group :: groups)
    let later := longestZeros groups
    if later.2 ≤ here then (0, here) else (later.1 + 1, later.2)

/-- The groups of an address, the longest run of at least two zeros among them as a double colon. -/
def groupChars (ip : IPv6) : List Char :=
  let (start, length) := longestZeros ip.groups
  if 1 < length then
    joinGroups (ip.groups.take start) ++ ':' :: ':' :: joinGroups (ip.groups.drop (start + length))
  else joinGroups ip.groups

def chars (ip : IPv6) : List Char :=
  match ip.groups with
  | [0, 0, 0, 0, 0, 0xFFFF, g, h] =>
    "::ffff:".toList ++
      IPv4.chars ⟨UInt8.ofNat (g.toNat / 256), UInt8.ofNat (g.toNat % 256),
        UInt8.ofNat (h.toNat / 256), UInt8.ofNat (h.toNat % 256)⟩
  | _ => ip.groupChars

end IPv6

end FabricSurvey
