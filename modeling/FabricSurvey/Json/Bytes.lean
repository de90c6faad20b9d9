
/-!
# The bytes of a JSON text

JSON is read from bytes, because a text may hold bytes that are no UTF-8 at all and the reader has to
say so at the right place. This module names the bytes that carry structure, the four blanks, and the
digit classes.

A text that is not JSON fails in one of two ways, and which of them is all that is reported: it ends
where more was due, or it goes on with something that cannot stand there.
-/

namespace FabricSurvey.Json

/-- A text as it arrives from an agent or a file. -/
abbrev Bytes := List UInt8

namespace Byte

@[match_pattern] abbrev quote : UInt8 := 0x22
@[match_pattern] abbrev plus : UInt8 := 0x2B
@[match_pattern] abbrev comma : UInt8 := 0x2C
@[match_pattern] abbrev minus : UInt8 := 0x2D
@[match_pattern] abbrev point : UInt8 := 0x2E
@[match_pattern] abbrev slash : UInt8 := 0x2F
@[match_pattern] abbrev zero : UInt8 := 0x30
@[match_pattern] abbrev colon : UInt8 := 0x3A
@[match_pattern] abbrev openBracket : UInt8 := 0x5B
@[match_pattern] abbrev backslash : UInt8 := 0x5C
@[match_pattern] abbrev closeBracket : UInt8 := 0x5D
@[match_pattern] abbrev letterB : UInt8 := 0x62
@[match_pattern] abbrev letterF : UInt8 := 0x66
@[match_pattern] abbrev letterN : UInt8 := 0x6E
@[match_pattern] abbrev letterR : UInt8 := 0x72
@[match_pattern] abbrev letterT : UInt8 := 0x74
@[match_pattern] abbrev letterU : UInt8 := 0x75
@[match_pattern] abbrev openBrace : UInt8 := 0x7B
@[match_pattern] abbrev closeBrace : UInt8 := 0x7D

/-- Space, tab, line feed and carriage return may stand between any two tokens. -/
def isBlank (b : UInt8) : Bool := b == 0x20 || b == 0x09 || b == 0x0A || b == 0x0D

def isDigit (b : UInt8) : Bool := 0x30 ≤ b && b ≤ 0x39

def digitValue (b : UInt8) : Nat := b.toNat - 0x30

/-- The value of a hexadecimal digit, in either case. -/
def hexValue? (b : UInt8) : Option Nat :=
  if isDigit b then some (digitValue b)
  else if 0x61 ≤ b && b ≤ 0x66 then some (b.toNat - 0x61 + 10)
  else if 0x41 ≤ b && b ≤ 0x46 then some (b.toNat - 0x41 + 10)
  else none

/-- Control bytes never stand unescaped inside a string. -/
def isControl (b : UInt8) : Bool := b < 0x20

end Byte

/-- Drops the blanks in front of a text. -/
def skipBlanks (text : Bytes) : Bytes := text.dropWhile Byte.isBlank

theorem length_skipBlanks_le (text : Bytes) : (skipBlanks text).length ≤ text.length :=
  (List.dropWhile_sublist _).length_le

@[simp] theorem skipBlanks_nil : skipBlanks [] = [] := rfl

def utf8? (bytes : Bytes) : Option String := String.fromUTF8? ⟨bytes.toArray⟩

def utf8 (text : String) : Bytes := text.toUTF8.data.toList

inductive Fault where
  | endOfText
  | malformed
  deriving DecidableEq, Repr

/-- The message of a fault is its kind. How a parser words it, and the position it adds, are left out. -/
def Fault.message : Fault → String
  | .endOfText => "eof"
  | .malformed => "syntax"

theorem Fault.message_injective {a b : Fault} (same : a.message = b.message) : a = b := by
  cases a <;> cases b <;> simp [message] at same ⊢

/-- The fault of a text that cannot go on with `rest`. -/
def Fault.before {α : Type} : List α → Fault
  | [] => .endOfText
  | _ :: _ => .malformed

theorem map_eq_ok_iff {ε α β : Type} {x : Except ε α} {f : α → β} {b : β} :
    x.map f = .ok b ↔ ∃ a, x = .ok a ∧ f a = b := by
  cases x <;> simp [Except.map]

theorem bind_eq_ok_iff {ε α β : Type} {x : Except ε α} {f : α → Except ε β} {b : β} :
    x >>= f = .ok b ↔ ∃ a, x = .ok a ∧ f a = .ok b := by
  cases x <;> simp [bind, Except.bind]

end FabricSurvey.Json
