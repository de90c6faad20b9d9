import FabricSurvey.Json.Bytes

/-!
# Values to be written

What this library writes as JSON: no fractions, objects with their fields in a fixed order. There are
two layouts, one line without blanks, and one entry a line indented by two spaces.
-/

namespace FabricSurvey.Json

inductive Value where
  | null
  | flag (value : Bool)
  | integer (value : Int)
  | string (value : String)
  | array (items : List Value)
  | object (entries : List (String × Value))
  deriving Repr, Inhabited

namespace Value

def controlDigits (n : Nat) : List Char :=
  [Nat.digitChar (n / 16), Nat.digitChar (n % 16)]

/-- How a character is written inside a string: quotes, backslashes and controls are escaped. -/
def escapedChar (c : Char) : List Char :=
  let n := c.toNat
  if n = 0x22 then ['\\', Char.ofNat 0x22]
  else if n = 0x5C then ['\\', '\\']
  else if n = 0x08 then ['\\', 'b']
  else if n = 0x0C then ['\\', 'f']
  else if n = 0x0A then ['\\', 'n']
  else if n = 0x0D then ['\\', 'r']
  else if n = 0x09 then ['\\', 't']
  else if n < 0x20 then ['\\', 'u', '0', '0'] ++ controlDigits n
  else [c]

def quoted (s : String) : List Char :=
  Char.ofNat 0x22 :: s.toList.flatMap escapedChar ++ [Char.ofNat 0x22]

/-- Joins the texts of items with commas and puts `mark` in front of each of them. -/
def joined (mark : List Char) : List (List Char) → List Char
  | [] => []
  | [item] => mark ++ item
  | item :: items => mark ++ item ++ ',' :: joined mark items

def lineStart (depth : Nat) : List Char := '\n' :: List.replicate (2 * depth) ' '

def openBrace : Char := Char.ofNat 0x7B
def closeBrace : Char := Char.ofNat 0x7D

mutual

/-- On one line, without blanks. -/
def compactChars : Value → List Char
  | .null => "null".toList
  | .flag value => (if value then "true" else "false").toList
  | .integer value => (toString value).toList
  | .string value => quoted value
  | .array items => '[' :: joined [] (compactItems items) ++ [']']
  | .object entries => openBrace :: joined [] (compactEntries entries) ++ [closeBrace]

def compactItems : List Value → List (List Char)
  | [] => []
  | item :: items => compactChars item :: compactItems items

def compactEntries : List (String × Value) → List (List Char)
  | [] => []
  | entry :: entries => (quoted entry.1 ++ ':' :: compactChars entry.2) :: compactEntries entries

end

mutual

/-- One item or entry a line. Empty arrays and objects stay on theirs. -/
def prettyChars (depth : Nat) : Value → List Char
  | .null => "null".toList
  | .flag value => (if value then "true" else "false").toList
  | .integer value => (toString value).toList
  | .string value => quoted value
  | .array [] => ['[', ']']
  | .array (item :: items) =>
    '[' :: joined (lineStart (depth + 1)) (prettyChars (depth + 1) item :: prettyItems (depth + 1) items)
      ++ lineStart depth ++ [']']
  | .object [] => [openBrace, closeBrace]
  | .object (entry :: entries) =>
    openBrace :: joined (lineStart (depth + 1))
        ((quoted entry.1 ++ ':' :: ' ' :: prettyChars (depth + 1) entry.2) ::
          prettyEntries (depth + 1) entries)
      ++ lineStart depth ++ [closeBrace]

def prettyItems (depth : Nat) : List Value → List (List Char)
  | [] => []
  | item :: items => prettyChars depth item :: prettyItems depth items

def prettyEntries (depth : Nat) : List (String × Value) → List (List Char)
  | [] => []
  | entry :: entries =>
    (quoted entry.1 ++ ':' :: ' ' :: prettyChars depth entry.2) :: prettyEntries depth entries

end

def compact (value : Value) : String := String.ofList value.compactChars

def pretty (value : Value) : String := String.ofList (value.prettyChars 0)

end Value

end FabricSurvey.Json
