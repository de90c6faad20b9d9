import FabricSurvey.Json.Numeral
import FabricSurvey.Json.Quoted

/-!
# Drafts

A draft is the tree of a JSON text as far as it can be read: a text that breaks off or goes wrong
gives a draft whose last leaf, or last unfinished array or object, says how. A reader that walks a
draft from left to right therefore meets shape errors and faults in the order of the text, and the
first one it meets is the one that counts.

Numerals and strings are kept as written. Whether they are acceptable depends on who asks: a value
that is used has to be in range, paired, UTF-8 and not too deep (`check`); a value that is only
stepped over has to be delimited (`skip`).

`Draft.read` reads one value at the front of a text and gives the text after it. After a fault nothing
is left to read. The readers of values, items and entries call each other and count their steps.
Every step but those from a bracket to what it encloses takes at least one byte, so two steps a byte
and two more are always enough, and any greater number gives the same draft (`readValue_eq_of_le`).
-/

namespace FabricSurvey.Json

/-- How the entries of an object end: with its brace, with a fault before the next key, or inside the
quotes of a key, of which the rest of the text is kept. -/
inductive ObjectEnd where
  | closed
  | cut (fault : Fault)
  | openKey (text : Bytes)
  deriving DecidableEq, Repr

inductive Draft where
  | null
  | flag (value : Bool)
  | number (numeral : Numeral)
  /-- A closed string, by the bytes between its quotes. -/
  | string (content : Bytes)
  /-- Without a fault the closing bracket is there. -/
  | array (items : List Draft) (ending : Option Fault)
  | object (entries : List (Bytes × Draft)) (ending : ObjectEnd)
  /-- A value that is not one, with its fault for one who uses it and for one who steps over it. -/
  | broken (used skipped : Fault)
  deriving Repr, Inhabited

namespace Draft

/-- The deepest nesting of arrays and objects that a used value may have. -/
def maxDepth : Nat := 127

/-- What remains to be said of a text after the last entry of a used object. -/
def checkEnd : ObjectEnd → Except Fault Unit
  | .closed => .ok ()
  | .cut fault => .error fault
  | .openKey text => .error (Quoted.fault text)

def skipEnd : ObjectEnd → Except Fault Unit
  | .closed => .ok ()
  | .cut fault => .error fault
  | .openKey text =>
    match Quoted.scan text with
    | .ok _ => .ok ()
    | .error fault => .error fault

def checkText (content : Bytes) : Except Fault Unit :=
  if (Quoted.text? content).isSome then .ok () else .error .malformed

def checkBracket : Option Fault → Except Fault Unit
  | none => .ok ()
  | some fault => .error fault

mutual

/-- The first fault of a value that is used as it stands, with at most `depth` levels of nesting. -/
def check (depth : Nat) : Draft → Except Fault Unit
  | .null => .ok ()
  | .flag _ => .ok ()
  | .number numeral => if numeral.number?.isSome then .ok () else .error .malformed
  | .string content => checkText content
  | .array items ending =>
    match depth with
    | 0 => .error .malformed
    | depth + 1 => do
      checkItems depth items
      checkBracket ending
  | .object entries ending =>
    match depth with
    | 0 => .error .malformed
    | depth + 1 => do
      checkEntries depth entries
      checkEnd ending
  | .broken used _ => .error used

def checkItems (depth : Nat) : List Draft → Except Fault Unit
  | [] => .ok ()
  | item :: items => do
    check depth item
    checkItems depth items

def checkEntries (depth : Nat) : List (Bytes × Draft) → Except Fault Unit
  | [] => .ok ()
  | entry :: entries => do
    checkText entry.1
    check depth entry.2
    checkEntries depth entries

end

mutual

/-- The first fault of a value that nobody looks at. -/
def skip : Draft → Except Fault Unit
  | .null => .ok ()
  | .flag _ => .ok ()
  | .number _ => .ok ()
  | .string _ => .ok ()
  | .array items ending => do
    skipItems items
    checkBracket ending
  | .object entries ending => do
    skipEntries entries
    skipEnd ending
  | .broken _ skipped => .error skipped

def skipItems : List Draft → Except Fault Unit
  | [] => .ok ()
  | item :: items => do
    skip item
    skipItems items

def skipEntries : List (Bytes × Draft) → Except Fault Unit
  | [] => .ok ()
  | entry :: entries => do
    skip entry.2
    skipEntries entries

end

def expect : Bytes → Bytes → Except Fault Bytes
  | [], text => .ok text
  | _ :: _, [] => .error .endOfText
  | w :: word, b :: text => if b = w then expect word text else .error .malformed

def readWord (word : Bytes) (value : Draft) (text : Bytes) : Draft × Bytes :=
  match expect word text with
  | .ok rest => (value, rest)
  | .error fault => (.broken fault fault, [])

def readString (text : Bytes) : Draft × Bytes :=
  match Quoted.scan text with
  | .ok (content, rest) => (.string content, rest)
  | .error fault => (.broken (Quoted.fault text) fault, [])

/-- A numeral in front of a text. One who steps over a numeral calls any fault in it malformed. -/
def readNumber (text : Bytes) : Draft × Bytes :=
  match Numeral.scan text with
  | .ok (numeral, rest) => (.number numeral, rest)
  | .error fault => (.broken fault .malformed, [])

/-- The value of a text that ends where a value is due. -/
def missing : Draft := .broken .endOfText .endOfText

mutual

/-- The value that starts with the byte `b`. -/
def readValue (steps : Nat) (b : UInt8) (text : Bytes) : Draft × Bytes :=
  match steps with
  | 0 => (missing, [])
  | steps + 1 =>
    match b with
    | Byte.letterN => readWord [0x75, 0x6C, 0x6C] .null text
    | Byte.letterT => readWord [0x72, 0x75, 0x65] (.flag true) text
    | Byte.letterF => readWord [0x61, 0x6C, 0x73, 0x65] (.flag false) text
    | Byte.quote => readString text
    | Byte.openBracket =>
      match skipBlanks text with
      | [] => (.array [] (some .endOfText), [])
      | Byte.closeBracket :: rest => (.array [] none, rest)
      | _ :: _ =>
        let r := readItems steps text
        (.array r.1.1 r.1.2, r.2)
    | Byte.openBrace =>
      match skipBlanks text with
      | [] => (.object [] (.cut .endOfText), [])
      | Byte.closeBrace :: rest => (.object [] .closed, rest)
      | _ :: _ =>
        let r := readEntries steps text
        (.object r.1.1 r.1.2, r.2)
    | b =>
      if b == Byte.minus || Byte.isDigit b then readNumber (b :: text)
      else (.broken .malformed .malformed, [])

/-- The items of an array from the next one on. -/
def readItems (steps : Nat) (text : Bytes) : (List Draft × Option Fault) × Bytes :=
  match steps with
  | 0 => (([], some .endOfText), [])
  | steps + 1 =>
    match skipBlanks text with
    | [] => (([missing], none), [])
    | b :: tail =>
      let item := readValue steps b tail
      match skipBlanks item.2 with
      | Byte.comma :: more =>
        let r := readItems steps more
        ((item.1 :: r.1.1, r.1.2), r.2)
      | Byte.closeBracket :: more => (([item.1], none), more)
      | rest => (([item.1], some (.before rest)), [])

/-- The entries of an object from the next one on. -/
def readEntries (steps : Nat) (text : Bytes) : (List (Bytes × Draft) × ObjectEnd) × Bytes :=
  match steps with
  | 0 => (([], .cut .endOfText), [])
  | steps + 1 =>
    match skipBlanks text with
    | Byte.quote :: tail =>
      match Quoted.scan tail with
      | .error _ => (([], .openKey tail), [])
      | .ok (key, afterKey) =>
        match skipBlanks afterKey with
        | Byte.colon :: afterColon =>
          match skipBlanks afterColon with
          | [] => (([(key, missing)], .closed), [])
          | b :: tail =>
            let item := readValue steps b tail
            match skipBlanks item.2 with
            | Byte.comma :: more =>
              let r := readEntries steps more
              (((key, item.1) :: r.1.1, r.1.2), r.2)
            | Byte.closeBrace :: more => (([(key, item.1)], .closed), more)
            | rest => (([(key, item.1)], .cut (.before rest)), [])
        | rest => (([(key, .broken (.before rest) (.before rest))], .closed), [])
    | rest => (([], .cut (.before rest)), [])

end

/-- The value at the front of a text, blanks in front of it aside. -/
def read (text : Bytes) : Draft × Bytes :=
  match skipBlanks text with
  | [] => (missing, [])
  | b :: tail => readValue (2 * tail.length + 2) b tail

end Draft

end FabricSurvey.Json
