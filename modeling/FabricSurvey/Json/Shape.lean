import FabricSurvey.Json.Draft
import FabricSurvey.Json.Error
import FabricSurvey.Json.Value

/-!
# Shapes

A shape says what JSON a type is written as: integers, strings, flags, lists, options, and records
with named fields in a fixed order. `Shape.Data` is the type of the values of a shape; decoding and
encoding are defined once, by recursion on the shape, and every record of the library gets them by
naming its shape.

A record is read from an object or from an array of its fields. In an object the fields come in any
order, unknown ones are stepped over, and a known one comes at most once. A field left out takes the
zero of its shape, unless it is required.
-/

namespace FabricSurvey.Json

/-- What a record does about a field that is left out. -/
inductive Presence where
  /-- The record is refused. In an object, an option left out is absent. -/
  | required
  /-- The field is zero. -/
  | defaulted
  /-- The field is zero, and an absent option is left out in writing as well. -/
  | omitted
  deriving DecidableEq, Repr

mutual

inductive Shape where
  | word
  | count
  | text
  | flag
  | list (item : Shape)
  | option (item : Shape)
  | record (name : String) (fields : Fields)

inductive Fields where
  | nil
  | cons (name : String) (presence : Presence) (shape : Shape) (rest : Fields)

end

mutual

/-- The values of a shape. -/
@[reducible] def Shape.Data : Shape → Type
  | .word => UInt32
  | .count => Int64
  | .text => String
  | .flag => Bool
  | .list item => List item.Data
  | .option item => Option item.Data
  | .record _ fields => fields.Data

/-- The values of all fields, in order. -/
@[reducible] def Fields.Data : Fields → Type
  | .nil => Unit
  | .cons _ _ shape rest => shape.Data × rest.Data

end

/-- The values of the fields read so far. -/
@[reducible] def Fields.Slots : Fields → Type
  | .nil => Unit
  | .cons _ _ shape rest => Option shape.Data × rest.Slots

def Fields.length : Fields → Nat
  | .nil => 0
  | .cons _ _ _ rest => rest.length + 1

def Fields.names : Fields → List String
  | .nil => []
  | .cons name _ _ rest => name :: rest.names

def Fields.empty : (fields : Fields) → fields.Slots
  | .nil => ()
  | .cons _ _ _ rest => (none, rest.empty)

mutual

def Shape.zero : (shape : Shape) → shape.Data
  | .word => (0 : UInt32)
  | .count => (0 : Int64)
  | .text => ""
  | .flag => false
  | .list _ => []
  | .option _ => none
  | .record _ fields => fields.zero

def Fields.zero : (fields : Fields) → fields.Data
  | .nil => ()
  | .cons _ _ shape rest => (shape.zero, rest.zero)

end

def faultless {α : Type} : Except Fault α → Except Error α
  | .ok value => .ok value
  | .error fault => .error (.fault fault)

def textOf (content : Bytes) : Except Error String :=
  match Quoted.text? content with
  | some text => .ok text
  | none => .error (.fault .malformed)

def readText (text : Bytes) : Except Error (String × Bytes) :=
  match Quoted.scan text with
  | .ok (content, rest) => do .ok (← textOf content, rest)
  | .error _ => .error (.fault (Quoted.fault text))

def numberOf (numeral : Numeral) : Except Error Number :=
  match numeral.number? with
  | some number => .ok number
  | none => .error (.fault .malformed)

/-- What a value is, as far as its first character or its whole scalar tells. -/
def Draft.found : Draft → Except Error Found
  | .null => .ok .null
  | .flag value => .ok (.flag value)
  | .number numeral => do
    match ← numberOf numeral with
    | .integer value => .ok (.integer value)
    | .floating => .ok .floating
  | .string content => do .ok (.text (← textOf content))
  | .array _ _ => .ok .sequence
  | .object _ _ => .ok .map
  | .broken used _ => .error (.fault used)

def mismatch {α : Type} (draft : Draft) (expected : Expected) : Except Error α := do
  let found ← draft.found
  .error (.wrongType found expected)

def integerIn (low high : Int) (expected : Expected) : Draft → Except Error Int
  | .number numeral => do
    match ← numberOf numeral with
    | .integer value =>
      if low ≤ value && value ≤ high then .ok value else .error (.outOfRange value expected)
    | .floating => .error (.wrongType .floating expected)
  | draft => mismatch draft expected

def decodeWord (draft : Draft) : Except Error UInt32 := do
  .ok (UInt32.ofNat (← integerIn 0 0xFFFFFFFF .word draft).toNat)

def decodeCount (draft : Draft) : Except Error Int64 := do
  .ok (Int64.ofInt (← integerIn (-0x8000000000000000) 0x7FFFFFFFFFFFFFFF .count draft))

def decodeText : Draft → Except Error String
  | .string content => textOf content
  | draft => mismatch draft .text

def decodeFlag : Draft → Except Error Bool
  | .flag value => .ok value
  | draft => mismatch draft .flag

/-- The value of a field that a record leaves out. -/
def Shape.leftOut (shape : Shape) (name : String) : Presence → Except Error shape.Data
  | .required =>
    match shape with
    | .option _ => .ok none
    | _ => .error (.missingField name)
  | .defaulted => .ok shape.zero
  | .omitted => .ok shape.zero

/-- The value of a field that an array is too short for. -/
def Shape.tooShort (shape : Shape) (index : Nat) (record : String) (total : Nat) :
    Presence → Except Error shape.Data
  | .required => .error (.tooShort index record total)
  | .defaulted => .ok shape.zero
  | .omitted => .ok shape.zero

def Fields.finish : (fields : Fields) → fields.Slots → Except Error fields.Data
  | .nil, _ => .ok ()
  | .cons name presence shape rest, slots => do
    let value ← match slots.1 with
      | some value => .ok value
      | none => shape.leftOut name presence
    let values ← rest.finish slots.2
    .ok (value, values)

mutual

def Shape.decode : (shape : Shape) → Draft → Except Error shape.Data
  | .word, draft => decodeWord draft
  | .count, draft => decodeCount draft
  | .text, draft => decodeText draft
  | .flag, draft => decodeFlag draft
  | .list item, draft =>
    match draft with
    | .array items ending => do
      let values ← items.mapM fun draft => item.decode draft
      faultless (Draft.checkBracket ending)
      .ok values
    | draft => mismatch draft .sequence
  | .option item, draft =>
    match draft with
    | .null => .ok none
    | draft => do .ok (some (← item.decode draft))
  | .record name fields, draft =>
    match draft with
    | .array items ending => fields.ofItems name fields.length 0 items ending
    | .object entries ending => do
      let slots ← entries.foldlM (fun slots entry => do
        let key ← textOf entry.1
        fields.put slots key entry.2) fields.empty
      faultless (Draft.checkEnd ending)
      fields.finish slots
    | draft => mismatch draft (.record name)

/-- Reads one entry of an object into the slot of its field. -/
def Fields.put : (fields : Fields) → fields.Slots → String → Draft → Except Error fields.Slots
  | .nil, _, _, draft => faultless draft.skip
  | .cons name _ shape rest, slots, key, draft =>
    if key = name then
      if slots.1.isSome then .error (.duplicateField name)
      else do .ok (some (← shape.decode draft), slots.2)
    else do .ok (slots.1, ← rest.put slots.2 key draft)

/-- Reads a record from the items of an array, of which there may be too few but not too many. -/
def Fields.ofItems : (fields : Fields) → (record : String) → (total index : Nat) →
    List Draft → Option Fault → Except Error fields.Data
  | .nil, _, _, _, items, ending =>
    match items with
    | [] => faultless (Draft.checkBracket ending)
    | _ :: _ => .error (.fault .malformed)
  | .cons _ presence shape rest, record, total, index, items, ending =>
    match items with
    | item :: items => do
      let value ← shape.decode item
      let values ← rest.ofItems record total (index + 1) items ending
      .ok (value, values)
    | [] => do
      faultless (Draft.checkBracket ending)
      let value ← shape.tooShort index record total presence
      let values ← rest.ofItems record total (index + 1) [] ending
      .ok (value, values)

end

def Shape.leavesOut : (shape : Shape) → Presence → shape.Data → Bool
  | .option _, .omitted, none => true
  | _, _, _ => false

mutual

def Shape.encode : (shape : Shape) → shape.Data → Value
  | .word, value => .integer (UInt32.toNat value)
  | .count, value => .integer (Int64.toInt value)
  | .text, value => .string value
  | .flag, value => .flag value
  | .list item, values => .array (List.map (fun value => item.encode value) values)
  | .option item, value =>
    match value with
    | none => .null
    | some value => item.encode value
  | .record _ fields, values => .object (fields.entries values)

/-- The entries of a written record, in the order of its fields. -/
def Fields.entries : (fields : Fields) → fields.Data → List (String × Value)
  | .nil, _ => []
  | .cons name presence shape rest, values =>
    if shape.leavesOut presence values.1 then rest.entries values.2
    else (name, shape.encode values.1) :: rest.entries values.2

end

end FabricSurvey.Json
