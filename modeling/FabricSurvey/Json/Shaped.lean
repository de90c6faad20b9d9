import FabricSurvey.Json.Draft
import FabricSurvey.Json.Shape
import Std.Data.ExtTreeMap

/-!
# Types with a shape, and tables

A type with a shape is the same as the values of that shape, by a bijection that is part of the
instance. It is then read from a draft and written as a value without further definitions.

A table is an object whose keys are data: texts, or 32-bit integers in quotes. Of two entries with one
key the later counts. A table is kept by its key order alone, so the order of its entries in a text
leaves no trace.
-/

namespace FabricSurvey.Json

class Shaped (α : Type) where
  shape : Shape
  ofData : shape.Data → α
  toData : α → shape.Data
  ofData_toData : ∀ value, ofData (toData value) = value
  toData_ofData : ∀ data, toData (ofData data) = data

namespace Shaped

theorem map_map_cancel {α β : Type} {f : β → α} {g : α → β} (h : ∀ a, f (g a) = a) :
    ∀ items : List α, (items.map g).map f = items
  | [] => rfl
  | a :: items => by simp [h, Function.comp_def]

theorem option_map_cancel {α β : Type} {f : β → α} {g : α → β} (h : ∀ a, f (g a) = a) :
    ∀ item : Option α, (item.map g).map f = item
  | none => rfl
  | some a => congrArg some (h a)

instance : Shaped UInt32 := ⟨.word, id, id, fun _ => rfl, fun _ => rfl⟩

instance : Shaped Int64 := ⟨.count, id, id, fun _ => rfl, fun _ => rfl⟩

instance : Shaped String := ⟨.text, id, id, fun _ => rfl, fun _ => rfl⟩

instance : Shaped Bool := ⟨.flag, id, id, fun _ => rfl, fun _ => rfl⟩

instance {α : Type} [Shaped α] : Shaped (List α) where
  shape := .list (shape α)
  ofData := List.map ofData
  toData := List.map toData
  ofData_toData := map_map_cancel ofData_toData
  toData_ofData := map_map_cancel toData_ofData

instance {α : Type} [Shaped α] : Shaped (Option α) where
  shape := .option (shape α)
  ofData := Option.map ofData
  toData := Option.map toData
  ofData_toData := option_map_cancel ofData_toData
  toData_ofData := option_map_cancel toData_ofData

end Shaped

/-- Reads a value of a type from a draft. -/
def decode (α : Type) [Shaped α] (draft : Draft) : Except Error α :=
  ((Shaped.shape α).decode draft).map Shaped.ofData

/-- Writes a value of a type. -/
def encode {α : Type} [Shaped α] (value : α) : Value :=
  (Shaped.shape α).encode (Shaped.toData value)

def zero (α : Type) [Shaped α] : α := Shaped.ofData (Shaped.shape α).zero

def endWhole (rest : Bytes) : Except Error Unit :=
  match skipBlanks rest with
  | [] => .ok ()
  | _ :: _ => .error (.fault .malformed)

/-- Reads the one value of a whole text. -/
def readWhole {α : Type} (decode : Draft → Except Error α) (text : Bytes) : Except Error α := do
  let (draft, rest) := Draft.read text
  let value ← decode draft
  endWhole rest
  .ok value

def parse (α : Type) [Shaped α] (text : Bytes) : Except Error α := readWhole (decode α) text

open Std (ExtTreeMap TransOrd)

/-- How a key is read from the bytes after its opening quote, up to and including the closing quote
where there is one. -/
class TableKey (κ : Type) where
  read : Bytes → Except Error κ

/-- A key that is an integer: a numeral directly between the quotes, escapes not being decoded. -/
def readWordKey (text : Bytes) : Except Error UInt32 :=
  match text with
  | [] => .error .keyNotNumeral
  | b :: _ =>
    if b == Byte.minus || Byte.isDigit b then do
      let (numeral, rest) ← faultless (Numeral.scan text)
      let key ← decodeWord (.number numeral)
      match rest with
      | Byte.quote :: _ => .ok key
      | _ => .error (.fault .malformed)
    else .error .keyNotNumeral

def readTextKey (text : Bytes) : Except Error String := (readText text).map (·.1)

instance : TableKey UInt32 := ⟨readWordKey⟩

instance : TableKey String := ⟨readTextKey⟩

def openKeyError (κ : Type) [TableKey κ] (text : Bytes) : Error :=
  match TableKey.read (κ := κ) text with
  | .ok _ => .fault .malformed
  | .error e => e

def tableEnd (κ : Type) [TableKey κ] : ObjectEnd → Except Error Unit
  | .closed => .ok ()
  | .cut fault => .error (.fault fault)
  | .openKey text => .error (openKeyError κ text)

def readEntry {κ α : Type} [Ord κ] [TransOrd κ] [TableKey κ] [Shaped α]
    (table : ExtTreeMap κ α) (entry : Bytes × Draft) : Except Error (ExtTreeMap κ α) := do
  let key ← TableKey.read (entry.1 ++ [Byte.quote])
  let value ← decode α entry.2
  .ok (table.insert key value)

/-- Reads a table, giving the first error in the order of the text. -/
def decodeTable (κ α : Type) [Ord κ] [TransOrd κ] [TableKey κ] [Shaped α] :
    Draft → Except Error (ExtTreeMap κ α)
  | .object entries ending => do
    let table ← entries.foldlM readEntry ∅
    tableEnd κ ending
    .ok table
  | draft => mismatch draft .map

end FabricSurvey.Json
