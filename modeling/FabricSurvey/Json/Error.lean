import FabricSurvey.Json.Bytes
import FabricSurvey.Text.CodePoints

/-!
# Why a text is not the value it should be

A text fails as JSON, or its value has another shape than the one asked for. The causes are kept
apart; their wording is in `Error.message` alone.
-/

namespace FabricSurvey.Json

/-- What a value turns out to be. -/
inductive Found where
  | null
  | flag (value : Bool)
  | integer (value : Int)
  | floating
  | text (value : String)
  | sequence
  | map
  deriving DecidableEq, Repr

/-- What a value was asked to be. -/
inductive Expected where
  | word
  | count
  | text
  | flag
  | sequence
  | map
  | unit
  | record (name : String)
  deriving DecidableEq, Repr

inductive Error where
  | fault (cause : Fault)
  | wrongType (found : Found) (expected : Expected)
  | outOfRange (value : Int) (expected : Expected)
  /-- An array ends before it has given every field that it has to give. -/
  | tooShort (length : Nat) (record : String) (fields : Nat)
  | missingField (name : String)
  | duplicateField (name : String)
  | unknownVariant (name : String) (known : List String)
  | keyNotNumeral
  | noForm (type : String)
  deriving DecidableEq, Repr

def Found.message : Found → String
  | .null => "null"
  | .flag value => "boolean `" ++ (if value then "true" else "false") ++ "`"
  | .integer value => "integer `" ++ toString value ++ "`"
  | .floating => "floating point"
  | .text value => "string " ++ Text.quotation value
  | .sequence => "sequence"
  | .map => "map"

def Expected.message : Expected → String
  | .word => "u32"
  | .count => "i64"
  | .text => "a string"
  | .flag => "a boolean"
  | .sequence => "a sequence"
  | .map => "a map"
  | .unit => "unit"
  | .record name => "struct " ++ name

def ticked (name : String) : String := "`" ++ name ++ "`"

def Error.message : Error → String
  | .fault cause => cause.message
  | .wrongType found expected =>
    "invalid type: " ++ found.message ++ ", expected " ++ expected.message
  | .outOfRange value expected =>
    "invalid value: " ++ (Found.integer value).message ++ ", expected " ++ expected.message
  | .tooShort length record fields =>
    "invalid length " ++ toString length ++ ", expected struct " ++ record ++ " with " ++
      toString fields ++ " elements"
  | .missingField name => "missing field " ++ ticked name
  | .duplicateField name => "duplicate field " ++ ticked name
  | .unknownVariant name known =>
    "unknown variant " ++ ticked name ++ ", expected one of " ++ ", ".intercalate (known.map ticked)
  | .keyNotNumeral => "invalid value: expected key to be a number in quotes"
  | .noForm type => "data did not match any variant of untagged enum " ++ type

/-- What a message begins with. -/
def Error.initial : Error → Char
  | .fault .endOfText => 'e'
  | .fault .malformed => 's'
  | .wrongType .. | .outOfRange .. | .tooShort .. | .keyNotNumeral => 'i'
  | .missingField _ => 'm'
  | .duplicateField _ | .noForm _ => 'd'
  | .unknownVariant .. => 'u'

theorem head?_append_of_head? {front rest : String} {c : Char} (h : front.toList.head? = some c) :
    (front ++ rest).toList.head? = some c := by
  rw [String.toList_append, List.head?_append, h]
  rfl

theorem Error.head?_message (error : Error) : error.message.toList.head? = some error.initial := by
  cases error
  case fault cause => cases cause <;> rfl
  case keyNotNumeral => rfl
  case missingField | duplicateField | noForm => exact head?_append_of_head? rfl
  case wrongType | outOfRange | unknownVariant =>
    exact head?_append_of_head? (head?_append_of_head? (head?_append_of_head? rfl))
  case tooShort =>
    iterate 6 apply head?_append_of_head?
    rfl

/-- No other error has the message of a fault, and each fault has its own. -/
theorem Error.message_eq_iff_fault {error : Error} {cause : Fault} :
    error.message = cause.message ↔ error = .fault cause := by
  constructor
  · intro same
    have begins : some error.initial = some (Error.fault cause).initial := by
      rw [← head?_message, ← head?_message, same]
      rfl
    cases error
    case fault found => rw [Fault.message_injective same]
    all_goals cases cause <;> simp [initial] at begins
  · rintro rfl
    rfl

end FabricSurvey.Json
