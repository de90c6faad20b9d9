import FabricSurvey.Address.Socket
import FabricSurvey.Node
import FabricSurvey.Text.Offset
import FabricSurvey.Text.Split

/-!
# Identities in one line

An identity is written `id:name:management` or `id:name:management:data`. A management address in
brackets is an IP address and may have a port after it; without brackets everything after the first
colon is the data address, and a data address that starts like a port is refused, unless it is an IPv6
address that merely looks so.

`readBySlices` is the reader as it works on the bytes of a line: behind a bracket it finds offsets and
takes slices between them. A slice that does not exist is an outcome of its own, apart from a line that
is refused.
-/

namespace FabricSurvey.Identity

open Text

def isPort (text : List Char) : Bool := (number? max16 text).isSome

def firstPart (text : List Char) : List Char :=
  match splitFirst? ':' text with
  | some (first, _) => first
  | none => text

/-- Divides what follows the bracketed host of a management address into the rest of that address and
the data address. -/
def divideAfterBracket (after : List Char) : Option (List Char × List Char) :=
  match after with
  | [] => some ([], [])
  | ':' :: tail =>
    match splitFirst? ':' tail with
    | some (port, data) =>
      if isPort port then some (':' :: port, data) else some ([], tail)
    | none => if isPort tail then some (':' :: tail, []) else some ([], tail)
  | _ => none

/-- Divides the text after the name into the management address and the data address. -/
def divideAddresses (text : List Char) : Option (List Char × List Char) :=
  match text with
  | '[' :: inner => do
    let (host, after) ← splitFirst? ']' inner
    if (IPAddress.parse? host).isNone then none
    else do
      let (rest, data) ← divideAfterBracket after
      return ('[' :: host ++ ']' :: rest, data)
  | _ =>
    let (management, data) := (splitFirst? ':' text).getD (text, [])
    if isPort (firstPart data) ∧ (IPAddress.parse? data).isNone then none
    else some (management, data)

def parseChars? (text : List Char) : Option Identity := do
  let (id, rest) ← splitFirst? ':' text
  let (name, rest) ← splitFirst? ':' rest
  let id ← number? max32 id
  if name = [] ∨ rest = [] then none
  else do
    let (management, data) ← divideAddresses rest
    return ⟨UInt32.ofNat id, String.ofList name, String.ofList data, String.ofList management⟩

/-- Reads an identity from one line. -/
def parse? (text : String) : Option Identity := parseChars? text.toList

/-- Why no identity comes out of a line. -/
inductive LineFault where
  | refused
  | badSlice (start stop : Nat)
  deriving DecidableEq, Repr

def orRefused {α : Type} : Option α → Except LineFault α
  | some a => .ok a
  | none => .error .refused

def sliced (start stop : Nat) (text : List Char) : Except LineFault (List Char) :=
  match slice? start stop text with
  | some part => .ok part
  | none => .error (.badSlice start stop)

/-- Divides a text whose management address starts with a bracket, which is closed at an offset. -/
def divideAtBracket (close : Nat) (text : List Char) : Except LineFault (List Char × List Char) := do
  let after ← sliced (close + 1) (byteSize text) text
  match after with
  | ':' :: tail =>
    match (splitFirst? ':' tail).filter fun parts => isPort parts.1 with
    | some (port, data) => return (← sliced 0 (close + 2 + byteSize port) text, data)
    | none =>
      if isPort tail then return (text, [])
      else return (← sliced 0 (close + 1) text, tail)
  | [] => return (text, [])
  | _ => .error .refused

def divideBySlices (text : List Char) : Except LineFault (List Char × List Char) :=
  if text.head? = some '[' then do
    let close ← orRefused (offset? ']' text)
    let host ← sliced 1 close text
    if (IPAddress.parse? host).isNone then .error .refused
    else divideAtBracket close text
  else
    let (management, data) := (splitFirst? ':' text).getD (text, [])
    if isPort (firstPart data) ∧ (IPAddress.parse? data).isNone then .error .refused
    else .ok (management, data)

/-- Reads an identity from the bytes of one line. -/
def readBySlices (text : String) : Except LineFault Identity := do
  let (id, rest) ← orRefused (splitFirst? ':' text.toList)
  let (name, rest) ← orRefused (splitFirst? ':' rest)
  let id ← orRefused (number? max32 id)
  if name = [] ∨ rest = [] then .error .refused
  else do
    let (management, data) ← divideBySlices rest
    return ⟨UInt32.ofNat id, String.ofList name, String.ofList data, String.ofList management⟩

end FabricSurvey.Identity
