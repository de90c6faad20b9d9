import FabricSurvey.Collection.Network
import FabricSurvey.Text.Natural

/-!
# What an agent sends back

An agent is asked with one request on a connection of its own. What it sends back is a status line,
header fields and an empty line, and then the body, whose end is told by the length or by the chunks
that the header announces, or else by the close of the connection. Read this way, an answer is one of
the routes of a network: a body that ends too soon is truncated, and an answer without a sound header
is none at all.
-/

namespace FabricSurvey

open Json (Bytes)

def Url.request (url : Url) : String :=
  "GET " ++ String.ofList url.target ++ " HTTP/1.1\r\nhost: " ++ String.ofList url.location ++
    "\r\naccept: */*\r\nconnection: close\r\n\r\n"

namespace Response

/-- The line in front of a text without its line end, and the text after it. -/
def takeLine? : Bytes → Option (Bytes × Bytes)
  | [] => none
  | 0x0A :: text => some ([], text)
  | 0x0D :: 0x0A :: text => some ([], text)
  | b :: text => (takeLine? text).map fun p => (b :: p.1, p.2)

theorem length_takeLine? {text : Bytes} {p : Bytes × Bytes} (h : takeLine? text = some p) :
    p.2.length < text.length := by
  fun_induction takeLine? text generalizing p with
  | case1 => simp at h
  | case2 => cases h; simp
  | case3 => cases h; simp only [List.length_cons]; omega
  | case4 b text _ _ ih =>
    obtain ⟨q, hq, rfl⟩ := Option.map_eq_some_iff.1 h
    have := ih hq
    simp only [List.length_cons]
    omega

def takeLines? (text : Bytes) : Option (List Bytes × Bytes) :=
  match h : takeLine? text with
  | none => none
  | some ([], rest) => some ([], rest)
  | some (line, rest) =>
    have : rest.length < text.length := length_takeLine? h
    (takeLines? rest).map fun p => (line :: p.1, p.2)
termination_by text.length

/-- How the end of a body is told. -/
inductive Framing where
  | length (bytes : Nat)
  | chunked
  | untilClose
  deriving DecidableEq, Repr

structure Head where
  status : Nat
  framing : Framing
  deriving DecidableEq, Repr

def lineChars (line : Bytes) : List Char := line.map fun b => Char.ofNat b.toNat

def trimmed (text : List Char) : List Char :=
  let blank (c : Char) : Bool := c == ' ' || c == '\t'
  ((text.dropWhile blank).reverse.dropWhile blank).reverse

def field? (line : Bytes) : Option (String × List Char) := do
  let (name, value) ← Text.splitFirst? ':' (lineChars line)
  return (String.ofList (name.map Char.toLower), trimmed value)

def status? (line : Bytes) : Option Nat := do
  let (version, rest) ← Text.splitFirst? ' ' (lineChars line)
  let code := (Text.splitFirst? ' ' rest).elim rest (·.1)
  if ["HTTP/1.0", "HTTP/1.1"].contains (String.ofList version) && code.length == 3 then
    (Text.takeNumber? 10 999 code).bind fun n => if n.2.isEmpty then some n.1 else none
  else none

/-- How some header fields tell the end of the body. Chunks count before a length. -/
def framing? (fields : List (String × List Char)) : Option Framing :=
  match fields.lookup "transfer-encoding", fields.lookup "content-length" with
  | some coding, _ =>
    some (if coding.map Char.toLower = "chunked".toList then .chunked else .untilClose)
  | none, some length => (Text.number? Text.max64 length).map .length
  | none, none => some .untilClose

/-- The head in front of a text, and the text after it. -/
def takeHead? (text : Bytes) : Option (Head × Bytes) := do
  let (lines, rest) ← takeLines? text
  match lines with
  | [] => none
  | first :: more =>
    let status ← status? first
    let fields ← more.mapM field?
    let framing ← framing? fields
    return (⟨status, if status = 204 ∨ status = 304 then .length 0 else framing⟩, rest)

def chunkSize? (line : Bytes) : Option Nat :=
  (Text.takeNumber? 16 Text.max64 (lineChars line)).map (·.1)

/-- The contents of the chunks in front of a text, the last of which is empty. -/
def takeChunks? (text : Bytes) : Option Bytes :=
  match h : takeLine? text with
  | none => none
  | some (line, rest) =>
    match chunkSize? line with
    | none => none
    | some 0 => some []
    | some size =>
      match h' : takeLine? (rest.drop size) with
      | some ([], more) =>
        have : more.length < text.length := by
          have h₁ := length_takeLine? h
          have h₂ := length_takeLine? h'
          simp only [List.length_drop] at *
          omega
        (takeChunks? more).map (rest.take size ++ ·)
      | _ => none
termination_by text.length

/-- The body at the start of a text, if its end can be told before the connection is closed. -/
def Framing.body? (framing : Framing) (text : Bytes) : Option Bytes :=
  match framing with
  | .length bytes => if bytes ≤ text.length then some (text.take bytes) else none
  | .chunked => takeChunks? text
  | .untilClose => none

/-- The answer that has been received in full, if it has been. -/
def answer? (received : Bytes) : Option Route := do
  let (head, rest) ← takeHead? received
  return .answer head.status (← head.framing.body? rest)

/-- What has been received when the connection is closed. The body of a status other than success is
not asked for, so it does not matter how much of it there is. -/
def atClose (received : Bytes) : Route :=
  match takeHead? received with
  | none => .close
  | some (head, rest) =>
    match head.framing, head.framing.body? rest with
    | _, some body => .answer head.status body
    | .untilClose, none => .answer head.status rest
    | _, none => if Network.isSuccess head.status then .truncate else .answer head.status []

end Response

end FabricSurvey
