import FabricSurvey.Json.Bytes

/-!
# Quoted text

The bytes between two quotes are delimited first and understood later. Delimiting (`scan`) looks at
escapes only as far as the end of the string needs it. Understanding (`unescape`, `text?`) also asks
that escaped surrogates come in pairs and that the result is UTF-8.
-/

namespace FabricSurvey.Json.Quoted

def shortEscape? : UInt8 → Option UInt8
  | Byte.quote => some Byte.quote
  | Byte.backslash => some Byte.backslash
  | Byte.slash => some Byte.slash
  | Byte.letterB => some 0x08
  | Byte.letterF => some 0x0C
  | Byte.letterN => some 0x0A
  | Byte.letterR => some 0x0D
  | Byte.letterT => some 0x09
  | _ => none

def unit? (a b c d : UInt8) : Option Nat := do
  let a ← Byte.hexValue? a
  let b ← Byte.hexValue? b
  let c ← Byte.hexValue? c
  let d ← Byte.hexValue? d
  return ((a * 16 + b) * 16 + c) * 16 + d

def push (b : UInt8) (r : Except Fault (Bytes × Bytes)) : Except Fault (Bytes × Bytes) :=
  r.map fun p => (b :: p.1, p.2)

/-- The content up to the closing quote, as written, and the text after that quote. A unit escape
needs four bytes after its letter, whatever they are. -/
def scan : Bytes → Except Fault (Bytes × Bytes)
  | [] => .error .endOfText
  | Byte.quote :: text => .ok ([], text)
  | Byte.backslash :: Byte.letterU :: a :: b :: c :: d :: text =>
    if (unit? a b c d).isSome then
      push Byte.backslash <| push Byte.letterU <| push a <| push b <| push c <| push d <| scan text
    else .error .malformed
  | Byte.backslash :: Byte.letterU :: _ => .error .endOfText
  | Byte.backslash :: e :: text =>
    if (shortEscape? e).isSome then push Byte.backslash <| push e <| scan text
    else .error .malformed
  | [Byte.backslash] => .error .endOfText
  | b :: text => if Byte.isControl b then .error .malformed else push b (scan text)

theorem length_push {b : UInt8} {r : Except Fault (Bytes × Bytes)} {p : Bytes × Bytes} {n : Nat}
    (h : push b r = .ok p) (hr : ∀ q, r = .ok q → q.2.length ≤ n) : p.2.length ≤ n := by
  cases r with
  | error e => simp [push, Except.map] at h
  | ok q =>
    simp only [push, Except.map, Except.ok.injEq] at h
    subst h
    exact hr q rfl

theorem length_scan {text : Bytes} {p : Bytes × Bytes} (h : scan text = .ok p) :
    p.2.length ≤ text.length := by
  fun_induction scan text generalizing p with
  | case1 => simp at h
  | case2 text => cases h; simp
  | case3 a b c d text hu ih =>
    refine length_push h fun q hq => length_push hq fun q hq => length_push hq fun q hq =>
      length_push hq fun q hq => length_push hq fun q hq => length_push hq fun q hq => ?_
    have := ih hq
    simp only [List.length_cons]
    omega
  | case4 => simp at h
  | case5 => simp at h
  | case6 e text _ _ he ih =>
    refine length_push h fun q hq => length_push hq fun q hq => ?_
    have := ih hq
    simp only [List.length_cons]
    omega
  | case7 => simp at h
  | case8 => simp at h
  | case9 => simp at h
  | case10 b text _ _ _ _ _ _ ih =>
    refine length_push h fun q hq => ?_
    have := ih hq
    simp only [List.length_cons]
    omega

def isLeading (unit : Nat) : Bool := 0xD800 ≤ unit && unit ≤ 0xDBFF

def isTrailing (unit : Nat) : Bool := 0xDC00 ≤ unit && unit ≤ 0xDFFF

/-- The character beyond the first 65536 that a surrogate pair stands for. -/
def pair (leading trailing : Nat) : Char :=
  Char.ofNat (0x10000 + (leading - 0xD800) * 0x400 + (trailing - 0xDC00))

/-- Puts the bytes of a character in front of the text understood so far. -/
def emit (c : Char) (r : Except Fault Bytes) : Except Fault Bytes :=
  r.map (String.utf8EncodeChar c ++ ·)

/-- The bytes that the content of a string stands for, or the first fault in it, an end of the content
counting as the end of the text. -/
def unescape : Bytes → Except Fault Bytes
  | [] => .ok []
  | Byte.backslash :: Byte.letterU :: a :: b :: c :: d :: text =>
    match unit? a b c d with
    | none => .error .malformed
    | some unit =>
      if isTrailing unit then .error .malformed
      else if isLeading unit then
        match text with
        | [] => .error .endOfText
        | [Byte.backslash] => .error .endOfText
        | Byte.backslash :: Byte.letterU :: a :: b :: c :: d :: text =>
          match unit? a b c d with
          | none => .error .malformed
          | some second =>
            if isTrailing second then emit (pair unit second) (unescape text) else .error .malformed
        | Byte.backslash :: Byte.letterU :: _ => .error .endOfText
        | _ => .error .malformed
      else emit (Char.ofNat unit) (unescape text)
  | Byte.backslash :: Byte.letterU :: _ => .error .endOfText
  | Byte.backslash :: e :: text =>
    match shortEscape? e with
    | some b => (unescape text).map (b :: ·)
    | none => .error .malformed
  | [Byte.backslash] => .error .endOfText
  | b :: text => if Byte.isControl b then .error .malformed else (unescape text).map (b :: ·)

def text? (content : Bytes) : Option String :=
  match unescape content with
  | .ok bytes => utf8? bytes
  | .error _ => none

/-- What is wrong with a string whose closing quote is never reached. -/
def fault (text : Bytes) : Fault :=
  match unescape text with
  | .ok _ => .endOfText
  | .error f => f

end FabricSurvey.Json.Quoted
