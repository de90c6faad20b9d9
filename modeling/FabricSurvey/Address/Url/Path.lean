import FabricSurvey.Text.Natural
import FabricSurvey.Text.Split

/-!
# Paths of URLs

A byte may be written as a percent sign and two hexadecimal digits. Which characters are written so
depends on where they stand; controls and all that is not ASCII are so everywhere, by the bytes of
their UTF-8 form.

The path of a URL is brought into one form: tabs and line ends are left out, every byte that may not
stand in it is encoded, and a segment of one or two dots is followed instead of kept. A segment that
names a drive stays where it is, whatever comes after it. The path of a file may begin with a drive
and belongs to no host then.
-/

namespace FabricSurvey.Text

def percent (b : UInt8) : List Char :=
  ['%', (Nat.digitChar (b.toNat / 16)).toUpper, (Nat.digitChar (b.toNat % 16)).toUpper]

def percentEncodeChar (reserved : List Char) (c : Char) : List Char :=
  if c.toNat < 0x20 || 0x7F ≤ c.toNat || reserved.contains c then
    (String.utf8EncodeChar c).flatMap percent
  else [c]

def percentEncode (reserved : String) (text : List Char) : List Char :=
  text.flatMap (percentEncodeChar reserved.toList)

/-- The bytes of a text, in which a percent sign without two digits after it stands for itself. -/
def percentBytes : List Char → List UInt8
  | [] => []
  | '%' :: a :: b :: text =>
    match digit? 16 a, digit? 16 b with
    | some high, some low => UInt8.ofNat (high * 16 + low) :: percentBytes text
    | _, _ => 0x25 :: percentBytes (a :: b :: text)
  | c :: text => String.utf8EncodeChar c ++ percentBytes text

def percentDecode? (text : List Char) : Option (List Char) :=
  (String.fromUTF8? ⟨(percentBytes text).toArray⟩).map String.toList

end FabricSurvey.Text

namespace FabricSurvey.Url

open Text

/-- A backslash counts as a slash. -/
def isSlash (c : Char) : Bool := c == '/' || c == '\\'

/-- Tabs and line ends count for nothing, wherever they stand. -/
def isBreak (c : Char) : Bool := c == '\t' || c == '\n' || c == '\r'

def withoutBreaks (text : List Char) : List Char := text.filter (!isBreak ·)

def takeSlash? (text : List Char) : Option (List Char) :=
  match text.dropWhile isBreak with
  | c :: rest => if isSlash c then some rest else none
  | [] => none

def pathReserved : String := " \"#<>?`\x7b\x7d"

def spelled (segment : List Char) : List Char := percentEncode pathReserved (withoutBreaks segment)

def isDot (segment : List Char) : Bool :=
  [".", "%2e"].contains (String.ofList (segment.map Char.toLower))

def isDoubleDot (segment : List Char) : Bool :=
  ["..", ".%2e", "%2e.", "%2e%2e"].contains (String.ofList (segment.map Char.toLower))

def isDrive : List Char → Bool
  | [letter, sign] => letter.isAlpha && (sign == ':' || sign == '|')
  | _ => false

/-- Whether a segment is a drive, or would be one if backslashes were slashes. -/
def beginsWithDrive (segment : List Char) : Bool := isDrive (segment.takeWhile (· != '\\'))

/-- The drive with a colon at the head of a segment, and what a tab or a line end divides from it. -/
def takeDrive? (segment : List Char) : Option (List Char × List Char) :=
  match segment.dropWhile isBreak with
  | [] => none
  | letter :: rest =>
    match rest.dropWhile isBreak with
    | ':' :: c :: rest =>
      if letter.isAlpha && isBreak c && !rest.all isBreak then some ([letter, ':'], rest) else none
    | _ => none

/-- A path as far as it has been followed. -/
structure Path where
  /-- The segments, the last one first. -/
  trail : List (List Char) := []
  /-- Whether it begins with a drive and so belongs to no host. -/
  onDrive : Bool := false
  deriving DecidableEq, Repr

namespace Path

def push (path : Path) (segment : List Char) : Path := { path with trail := segment :: path.trail }

def parent (path : Path) : Path :=
  if path.trail.head?.any beginsWithDrive then path else { path with trail := path.trail.tail }

/-- Follows some segments. A function says where one leads that is not made of dots. -/
def follow (enter : Path → List Char → Path) (path : Path) : List (List Char) → Path
  | [] => path
  | segment :: more =>
    let isUp := isDoubleDot (spelled segment)
    if isUp || isDot (spelled segment) then
      let path := if isUp then path.parent else path
      if more.isEmpty then path.push [] else follow enter path more
    else follow enter (enter path segment) more

def enterPlain (path : Path) (segment : List Char) : Path := path.push (spelled segment)

/-- Enters a segment of the path of a file, where the first one may be a drive. A drive that is divided
from what follows makes a segment of its own, but leaves the path to its host. -/
def enterFile (path : Path) (segment : List Char) : Path :=
  if !path.trail.isEmpty then path.push (spelled segment)
  else match takeDrive? segment with
    | some (drive, rest) => (path.push drive).push (spelled rest)
    | none =>
      if isDrive (spelled segment) then
        { path.push ((spelled segment).take 1 ++ [':']) with onDrive := true }
      else path.push (spelled segment)

def of (isSeparator : Char → Bool) (text : List Char) : Path :=
  let text := match text with
    | c :: rest => if isSeparator c then rest else text
    | [] => []
  follow enterPlain {} (splitAll isSeparator text)

/-- The path of a file. A slash in front of it makes its first segment empty. -/
def ofFile (text : List Char) : Path := follow enterFile {} (splitAll isSlash text)

def chars (path : Path) : List Char := path.trail.reverse.flatMap fun segment => '/' :: segment

/-- The text of the path of a file, which never begins with an empty segment. -/
def fileChars (path : Path) : List Char := '/' :: path.chars.dropWhile (· == '/')

end Path

end FabricSurvey.Url
