import FabricSurvey.Address.Domain.Composition
import FabricSurvey.Address.Domain.Marks
import FabricSurvey.Address.Domain.Punycode
import FabricSurvey.Address.Domain.Table
import FabricSurvey.Text.CodePoints

/-!
# Domains

A domain is a text of any characters with dots between its labels. It is looked up in a form of ASCII
characters alone, in which a label with others is written in Punycode behind a sign. A label that is
written so from the start has to be the form of one that could stand there plainly.

A domain may be written in many ways: with capitals, with letters of other shapes, with characters
that only say where a line may break. Mapping reads them all as one, and refuses what no domain is
written with. Joiners stand only where they can be seen to matter: behind a mark that leaves a vowel
out, and the one that keeps letters apart also between two letters that would be joined without it. A
domain with a character that is written from right to left could be shown in an order other than that
of its characters; in it every label begins with a letter, its end is of the direction in which it
begins, and nothing in it is of the other one. Only characters that a domain may be written with count
in the tables, so a range may reach across others.
-/

namespace FabricSurvey.Domain

open Text

structure Shift where
  first : Nat
  last : Nat
  step : Nat
  target : Nat
  deriving DecidableEq, Repr

def Shift.image? (shift : Shift) (c : Char) : Option Char :=
  let n := c.toNat
  if shift.first ≤ n && n ≤ shift.last && (n - shift.first) % shift.step == 0 then
    some (Char.ofNat (shift.target + (n - shift.first)))
  else none

def shifts : List Shift :=
  (rowsOf shiftTable).filterMap fun
    | [first, last, step, target] => some ⟨first, last, step, target⟩
    | _ => none

/-- The characters that stand for others beside those of the runs. -/
def respellings : List (Nat × List Char) :=
  (rowsOf respellingTable).filterMap fun
    | c :: others => some (c, others.map Char.ofNat)
    | [] => none

def allowedRanges : List (Nat × Nat) := rangesOf allowedTable

def ignoredRanges : List (Nat × Nat) := rangesOf ignoredTable

def respelling? (c : Char) : Option (List Char) :=
  match shifts.findSome? (·.image? c) with
  | some other => some [other]
  | none => respellings.lookup c.toNat

def isIgnored (c : Char) : Bool := inRanges ignoredRanges c

def isAllowed (c : Char) : Bool := inRanges allowedRanges c

/-- What a character of a domain is read as. Of the ASCII characters only the capitals stand for
others. -/
def mapChar? (c : Char) : Option (List Char) :=
  if isAscii c then some [c.toLower]
  else match respelling? c with
    | some others => some others
    | none => if isIgnored c then some [] else if isAllowed c then some [c] else none

def mapped? (domain : List Char) : Option (List Char) :=
  (domain.mapM mapChar?).map List.flatten

def isKept (c : Char) : Bool := mapChar? c == some [c]

theorem mapped?_eq_self {domain : List Char} (h : ∀ c ∈ domain, isKept c = true) :
    mapped? domain = some domain := by
  have hmap : domain.mapM mapChar? = some (domain.map fun c => [c]) := by
    induction domain with
    | nil => rfl
    | cons c domain ih =>
      have hc : mapChar? c = some [c] := by simpa [isKept] using h c (by simp)
      simp [List.mapM_cons, hc, ih fun d hd => h d (by simp [hd])]
  rw [mapped?, hmap, Option.map_some, ← List.flatMap_def, List.flatMap_singleton']

def dualJoiningTable : String :=
  "620, 626, 628, 62A 62E, 633 63F, 641 647, 649 64A, 66E 66F, 679 687, 69A 6BF, 6C1 6C2, 6CC, 6CE,
   6D0 6D1, 6FA 6FC, 6FF, 712 714, 71A 71D, 71F 727, 729, 72B, 72D 72E, 74E 758, 75C 76A, 76D 770,
   772, 775 777, 77A 77F, 7CA 7EA, 841 845, 848, 84A 853, 855, 860, 862 865, 868, 886, 889 88D, 88F,
   8A0 8A9, 8AF 8B0, 8B3 8B8, 8BA 8C8, 1807, 1820 1878, 1887 18A8, 18AA, A840 A871, 10AC0 10AC4,
   10AD3 10AD6, 10AD8 10ADC, 10ADE 10AE0, 10AEB 10AEE, 10B80, 10B82, 10B86 10B88, 10B8A 10B8B,
   10B8D, 10B90, 10BAD 10BAE, 10D01 10D21, 10D23, 10EC3 10EC4, 10EC6 10EC7, 10F30 10F32,
   10F34 10F44, 10F51 10F53, 10F70 10F73, 10F76 10F81, 10FB0, 10FB2 10FB3, 10FB8, 10FBB 10FBC,
   10FBE 10FBF, 10FC1, 10FC4, 10FCA, 1E922 1E943"

def rightJoiningTable : String :=
  "622 625, 627, 629, 62F 632, 648, 671 673, 688 699, 6C0, 6C3 6CB, 6CD, 6CF, 6D2 6D3, 6D5, 6EE 6EF,
   710, 715 719, 71E, 728, 72A, 72C, 72F, 74D, 759 75B, 76B 76C, 771, 773 774, 778 779, 840,
   846 847, 849, 854, 856 858, 867, 869 882, 88E, 8AA 8AC, 8AE, 8B1 8B2, 8B9, 10AC5, 10AC7,
   10AC9 10ACA, 10ACE 10AD2, 10ADD, 10AE1, 10AE4, 10AEF, 10B81, 10B83 10B85, 10B89, 10B8C,
   10B8E 10B8F, 10B91, 10BA9 10BAC, 10D22, 10EC2, 10F33, 10F54, 10F74 10F75, 10FB4 10FB6,
   10FB9 10FBA, 10FBD, 10FC2 10FC3, 10FC9"

def leftJoiningTable : String :=
  "A872, 10ACD, 10AD7, 10D00, 10FCB"

def dualJoiningRanges : List (Nat × Nat) := rangesOf dualJoiningTable
def rightJoiningRanges : List (Nat × Nat) := rangesOf rightJoiningTable
def leftJoiningRanges : List (Nat × Nat) := rangesOf leftJoiningTable

/-- Keeps letters apart that would be joined. -/
def nonJoiner : Char := Char.ofNat 0x200C

/-- Joins letters that would stand apart. -/
def joiner : Char := Char.ofNat 0x200D

def isTransparent (c : Char) : Bool := isNonspacing c || c.toNat == 0x1E94B

def joinsNext (c : Char) : Bool := inRanges dualJoiningRanges c || inRanges leftJoiningRanges c

def joinsPrevious (c : Char) : Bool := inRanges dualJoiningRanges c || inRanges rightJoiningRanges c

/-- Whether a non-joiner or joiner may stand between two texts, the one before it in reverse. -/
def mayStand (c : Char) (before after : List Char) : Bool :=
  let next? (text : List Char) : Option Char := text.find? (!isTransparent ·)
  before.head?.any (combiningClass · == virama) ||
    (c == nonJoiner && (next? before).any joinsNext && (next? after).any joinsPrevious)

def joinersFit (before : List Char) : List Char → Bool
  | [] => true
  | c :: after =>
    (!(c == nonJoiner || c == joiner) || mayStand c before after) && joinersFit (c :: before) after

/-- The part that a character plays when a line is laid out. -/
inductive Direction where
  | leftToRight
  | rightToLeft
  | europeanNumber
  | arabicNumber
  /-- It follows the character it marks. -/
  | mark
  | neutral
  deriving DecidableEq, Repr

def rightToLeftTable : String :=
  "5BE 5F4, 608, 60B, 60D, 61B 64A, 66D 6D5, 6E5 6E6, 6EE 6EF, 6FA 7F5, 7FA 8C9, FBB2 FBC2, FE73,
   10800 1091B, 10920 10B35, 10B40 10D23, 10D4A 10D4F, 10D6F 10D8F, 10E80 10EC7, 10F00 10FF6,
   1E800 1ED3D"

def arabicNumberTable : String :=
  "660 669, 66B 66C, 10D30 10D49, 10E60 10E7E"

def europeanNumberTable : String :=
  "30 39, 6F0 6F9, 102E1 102FB"

def neutralTable : String :=
  "0 2F, 3A 60, 7B D7, F7, 2B9 2BA, 2C2 2CF, 2D2 2ED, 2EF 2FF, 375, 3F6, 58A 58F, 606 607, 609 60A,
   60C, 60E 60F, 66A, 6DE, 6E9, 7F6 7F9, 9F2 9F3, 9FB, AF1, BF3 BFA, C78 C7E, E3F, F3A F3D,
   1390 1399, 1400, 169B 169C, 17DB, 17F0 180A, 1940 1945, 19DE 19FF, 200C 214D, 218A 2335,
   237B 2394, 2396 26AB, 26AD 27FF, 2900 2BFF, 2CE5 2CEA, 2CF9 2CFF, 2E00 3004, 3008 3020, 3030,
   3037, 303D 303F, 30A0, 30FB, 31C0 31E5, 4DC0 4DFF, A490 A4C6, A60D A60F, A673 A67F, A700 A721,
   A788, A828 A82B, A838 A839, A874 A877, AB6A AB6B, FBC3 FE46, 10101, 10140 1018C, 10190 101A0,
   1091F, 10B39 10B3F, 10D6E, 10ED0 10ED8, 11052 11065, 11660 1166C, 11FD5 11FF1, 16FE2,
   1CC00 1CEF0, 1D1E9 1D245, 1D300 1D356, 1DB00 1DBFF, 1E2FF, 1EEF0 1F12F, 1F16D 1F16F, 1F1AD,
   1F260 1FBFA"

/-- Marks without room of their own that do not follow the character they mark. -/
def ownDirectionTable : String := "CBF, CC6, 1B3A, 1B3C, 1B42, 11A07 11A08, 11C3F"

def rightToLeftRanges : List (Nat × Nat) := rangesOf rightToLeftTable
def arabicNumberRanges : List (Nat × Nat) := rangesOf arabicNumberTable
def europeanNumberRanges : List (Nat × Nat) := rangesOf europeanNumberTable
def neutralRanges : List (Nat × Nat) := rangesOf neutralTable
def ownDirectionRanges : List (Nat × Nat) := rangesOf ownDirectionTable

namespace Direction

def of (c : Char) : Direction :=
  if inRanges europeanNumberRanges c then .europeanNumber
  else if inRanges arabicNumberRanges c then .arabicNumber
  else if isNonspacing c && !inRanges ownDirectionRanges c then .mark
  else if inRanges rightToLeftRanges c then .rightToLeft
  else if inRanges neutralRanges c then .neutral
  else .leftToRight

def isBackward : Direction → Bool
  | .rightToLeft | .arabicNumber => true
  | _ => false

/-- Whether a character of this direction may stand in a label that begins in some direction. -/
def mayFollow (start : Direction) : Direction → Bool
  | .europeanNumber | .mark | .neutral => true
  | .arabicNumber => start == .rightToLeft
  | direction => direction == start

def mayEnd (start : Direction) : Direction → Bool
  | .europeanNumber => true
  | .arabicNumber => start == .rightToLeft
  | direction => direction == start

/-- Whether the characters of a label stay together. Numbers of both kinds do not, if it begins from
right to left. -/
def fit : List Direction → Bool
  | [] => true
  | start :: more =>
    let directions := start :: more
    let last? := directions.reverse.find? (· != .mark)
    (start == .leftToRight || start == .rightToLeft) && directions.all start.mayFollow &&
      last?.all start.mayEnd &&
      !(start == .rightToLeft && directions.contains .europeanNumber &&
        directions.contains .arabicNumber)

end Direction

/-- Whether the labels of a domain can be shown in order. -/
def keepsDirection (labels : List (List Char)) : Bool :=
  let directions := labels.map (·.map Direction.of)
  !directions.any (·.any Direction.isBackward) || directions.all Direction.fit

def punycodeSign : List Char := "xn--".toList

/-- ASCII characters that no domain holds: those that have a meaning where a domain stands. -/
def isDenied (c : Char) : Bool :=
  c.toNat ≤ 0x20 || c.toNat == 0x7F || "%#/:<>?@[\\]^|".toList.contains c

structure Label where
  text : List Char
  /-- The label as it is looked up. -/
  ascii : List Char
  deriving DecidableEq, Repr

/-- Whether a label may be read so. -/
def isSound (text : List Char) : Bool :=
  !text.any isDenied && !text.head?.any isMark && joinersFit [] text

/-- Whether the text of a label is one that Punycode is for. No label of more than 1000 characters is put
into it. -/
def isEncodable (text : List Char) : Bool := !text.all isAscii && text.length ≤ 1000

/-- The label of a form in Punycode, which has no more than 2000 characters. -/
def Label.ofPunycode? (form : List Char) : Option Label := do
  if 2000 < form.length || form.getLast? == some '-' then none
  else
    let text ← Punycode.decode? form
    if isEncodable text && text.all isKept && composed text == text then
      return ⟨text, punycodeSign ++ form⟩
    else none

/-- The label of a text in composed form. -/
def Label.of? (text : List Char) : Option Label :=
  match punycodeSign.isPrefixOf? text with
  | some form => if text.all isAscii then ofPunycode? form else none
  | none =>
    if text.all isAscii then some ⟨text, text⟩
    else if isEncodable text then some ⟨text, punycodeSign ++ Punycode.encode text⟩
    else none

/-- The form in which a domain is looked up. -/
def ascii? (domain : List Char) : Option (List Char) := do
  let domain ← mapped? domain
  let labels ← (splitAll (· == '.') (composed domain)).mapM Label.of?
  if labels.all (isSound ·.text) && keepsDirection (labels.map (·.text)) then
    return ['.'].intercalate (labels.map (·.ascii))
  else none

end FabricSurvey.Domain
