import FabricSurvey.Proofs.Grammar.Extent

/-!
# Items and members

The text of an array is cut into the texts of its items at the commas between them, and that of an object
into its members, each one a key and the text of a value. Nothing is asked of these values but that one
who steps over them finds their end. Reading such a text gives the drafts of its parts in their order,
and every text that is read as a faultless object is cut in this way.
-/

namespace FabricSurvey.Json

/-- What the value at the front of a text is read as. -/
def Draft.of (text : Bytes) : Draft := (Draft.read text).1

/-- A text of one value that can be stepped over. Blanks may stand around it. -/
structure OneValue (text : Bytes) : Prop where
  skips : (Draft.of text).skip = .ok ()
  blank : Blanks (Draft.read text).2

/-- What may stand between the quotes of a key. -/
def ClosedKey (key : Bytes) : Prop := Quoted.scan (key ++ [Byte.quote]) = .ok (key, [])

/-- A member of an object: its key as it stands between the quotes, and the text of its value. -/
structure Member where
  key : Bytes
  value : Bytes
  deriving DecidableEq

inductive ItemText : Bytes → Bytes → Prop
  | intro {value : Bytes} (one : OneValue value) : ItemText value value

inductive MemberText : Member → Bytes → Prop
  | intro {before key gap value : Bytes} (blank : Blanks before) (closed : ClosedKey key)
      (parted : Blanks gap) (one : OneValue value) :
      MemberText ⟨key, value⟩
        (before ++ Byte.quote :: (key ++ Byte.quote :: (gap ++ Byte.colon :: value)))

/-- The texts of one or more parts, with commas between them. -/
inductive Commas {α : Type} (part : α → Bytes → Prop) : List α → Bytes → Prop
  | last {a : α} {text : Bytes} (only : part a text) : Commas part [a] text
  | next {a : α} {others : List α} {text more : Bytes} (first : part a text)
      (rest : Commas part others more) : Commas part (a :: others) (text ++ Byte.comma :: more)

/-- The texts of any number of parts between two brackets, with blanks around these. -/
inductive Between {α : Type} (opening closing : UInt8) (part : α → Bytes → Prop) :
    List α → Bytes → Prop
  | none {before gap after : Bytes} (blankBefore : Blanks before) (blank : Blanks gap)
      (blankAfter : Blanks after) :
      Between opening closing part [] (before ++ opening :: (gap ++ closing :: after))
  | some {parts : List α} {before inner after : Bytes} (blankBefore : Blanks before)
      (inside : Commas part parts inner) (blankAfter : Blanks after) :
      Between opening closing part parts (before ++ opening :: (inner ++ closing :: after))

abbrev ArrayText : List Bytes → Bytes → Prop := Between Byte.openBracket Byte.closeBracket ItemText

abbrev ObjectText : List Member → Bytes → Prop := Between Byte.openBrace Byte.closeBrace MemberText

def Member.entry (member : Member) : Bytes × Draft := (member.key, Draft.of member.value)

namespace Draft

theorem itemAt_of_read {text after : Bytes} {item : Draft} {steps : Nat}
    (h : read text = (item, after)) (skips : item.skip = .ok ()) (enough : 2 * text.length ≤ steps) :
    ItemAt steps text item after := by
  unfold read at h
  split at h
  · cases h
    cases skips
  · rename_i b tail first
    have shorter := length_of_skipBlanks_eq first
    exact ⟨first, (readValue_eq_of_le (by omega)).trans h⟩

theorem read_of_itemAt {text after : Bytes} {item : Draft} {steps : Nat}
    (h : ItemAt steps text item after) (enough : 2 * text.length ≤ steps) :
    read text = (item, after) := by
  obtain @⟨b, tail, first, value⟩ := h
  have shorter := length_of_skipBlanks_eq first
  rw [read, first]
  exact (readValue_eq_of_le (by omega)).symm.trans value

end Draft

/-- A byte that can stand behind a value: it is no blank, and no numeral goes on with it. -/
structure Delimits (stop : UInt8) : Prop where
  visible : Byte.isBlank stop = false
  ends : Byte.isDigit stop = false ∧ stop ≠ Byte.point ∧ stop ≠ 0x65 ∧ stop ≠ 0x45

theorem delimits_comma : Delimits Byte.comma := ⟨by decide, by decide⟩

theorem delimits_closeBracket : Delimits Byte.closeBracket := ⟨by decide, by decide⟩

theorem delimits_closeBrace : Delimits Byte.closeBrace := ⟨by decide, by decide⟩

theorem OneValue.itemAt {value : Bytes} (one : OneValue value) {stop : UInt8} (h : Delimits stop)
    (rest : Bytes) (steps : Nat) (enough : 2 * (value ++ stop :: rest).length ≤ steps) :
    ∃ after, skipBlanks after = stop :: rest ∧
      Draft.ItemAt steps (value ++ stop :: rest) (Draft.of value) after := by
  have whole : Draft.read value = (Draft.of value, (Draft.read value).2) := rfl
  obtain ⟨front, same, -, again⟩ := Draft.read_append whole one.skips
  have read := again ((Draft.read value).2 ++ stop :: rest)
    (Draft.admits_of_ends (Draft.ends_of_gap one.blank (Draft.ends_cons h.ends rest)))
  rw [← List.append_assoc, ← same] at read
  exact ⟨_, Draft.skipBlanks_gap one.blank h.visible rest,
    Draft.itemAt_of_read read one.skips enough⟩

theorem OneValue.exists_first {value : Bytes} (one : OneValue value) (rest : Bytes) :
    ∃ b tail, skipBlanks (value ++ rest) = b :: tail ∧ b ≠ Byte.closeBracket := by
  have skips := one.skips
  rw [Draft.of, Draft.read] at skips
  split at skips
  · cases skips
  · rename_i b tail first
    obtain ⟨gap, rfl, blank, visible⟩ := exists_of_skipBlanks first
    refine ⟨b, tail ++ rest, ?_, ?_⟩
    · rw [List.append_assoc, List.cons_append, Draft.skipBlanks_gap blank visible]
    · rintro rfl
      rw [Draft.readValue.eq_def] at skips
      cases skips

theorem MemberText.exists_first {member : Member} {text : Bytes} (h : MemberText member text)
    (rest : Bytes) : ∃ tail, skipBlanks (text ++ rest) = Byte.quote :: tail := by
  obtain ⟨blank⟩ := h
  rw [List.append_assoc, List.cons_append, Draft.skipBlanks_gap blank (by decide)]
  exact ⟨_, rfl⟩

theorem memberText_of {key value : Bytes} (closed : ClosedKey key) (one : OneValue value) :
    MemberText ⟨key, value⟩ (Byte.quote :: (key ++ Byte.quote :: Byte.colon :: value)) :=
  .intro blanks_nil closed blanks_nil one

def objectOf (key value : Bytes) : Bytes :=
  Byte.openBrace :: (Byte.quote :: (key ++ Byte.quote :: Byte.colon :: value) ++ [Byte.closeBrace])

theorem objectText_of {key value : Bytes} (closed : ClosedKey key) (one : OneValue value) :
    ObjectText [⟨key, value⟩] (objectOf key value) :=
  .some blanks_nil (.last (memberText_of closed one)) blanks_nil

theorem MemberText.entryAt {member : Member} {text : Bytes} (h : MemberText member text)
    {stop : UInt8} (delimits : Delimits stop) (rest : Bytes) (steps : Nat)
    (enough : 2 * (text ++ stop :: rest).length ≤ steps) :
    ∃ after, skipBlanks after = stop :: rest ∧
      Draft.EntryAt steps (text ++ stop :: rest) member.key (Draft.of member.value) after := by
  obtain @⟨before, key, gap, value, blank, closed, parted, one⟩ := h
  simp only [List.append_assoc, List.cons_append, List.length_append, List.length_cons] at enough ⊢
  have enough : 2 * (value ++ stop :: rest).length ≤ steps := by
    simp only [List.length_append, List.length_cons]
    omega
  obtain ⟨after, behind, item⟩ := one.itemAt delimits rest steps enough
  obtain ⟨-, rescan⟩ := Quoted.scan_extent closed
  exact ⟨after, behind, Draft.skipBlanks_gap blank (by decide) _, rescan _,
    Draft.skipBlanks_gap parted (by decide) _, item⟩

namespace Draft

theorem readItems_of_commas {values : List Bytes} {text : Bytes} (h : Commas ItemText values text)
    (rest : Bytes) (steps : Nat)
    (enough : 2 * (text ++ Byte.closeBracket :: rest).length + 1 ≤ steps) :
    readItems steps (text ++ Byte.closeBracket :: rest) = ((values.map Draft.of, none), rest) := by
  induction h generalizing steps with
  | last only =>
      obtain ⟨one⟩ := only
      cases steps with
      | zero => omega
      | succ steps =>
          have fewer := Nat.le_of_succ_le_succ enough
          obtain ⟨after, behind, item⟩ := one.itemAt delimits_closeBracket rest steps fewer
          exact (readItems_step item rest).2 behind
  | @next value others text more first _ ih =>
      obtain ⟨one⟩ := first
      rw [List.append_assoc, List.cons_append] at enough ⊢
      cases steps with
      | zero => omega
      | succ steps =>
          have fewer := Nat.le_of_succ_le_succ enough
          obtain ⟨after, behind, item⟩ := one.itemAt delimits_comma _ steps fewer
          have shorter : 2 * (more ++ Byte.closeBracket :: rest).length + 1 ≤ steps := by
            simp only [List.length_append, List.length_cons] at enough ⊢
            omega
          rw [(readItems_step item _).1 behind, ih steps shorter]
          rfl

theorem readEntries_of_commas {members : List Member} {text : Bytes}
    (h : Commas MemberText members text) (rest : Bytes) (steps : Nat)
    (enough : 2 * (text ++ Byte.closeBrace :: rest).length + 1 ≤ steps) :
    readEntries steps (text ++ Byte.closeBrace :: rest) =
      ((members.map Member.entry, .closed), rest) := by
  induction h generalizing steps with
  | last only =>
      cases steps with
      | zero => omega
      | succ steps =>
          have fewer := Nat.le_of_succ_le_succ enough
          obtain ⟨after, behind, entry⟩ := only.entryAt delimits_closeBrace rest steps fewer
          exact (readEntries_step entry rest).2 behind
  | @next member others text more first _ ih =>
      rw [List.append_assoc, List.cons_append] at enough ⊢
      cases steps with
      | zero => omega
      | succ steps =>
          have fewer := Nat.le_of_succ_le_succ enough
          obtain ⟨after, behind, entry⟩ := first.entryAt delimits_comma _ steps fewer
          have shorter : 2 * (more ++ Byte.closeBrace :: rest).length + 1 ≤ steps := by
            simp only [List.length_append, List.length_cons] at enough ⊢
            omega
          rw [(readEntries_step entry _).1 behind, ih steps shorter]
          rfl

theorem read_arrayText {values : List Bytes} {text : Bytes} (h : ArrayText values text) :
    ∃ gap, read text = (.array (values.map Draft.of) none, gap) ∧ Blanks gap := by
  cases h with
  | none blankBefore blank blankAfter =>
      refine ⟨_, ?_, blankAfter⟩
      rw [read, skipBlanks_gap blankBefore (by decide)]
      exact readValue_noItems blank _ _
  | @some _ before inner after blankBefore inside blankAfter =>
      refine ⟨_, ?_, blankAfter⟩
      obtain ⟨b, tail, first, other⟩ : ∃ b tail,
          skipBlanks (inner ++ Byte.closeBracket :: after) = b :: tail ∧ b ≠ Byte.closeBracket := by
        cases inside with
        | last only =>
            obtain ⟨one⟩ := only
            exact one.exists_first _
        | next first =>
            obtain ⟨one⟩ := first
            rw [List.append_assoc]
            exact one.exists_first _
      have items := readItems_of_commas inside after _ (Nat.le_refl _)
      rw [read, skipBlanks_gap blankBefore (by decide)]
      dsimp only
      rw [readValue_items first other, items]

/-- The text of an object is read as the object of its members. -/
theorem read_objectText {members : List Member} {text : Bytes} (h : ObjectText members text) :
    ∃ gap, read text = (.object (members.map Member.entry) .closed, gap) ∧ Blanks gap := by
  cases h with
  | none blankBefore blank blankAfter =>
      refine ⟨_, ?_, blankAfter⟩
      rw [read, skipBlanks_gap blankBefore (by decide)]
      exact readValue_noEntries blank _ _
  | @some _ before inner after blankBefore inside blankAfter =>
      refine ⟨_, ?_, blankAfter⟩
      obtain ⟨tail, first⟩ : ∃ tail,
          skipBlanks (inner ++ Byte.closeBrace :: after) = Byte.quote :: tail := by
        cases inside with
        | last only => exact only.exists_first _
        | next first =>
            rw [List.append_assoc]
            exact first.exists_first _
      have entries := readEntries_of_commas inside after _ (Nat.le_refl _)
      rw [read, skipBlanks_gap blankBefore (by decide)]
      dsimp only
      rw [readValue_entries first (by decide), entries]

theorem of_arrayText {values : List Bytes} {text : Bytes} (h : ArrayText values text) :
    Draft.of text = .array (values.map Draft.of) none := by
  obtain ⟨gap, read, -⟩ := read_arrayText h
  rw [Draft.of, read]

theorem of_objectText {members : List Member} {text : Bytes} (h : ObjectText members text) :
    Draft.of text = .object (members.map Member.entry) .closed := by
  obtain ⟨gap, read, -⟩ := read_objectText h
  rw [Draft.of, read]

theorem exists_oneValue {text after more : Bytes} {item : Draft} {stop : UInt8}
    (h : read text = (item, after)) (skips : item.skip = .ok ())
    (behind : skipBlanks after = stop :: more) :
    ∃ value, text = value ++ stop :: more ∧ OneValue value := by
  obtain ⟨gap, rfl, blank, -⟩ := exists_of_skipBlanks behind
  obtain ⟨front, rfl, -, again⟩ := read_append h skips
  have ends := ends_of_gap blank ends_nil
  rw [List.append_nil] at ends
  have alone := again gap (admits_of_ends ends)
  refine ⟨front ++ gap, (List.append_assoc ..).symm, ?_, ?_⟩
  · rw [Draft.of, alone, skips]
  · rwa [alone]

theorem exists_memberText {steps : Nat} {text key after more : Bytes} {item : Draft} {stop : UInt8}
    (h : EntryAt steps text key item after) (skips : item.skip = .ok ())
    (behind : skipBlanks after = stop :: more) (enough : 2 * text.length ≤ steps) :
    ∃ member front, text = front ++ stop :: more ∧ MemberText member front := by
  obtain ⟨quoted, scanned, colon, itemAt⟩ := h
  obtain ⟨before, rfl, blank, -⟩ := exists_of_skipBlanks quoted
  obtain ⟨rfl, rescan⟩ := Quoted.scan_extent scanned
  obtain ⟨gap, rfl, parted, -⟩ := exists_of_skipBlanks colon
  simp only [List.length_append, List.length_cons] at enough
  obtain ⟨value, rfl, one⟩ := exists_oneValue (read_of_itemAt itemAt (by omega)) skips behind
  exact ⟨⟨key, value⟩, _, by simp, .intro blank (rescan []) parted one⟩

theorem exists_commas {steps : Nat} {text rest : Bytes} {entries : List (Bytes × Draft)}
    {ending : ObjectEnd} (h : readEntries steps text = ((entries, ending), rest))
    (skips : skipEntries entries = .ok ()) (ended : skipEnd ending = .ok ())
    (enough : 2 * text.length + 1 ≤ steps) :
    ∃ members inner, text = inner ++ Byte.closeBrace :: rest ∧ Commas MemberText members inner := by
  induction steps generalizing text entries with
  | zero => omega
  | succ steps ih =>
      obtain ⟨key, item, after, entry, item_skips, goes_on⟩ := entries_of_read h skips ended
      have enough := Nat.le_of_succ_le_succ enough
      rcases goes_on with ⟨more, others, comma, hr, others_skip, rfl⟩ | ⟨closing, rfl, rfl⟩
      · obtain ⟨member, front, rfl, first⟩ := exists_memberText entry item_skips comma enough
        simp only [List.length_append, List.length_cons] at enough
        obtain ⟨members, inner, rfl, inside⟩ := ih hr others_skip (by omega)
        exact ⟨member :: members, front ++ Byte.comma :: inner, by simp, .next first inside⟩
      · obtain ⟨member, front, rfl, only⟩ := exists_memberText entry item_skips closing enough
        exact ⟨[member], front, rfl, .last only⟩

theorem eq_openBrace_of_readValue {steps : Nat} {b : UInt8} {text gap : Bytes}
    {entries : List (Bytes × Draft)} {ending : ObjectEnd}
    (h : readValue (steps + 1) b text = (.object entries ending, gap)) : b = Byte.openBrace := by
  have noWord {word : Bytes} {value : Draft} (leaf : value.closing? = none) :
      readWord word value text ≠ (.object entries ending, gap) := by
    unfold readWord
    split
    · rintro same
      rw [(Prod.mk.inj same).1] at leaf
      cases leaf
    · nofun
  rw [readValue.eq_def] at h
  dsimp only at h
  split at h
  · exact absurd h (noWord rfl)
  · exact absurd h (noWord rfl)
  · exact absurd h (noWord rfl)
  · unfold readString at h
    split at h <;> cases h
  · split at h <;> cases h
  · rfl
  · split at h
    · unfold readNumber at h
      split at h <;> cases h
    · cases h

/-- A text that is read as a faultless object is the text of an object with some members. -/
theorem exists_objectText {text gap : Bytes} {entries : List (Bytes × Draft)} {ending : ObjectEnd}
    (h : read text = (.object entries ending, gap)) (skips : (object entries ending).skip = .ok ())
    (blankAfter : Blanks gap) : ∃ members, ObjectText members text := by
  unfold read at h
  split at h
  · cases h
  · rename_i b tail first
    obtain rfl := eq_openBrace_of_readValue h
    obtain ⟨before, rfl, blankBefore, -⟩ := exists_of_skipBlanks first
    cases started : skipBlanks tail with
    | nil =>
        rw [readValue.eq_def] at h
        simp only [started] at h
        cases h
        cases skips
    | cons second more =>
        by_cases closed : second = Byte.closeBrace
        · subst closed
          obtain ⟨inner, rfl, blank, -⟩ := exists_of_skipBlanks started
          rw [readValue_noEntries blank] at h
          cases h
          exact ⟨[], .none blankBefore blank blankAfter⟩
        · rw [readValue_entries started closed] at h
          cases h
          obtain ⟨_, entries_skip, ended⟩ := bind_eq_ok_iff.1 skips
          obtain ⟨members, inner, split, inside⟩ := exists_commas rfl entries_skip ended (Nat.le_refl _)
          refine ⟨members, ?_⟩
          rw [split]
          exact .some blankBefore inside blankAfter

end Draft

end FabricSurvey.Json
