import FabricSurvey.Node
import FabricSurvey.Proofs.Rendering

/-!
# What is written is read back

The writer's value has a tree of its own, and both layouts are texts of that tree. The tree of a written
record stands for the record, so reading what was written gives the record back.
-/

namespace FabricSurvey.Json

open Draft (Written)

namespace Value

mutual

/-- The tree that both layouts of a value have. -/
def draft : Value → Draft
  | .null => .null
  | .flag value => .flag value
  | .integer value => .number (.ofInt value)
  | .string value => .string (bytesOf (value.toList.flatMap escapedChar))
  | .array items => .array (draftItems items) none
  | .object entries => .object (draftEntries entries) .closed

def draftItems : List Value → List Draft
  | [] => []
  | item :: items => draft item :: draftItems items

def draftEntries : List (String × Value) → List (Bytes × Draft)
  | [] => []
  | entry :: entries =>
    (bytesOf (entry.1.toList.flatMap escapedChar), draft entry.2) :: draftEntries entries

end

theorem spellsChar_control : ∀ n < 0x20,
    bytesOf (['\\', 'u', '0', '0'] ++ controlDigits n) =
      [Byte.backslash, Byte.letterU, Byte.zero, Byte.zero,
        UInt8.ofNat (Nat.digitChar (n / 16)).toNat, UInt8.ofNat (Nat.digitChar (n % 16)).toNat] ∧
    Quoted.unit? Byte.zero Byte.zero
      (UInt8.ofNat (Nat.digitChar (n / 16)).toNat) (UInt8.ofNat (Nat.digitChar (n % 16)).toNat) =
        some n := by
  decide

theorem spellsChar_escapedChar (c : Char) : Quoted.SpellsChar c (bytesOf (escapedChar c)) := by
  unfold escapedChar
  dsimp only
  split
  · exact .letter (b := Byte.quote) (by decide) ‹_›
  split
  · exact .letter (b := Byte.backslash) (by decide) ‹_›
  split
  · exact .letter (b := 0x08) (by decide) ‹_›
  split
  · exact .letter (b := 0x0C) (by decide) ‹_›
  split
  · exact .letter (b := 0x0A) (by decide) ‹_›
  split
  · exact .letter (b := 0x0D) (by decide) ‹_›
  split
  · exact .letter (b := 0x09) (by decide) ‹_›
  split
  · rename_i control
    obtain ⟨same, digits⟩ := spellsChar_control c.toNat control
    rw [same]
    exact .unit digits
  · rw [bytesOf_cons, bytesOf_nil, List.append_nil]
    exact .plain (Nat.not_lt.1 ‹_›) ‹_› ‹_›

theorem spells_escaped (chars : List Char) :
    Quoted.Spells chars (bytesOf (chars.flatMap escapedChar)) := by
  induction chars with
  | nil => exact .nil
  | cons c chars ih =>
      rw [List.flatMap_cons, bytesOf_append]
      exact .cons (spellsChar_escapedChar c) ih

theorem bytesOf_quoted (s : String) :
    bytesOf (quoted s) = Byte.quote :: (bytesOf (s.toList.flatMap escapedChar) ++ [Byte.quote]) := by
  rw [quoted, bytesOf_append, bytesOf_cons]
  rfl

theorem spells_integer (value : Int) :
    (Numeral.ofInt value).Spells (bytesOf (toString value).toList) := by
  have same : bytesOf (toString value).toList =
      (if value < 0 then [Byte.minus] else []) ++ Numeral.digitsOf value.natAbs := by
    rw [Int.toString_eq_repr, Int.repr_eq_if, Numeral.digitsOf]
    by_cases sign : 0 ≤ value
    · have same : value.toNat = value.natAbs := by omega
      rw [if_pos sign, if_neg (Int.not_lt.2 sign), Nat.repr_eq_ofList_toDigits, String.toList_ofList,
        same]
      rfl
    · have opposite : (-value).toNat = value.natAbs := by omega
      rw [if_neg sign, if_pos (Int.not_le.1 sign), Nat.repr_eq_ofList_toDigits, String.toList_append,
        String.toList_ofList, bytesOf_append, opposite, String.toList_ofList]
      rfl
  rw [same]
  exact Numeral.spells_ofInt value

theorem bytesOf_comma (chars : List Char) : bytesOf (',' :: chars) = Byte.comma :: bytesOf chars := rfl

theorem bytesOf_colon (chars : List Char) : bytesOf (':' :: chars) = Byte.colon :: bytesOf chars := rfl

theorem bytesOf_brackets (chars : List Char) :
    bytesOf ('[' :: chars ++ [']']) = Byte.openBracket :: (bytesOf chars ++ [Byte.closeBracket]) := by
  rw [bytesOf_append]
  rfl

theorem bytesOf_braces (chars : List Char) :
    bytesOf (openBrace :: chars ++ [closeBrace]) =
      Byte.openBrace :: (bytesOf chars ++ [Byte.closeBrace]) := by
  rw [bytesOf_append]
  rfl

theorem joined_cons_cons (mark item next : List Char) (items : List (List Char)) :
    joined mark (item :: next :: items) =
      mark ++ (item ++ ',' :: joined mark (next :: items)) := by
  rw [joined, List.append_assoc]
  exact fun h => absurd h (List.cons_ne_nil next items)

/-- The text of an item, and the draft it is the text of. -/
def ItemText (draft : Draft) (text : List Char) : Prop := Written (.value draft) (bytesOf text)

/-- The text of an entry, with a gap after its colon. -/
def EntryText (gap : List Char) (entry : Bytes × Draft) (text : List Char) : Prop :=
  ∃ key value, text = quoted key ++ ':' :: (gap ++ value) ∧
    entry.1 = bytesOf (key.toList.flatMap escapedChar) ∧ ItemText entry.2 value

section Joining

variable {mark close gap : List Char}

theorem written_joinedItems (blankMark : Blanks (bytesOf mark)) (blankClose : Blanks (bytesOf close))
    {draft : Draft} {drafts : List Draft} {text : List Char} {texts : List (List Char)}
    (first : ItemText draft text) (others : List.Forall₂ ItemText drafts texts) :
    Written (.items (draft :: drafts)) (bytesOf (joined mark (text :: texts) ++ close)) := by
  induction others generalizing draft text with
  | nil =>
      rw [joined, bytesOf_append, bytesOf_append, List.append_assoc]
      exact .lastItem blankMark first blankClose
  | cons second _ ih =>
      have whole := Written.nextItem blankMark first blanks_nil (ih second)
      rw [joined_cons_cons, List.append_assoc, List.append_assoc, List.cons_append, bytesOf_append,
        bytesOf_append, bytesOf_comma]
      exact whole

theorem written_joinedEntries (blankMark : Blanks (bytesOf mark)) (blankClose : Blanks (bytesOf close))
    (blankGap : Blanks (bytesOf gap)) {entry : Bytes × Draft} {entries : List (Bytes × Draft)}
    {text : List Char} {texts : List (List Char)} (first : EntryText gap entry text)
    (others : List.Forall₂ (EntryText gap) entries texts) :
    Written (.entries (entry :: entries)) (bytesOf (joined mark (text :: texts) ++ close)) := by
  induction others generalizing entry text with
  | nil =>
      obtain ⟨key, value, rfl, same, written⟩ := first
      have whole := Written.lastEntry blankMark (spells_escaped key.toList) blanks_nil blankGap written
        blankClose
      rw [joined]
      simpa only [bytesOf_append, bytesOf_quoted, bytesOf_colon, ← same, List.append_assoc,
        List.cons_append, List.nil_append] using whole
  | cons second _ ih =>
      obtain ⟨key, value, rfl, same, written⟩ := first
      have whole := Written.nextEntry blankMark (spells_escaped key.toList) blanks_nil blankGap written
        blanks_nil (ih second)
      rw [joined_cons_cons]
      simpa only [bytesOf_append, bytesOf_quoted, bytesOf_colon, bytesOf_comma, ← same,
        List.append_assoc, List.cons_append, List.nil_append] using whole

theorem written_array (blankMark : Blanks (bytesOf mark)) (blankClose : Blanks (bytesOf close))
    {drafts : List Draft} {texts : List (List Char)} (each : List.Forall₂ ItemText drafts texts) :
    Written (.value (.array drafts none)) (bytesOf ('[' :: joined mark texts ++ close ++ [']'])) := by
  rw [List.cons_append, bytesOf_brackets]
  cases each with
  | nil => exact .noItems blankClose
  | cons first others => exact .array (written_joinedItems blankMark blankClose first others)

theorem written_object (blankMark : Blanks (bytesOf mark)) (blankClose : Blanks (bytesOf close))
    (blankGap : Blanks (bytesOf gap)) {entries : List (Bytes × Draft)} {texts : List (List Char)}
    (each : List.Forall₂ (EntryText gap) entries texts) :
    Written (.value (.object entries .closed))
      (bytesOf (openBrace :: joined mark texts ++ close ++ [closeBrace])) := by
  rw [List.cons_append, bytesOf_braces]
  cases each with
  | nil => exact .noEntries blankClose
  | cons first others =>
      exact .object (written_joinedEntries blankMark blankClose blankGap first others)

end Joining

theorem noBlanks : Blanks (bytesOf []) := blanks_nil

theorem blanks_newline : Blanks (String.utf8EncodeChar '\n') := by
  unfold Blanks
  decide +kernel

theorem blanks_space : Blanks (String.utf8EncodeChar ' ') := by
  unfold Blanks
  decide +kernel

theorem blanks_gap : Blanks (bytesOf [' ']) := by
  rw [bytesOf_cons, bytesOf_nil, List.append_nil]
  exact blanks_space

theorem blanks_lineStart (depth : Nat) : Blanks (bytesOf (lineStart depth)) := by
  intro b hb
  rw [lineStart, bytesOf, List.mem_flatMap] at hb
  obtain ⟨c, hc, hb⟩ := hb
  rcases List.mem_cons.1 hc with rfl | hc
  · exact blanks_newline b hb
  · obtain rfl := List.eq_of_mem_replicate hc
    exact blanks_space b hb

mutual

theorem written_compact : (value : Value) → ItemText value.draft value.compactChars
  | .null => .null
  | .flag true => .yes
  | .flag false => .no
  | .integer value => .number (spells_integer value)
  | .string value => by
      rw [ItemText, compactChars, bytesOf_quoted]
      exact .string (spells_escaped value.toList)
  | .array items => by
      have whole : Written _ (bytesOf ('[' :: joined [] (compactItems items) ++ [] ++ [']'])) :=
        written_array noBlanks noBlanks (each_compactItem items)
      rw [List.append_nil] at whole
      exact whole
  | .object entries => by
      have whole : Written _
          (bytesOf (openBrace :: joined [] (compactEntries entries) ++ [] ++ [closeBrace])) :=
        written_object noBlanks noBlanks noBlanks (each_compactEntry entries)
      rw [List.append_nil] at whole
      exact whole

theorem each_compactItem :
    (items : List Value) → List.Forall₂ ItemText (draftItems items) (compactItems items)
  | [] => .nil
  | item :: items => .cons (written_compact item) (each_compactItem items)

theorem each_compactEntry : (entries : List (String × Value)) →
    List.Forall₂ (EntryText []) (draftEntries entries) (compactEntries entries)
  | [] => .nil
  | entry :: entries =>
      .cons ⟨entry.1, compactChars entry.2, rfl, rfl, written_compact entry.2⟩
        (each_compactEntry entries)

end

mutual

theorem written_pretty (depth : Nat) : (value : Value) → ItemText value.draft (value.prettyChars depth)
  | .null => .null
  | .flag true => .yes
  | .flag false => .no
  | .integer value => .number (spells_integer value)
  | .string value => by
      rw [ItemText, prettyChars, bytesOf_quoted]
      exact .string (spells_escaped value.toList)
  | .array [] => .noItems blanks_nil
  | .object [] => .noEntries blanks_nil
  | .array (item :: items) =>
      written_array (blanks_lineStart (depth + 1)) (blanks_lineStart depth)
        (.cons (written_pretty (depth + 1) item) (each_prettyItem (depth + 1) items))
  | .object (entry :: entries) =>
      written_object (blanks_lineStart (depth + 1)) (blanks_lineStart depth) blanks_gap
        (.cons ⟨entry.1, prettyChars (depth + 1) entry.2, rfl, rfl,
          written_pretty (depth + 1) entry.2⟩ (each_prettyEntry (depth + 1) entries))

theorem each_prettyItem (depth : Nat) :
    (items : List Value) → List.Forall₂ ItemText (draftItems items) (prettyItems depth items)
  | [] => .nil
  | item :: items => .cons (written_pretty depth item) (each_prettyItem depth items)

theorem each_prettyEntry (depth : Nat) : (entries : List (String × Value)) →
    List.Forall₂ (EntryText [' ']) (draftEntries entries) (prettyEntries depth entries)
  | [] => .nil
  | entry :: entries =>
      .cons ⟨entry.1, prettyChars depth entry.2, rfl, rfl, written_pretty depth entry.2⟩
        (each_prettyEntry depth entries)

end

end Value

open Value (draftItems draftEntries escapedChar spells_escaped)

theorem names_written_iff {name key : String} {draft : Draft} :
    Names name (bytesOf (key.toList.flatMap escapedChar), draft) ↔ name = key := by
  constructor
  · intro named
    exact String.toList_injective (Quoted.spells_inj named (spells_escaped key.toList))
  · rintro rfl
    exact spells_escaped name.toList

theorem Fields.namesNone_entries {name : String} : (fields : Fields) → (values : fields.Data) →
    name ∉ fields.names → NamesNone name (draftEntries (fields.entries values))
  | .nil, _, _ => fun _ hentry => absurd hentry List.not_mem_nil
  | .cons field presence shape rest, values, unknown => by
      rw [Fields.names, List.mem_cons, not_or] at unknown
      have others := rest.namesNone_entries values.2 unknown.2
      rw [Fields.entries]
      split
      · exact others
      · intro entry hentry
        rw [draftEntries, List.mem_cons] at hentry
        rcases hentry with rfl | hentry
        · exact fun named => unknown.1 (names_written_iff.1 named)
        · exact others entry hentry

theorem Shape.zero_of_leavesOut {shape : Shape} {presence : Presence} {value : shape.Data}
    (h : shape.leavesOut presence value = true) :
    value = shape.zero ∧ shape.Dispensable presence := by
  unfold Shape.leavesOut at h
  split at h
  · exact ⟨rfl, .inr ⟨_, rfl⟩⟩
  · exact absurd h Bool.false_ne_true

theorem Shape.renders_list {item : Shape}
    (h : ∀ value : item.Data, item.Renders value (item.encode value).draft) (values : List item.Data) :
    List.Forall₂ (fun value draft => item.Renders value draft) values
      (draftItems (values.map fun value => item.encode value)) := by
  induction values with
  | nil => exact .nil
  | cons value values ih => exact .cons (h value) ih

mutual

theorem Shape.renders_encode : (shape : Shape) → shape.Distinct → (value : shape.Data) →
    shape.Renders value (shape.encode value).draft
  | .word, _, _ => rfl
  | .count, _, _ => rfl
  | .text, _, value => ⟨_, rfl, spells_escaped (String.toList value)⟩
  | .flag, _, _ => rfl
  | .list item, distinct, values =>
      ⟨_, rfl, Shape.renders_list (item.renders_encode distinct) values⟩
  | .option _, _, none => rfl
  | .option item, distinct, some value => item.renders_encode distinct.2 value
  | .record _ fields, distinct, values =>
      ⟨_, rfl, fields.renders_entries distinct.1 distinct.2 values [] fun _ _ _ hentry =>
        absurd hentry List.not_mem_nil⟩

/-- The entries of a written record stand for it, also behind entries of other names. -/
theorem Fields.renders_entries : (fields : Fields) → fields.names.Nodup → fields.Distinct →
    (values : fields.Data) → (before : List (Bytes × Draft)) →
    (∀ name ∈ fields.names, NamesNone name before) →
    fields.Renders values (before ++ draftEntries (fields.entries values))
  | .nil, _, _, _, _, _ => trivial
  | .cons name presence shape rest, distinct, inner, values, before, fresh => by
      rw [Fields.names, List.nodup_cons] at distinct
      have notBefore := fresh name List.mem_cons_self
      have notAfter := rest.namesNone_entries values.2 distinct.1
      have restFresh : ∀ other ∈ rest.names, NamesNone other before := fun other hother =>
        fresh other (List.mem_cons_of_mem _ hother)
      rw [Fields.entries]
      split
      · rename_i leftOut
        have others := rest.renders_entries distinct.2 inner.2 values.2 before restFresh
        have noEntry : NamesNone name (before ++ draftEntries (rest.entries values.2)) := by
          intro entry hentry
          rcases List.mem_append.1 hentry with hentry | hentry
          · exact notBefore entry hentry
          · exact notAfter entry hentry
        exact ⟨.inr ⟨noEntry, Shape.zero_of_leavesOut leftOut⟩, others⟩
      · have entry : NamesOne name (bytesOf (name.toList.flatMap escapedChar),
            (shape.encode values.1).draft) (before ++ draftEntries ((name, shape.encode values.1) ::
              rest.entries values.2)) :=
          ⟨before, _, rfl, names_written_iff.2 rfl, notBefore, notAfter⟩
        have stillFresh : ∀ other ∈ rest.names, NamesNone other
            (before ++ [(bytesOf (name.toList.flatMap escapedChar), (shape.encode values.1).draft)]) := by
          intro other hother entry hentry
          rcases List.mem_append.1 hentry with hentry | hentry
          · exact restFresh other hother entry hentry
          · obtain rfl := List.mem_singleton.1 hentry
            rintro named
            exact distinct.1 (names_written_iff.1 named ▸ hother)
        have others := rest.renders_entries distinct.2 inner.2 values.2 _ stillFresh
        rw [List.append_assoc] at others
        exact ⟨.inl ⟨_, entry, shape.renders_encode inner.1 values.1⟩, others⟩

end

theorem encode_list {α : Type} [Shaped α] (values : List α) :
    encode values = .array (values.map encode) := congrArg Value.array List.map_map

theorem Value.wholeText_compact (value : Value) : value.draft.WholeText (utf8 value.compact) := by
  rw [Value.compact, utf8_ofList]
  exact ⟨[], _, [], (List.append_nil _).symm, blanks_nil, Value.written_compact value, blanks_nil⟩

theorem parse_itemText {α : Type} [Shaped α] (distinct : (Shaped.shape α).Distinct) (value : α)
    {text : List Char} (written : Value.ItemText (encode value).draft text) :
    parse α (utf8 (String.ofList text)) = .ok value := by
  have renders : Renders value (encode value).draft :=
    (Shaped.shape α).renders_encode distinct (Shaped.toData value)
  have whole : (encode value).draft.WholeText (bytesOf text) :=
    ⟨[], bytesOf text, [], by simp, blanks_nil, written, blanks_nil⟩
  rw [utf8_ofList, parse, readWhole_written whole]
  exact decode_of_renders distinct ⟨_, written⟩ renders

theorem parse_compact {α : Type} [Shaped α] (distinct : (Shaped.shape α).Distinct) (value : α) :
    parse α (utf8 (encode value).compact) = .ok value :=
  parse_itemText distinct value (Value.written_compact (encode value))

theorem parse_pretty {α : Type} [Shaped α] (distinct : (Shaped.shape α).Distinct) (value : α) :
    parse α (utf8 (encode value).pretty) = .ok value :=
  parse_itemText distinct value (Value.written_pretty 0 (encode value))

/-- Nodes and identities survive being written, in either layout. -/
theorem nodes_and_identities_read_back (node : Node) (identity : Identity) :
    (parse Node (utf8 (encode node).compact) = .ok node ∧
      parse Node (utf8 (encode node).pretty) = .ok node) ∧
    parse Identity (utf8 (encode identity).compact) = .ok identity ∧
      parse Identity (utf8 (encode identity).pretty) = .ok identity :=
  have node_distinct : (Shaped.shape Node).Distinct := by decide
  have identity_distinct : (Shaped.shape Identity).Distinct := by decide
  ⟨⟨parse_compact node_distinct node, parse_pretty node_distinct node⟩,
    parse_compact identity_distinct identity, parse_pretty identity_distinct identity⟩

end FabricSurvey.Json
