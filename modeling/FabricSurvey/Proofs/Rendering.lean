import Mathlib.Data.List.Forall2
import FabricSurvey.Proofs.Grammar.Faultless

/-!
# Renderings

The trees that stand for a value of a shape. Of a record that is an object in which every field is named
once, in any order, with any unknown entries between; a field may be left out if it is zero and the record
does without it. Whichever tree it is, decoding it gives the value.
-/

namespace FabricSurvey.Json

/-- The name of an entry, in any spelling. -/
def Names (name : String) (entry : Bytes × Draft) : Prop := Quoted.Spells name.toList entry.1

def NamesNone (name : String) (entries : List (Bytes × Draft)) : Prop :=
  ∀ entry ∈ entries, ¬ Names name entry

/-- One entry has a name, and no other one has. -/
def NamesOne (name : String) (entry : Bytes × Draft) (entries : List (Bytes × Draft)) : Prop :=
  ∃ before after, entries = before ++ entry :: after ∧ Names name entry ∧
    NamesNone name before ∧ NamesNone name after

/-- Records do without the fields that are not required, and without any option. -/
def Shape.Dispensable (shape : Shape) (presence : Presence) : Prop :=
  presence ≠ .required ∨ ∃ item, shape = .option item

mutual

def Shape.Renders : (shape : Shape) → shape.Data → Draft → Prop
  | .word, value, draft => draft = .number (.ofInt (UInt32.toNat value))
  | .count, value, draft => draft = .number (.ofInt (Int64.toInt value))
  | .text, value, draft =>
    ∃ content, draft = .string content ∧ Quoted.Spells (String.toList value) content
  | .flag, value, draft => draft = .flag value
  | .list item, values, draft =>
    ∃ items, draft = .array items none ∧
      List.Forall₂ (fun value item' => item.Renders value item') values items
  | .option item, value, draft =>
    match value with
    | none => draft = .null
    | some value => item.Renders value draft
  | .record _ fields, values, draft =>
    ∃ entries, draft = .object entries .closed ∧ fields.Renders values entries

/-- The entries of an object that stands for a record. -/
def Fields.Renders : (fields : Fields) → fields.Data → List (Bytes × Draft) → Prop
  | .nil, _, _ => True
  | .cons name presence shape rest, values, entries =>
    ((∃ entry, NamesOne name entry entries ∧ shape.Renders values.1 entry.2) ∨
      (NamesNone name entries ∧ values.1 = shape.zero ∧ shape.Dispensable presence)) ∧
    rest.Renders values.2 entries

end

mutual

/-- No record has two fields of one name, and null stands for one option alone. -/
def Shape.Distinct : Shape → Prop
  | .list item => item.Distinct
  | .option item => (∀ inner, item ≠ .option inner) ∧ item.Distinct
  | .record _ fields => fields.names.Nodup ∧ fields.Distinct
  | _ => True

def Fields.Distinct : Fields → Prop
  | .nil => True
  | .cons _ _ shape rest => shape.Distinct ∧ rest.Distinct

end

def Shape.decidePlain : (shape : Shape) → Decidable (∀ inner, shape ≠ .option inner)
  | .option inner => .isFalse fun plain => plain inner rfl
  | .word | .count | .text | .flag | .list _ | .record _ _ => .isTrue fun _ => Shape.noConfusion

mutual

def Shape.decideDistinct : (shape : Shape) → Decidable shape.Distinct
  | .word | .count | .text | .flag => .isTrue trivial
  | .list item => item.decideDistinct
  | .option item => @instDecidableAnd _ _ item.decidePlain item.decideDistinct
  | .record _ fields => @instDecidableAnd _ _ inferInstance fields.decideDistinct

def Fields.decideDistinct : (fields : Fields) → Decidable fields.Distinct
  | .nil => .isTrue trivial
  | .cons _ _ shape rest => @instDecidableAnd _ _ shape.decideDistinct rest.decideDistinct

end

instance (shape : Shape) : Decidable shape.Distinct := shape.decideDistinct

def Draft.IsWritten (draft : Draft) : Prop := ∃ text, Draft.Written (.value draft) text

theorem Shape.Renders.ne_null {shape : Shape} {value : shape.Data} {draft : Draft}
    (h : shape.Renders value draft) (plain : ∀ inner, shape ≠ .option inner) : draft ≠ .null := by
  cases shape with
  | option inner => exact absurd rfl (plain inner)
  | word | count | flag =>
      rw [Shape.Renders] at h
      rw [h]
      exact Draft.noConfusion
  | text | list | record =>
      rw [Shape.Renders] at h
      obtain ⟨_, rfl, -⟩ := h
      exact Draft.noConfusion

/-- An entry of a written object. -/
def IsEntry (entry : Bytes × Draft) : Prop :=
  (∃ chars, Quoted.Spells chars entry.1) ∧ entry.2.IsWritten

/-- Whether the key of an entry is understood as a name. -/
def isNamed (name : String) (entry : Bytes × Draft) : Bool := Quoted.text? entry.1 == some name

theorem textOf_spelled {chars : List Char} {content : Bytes} (h : Quoted.Spells chars content) :
    textOf content = .ok (String.ofList chars) := by
  rw [textOf, Quoted.text?_spelled h]

theorem names_iff_isNamed {name : String} {entry : Bytes × Draft} (h : IsEntry entry) :
    Names name entry ↔ isNamed name entry = true := by
  obtain ⟨⟨chars, spelled⟩, -⟩ := h
  rw [isNamed, beq_iff_eq, Quoted.text?_spelled spelled, Option.some.injEq]
  constructor
  · intro named
    rw [Quoted.spells_inj spelled named, String.ofList_toList]
  · rintro rfl
    rw [Names, String.toList_ofList]
    exact spelled

theorem any_isNamed_eq_false_iff {name : String} {entries : List (Bytes × Draft)}
    (h : ∀ entry ∈ entries, IsEntry entry) :
    entries.any (isNamed name) = false ↔ NamesNone name entries := by
  rw [List.any_eq_false]
  exact forall₂_congr fun entry hentry => not_congr (names_iff_isNamed (h entry hentry)).symm

theorem NamesOne.of_isNamed {name : String} {entry : Bytes × Draft}
    (before after : List (Bytes × Draft)) (h : ∀ e ∈ before ++ entry :: after, IsEntry e)
    (named : isNamed name entry = true) (first : before.any (isNamed name) = false)
    (last : after.any (isNamed name) = false) :
    NamesOne name entry (before ++ entry :: after) := by
  obtain ⟨isBefore, isAfter⟩ := List.forall_mem_append.1 h
  obtain ⟨isEntry, isAfter⟩ := List.forall_mem_cons.1 isAfter
  exact ⟨before, after, rfl, (names_iff_isNamed isEntry).2 named,
    (any_isNamed_eq_false_iff isBefore).1 first, (any_isNamed_eq_false_iff isAfter).1 last⟩

/-- Where one entry has a name, it is the one that is met under that name, and met first. -/
theorem NamesOne.eq {name : String} {one entry : Bytes × Draft}
    {entries before after : List (Bytes × Draft)} (h : NamesOne name one entries)
    (split : entries = before ++ entry :: after) (named : Names name entry) :
    entry = one ∧ NamesNone name before := by
  obtain ⟨first, last, rfl, -, noneFirst, noneLast⟩ := h
  rcases List.append_eq_append_iff.1 split with ⟨others, rfl, tail⟩ | ⟨others, rfl, tail⟩
  · cases others with
    | nil => exact ⟨(List.cons.inj tail).1.symm, by rwa [List.append_nil]⟩
    | cons other others =>
        obtain ⟨-, rfl⟩ := List.cons.inj tail
        exact absurd named (noneLast entry (by simp))
  · cases others with
    | nil =>
        rw [List.append_nil] at noneFirst
        exact ⟨(List.cons.inj tail).1, noneFirst⟩
    | cons other others =>
        obtain ⟨rfl, -⟩ := List.cons.inj tail
        exact absurd named (noneFirst entry (by simp))

/-- What has been read of a record after some of its entries. -/
def Fields.slotsAfter : (fields : Fields) → fields.Data → List (Bytes × Draft) → fields.Slots
  | .nil, _, _ => ()
  | .cons name _ _ rest, values, entries =>
    (if entries.any (isNamed name) then some values.1 else none, rest.slotsAfter values.2 entries)

def Shape.Decodes (shape : Shape) : Prop :=
  ∀ (value : shape.Data) (draft : Draft), draft.IsWritten → shape.Renders value draft →
    shape.decode draft = .ok value

def Fields.Decode : Fields → Prop
  | .nil => True
  | .cons _ _ shape rest => shape.Decodes ∧ rest.Decode

theorem Fields.slotsAfter_nil : (fields : Fields) → (values : fields.Data) →
    fields.slotsAfter values [] = fields.empty
  | .nil, _ => rfl
  | .cons _ _ _ rest, values => by
      rw [Fields.slotsAfter, Fields.empty, rest.slotsAfter_nil]
      rfl

theorem Fields.slotsAfter_of_not_mem {key : String} {entry : Bytes × Draft}
    (named : Quoted.text? entry.1 = some key) (before : List (Bytes × Draft)) :
    (fields : Fields) → (values : fields.Data) → key ∉ fields.names →
      fields.slotsAfter values (before ++ [entry]) = fields.slotsAfter values before
  | .nil, _, _ => rfl
  | .cons name _ _ rest, values, unknown => by
      rw [Fields.names, List.mem_cons, not_or] at unknown
      have other : isNamed name entry = false := by
        rw [isNamed, named, beq_eq_false_iff_ne]
        exact fun same => unknown.1 (Option.some.inj same)
      simp only [Fields.slotsAfter, rest.slotsAfter_of_not_mem named before values.2 unknown.2,
        List.any_append, List.any_cons, List.any_nil, other, Bool.or_false]

/-- One more entry is read into the slot of its field, or stepped over. -/
theorem Fields.put_slotsAfter {entry : Bytes × Draft} {before after : List (Bytes × Draft)}
    {key : String} (entries : ∀ e ∈ before ++ entry :: after, IsEntry e)
    (named : Quoted.text? entry.1 = some key) :
    (fields : Fields) → (values : fields.Data) → fields.names.Nodup → fields.Decode →
      fields.Renders values (before ++ entry :: after) →
      fields.put (fields.slotsAfter values before) key entry.2 =
        .ok (fields.slotsAfter values (before ++ [entry]))
  | .nil, _, _, _, _ => by
      obtain ⟨-, text, written⟩ := entries entry (by simp)
      have skipped : entry.2.skip = .ok () := Draft.skips_of_written written
      rw [Fields.put, skipped]
      rfl
  | .cons name presence shape rest, values, distinct, decode, h => by
      rw [Fields.names, List.nodup_cons] at distinct
      rw [Fields.Renders] at h
      obtain ⟨field, others⟩ := h
      have isEntry := entries entry (by simp)
      -- the entry goes into the slot of this field, which is still empty, or on to the other fields
      by_cases same : key = name
      · subst same
        have hnamed : Names key entry := by
          rw [names_iff_isNamed isEntry, isNamed, named, beq_self_eq_true]
        rcases field with ⟨one, only, renders⟩ | ⟨none, -⟩
        · obtain ⟨rfl, fresh⟩ := only.eq rfl hnamed
          have notYet := (any_isNamed_eq_false_iff fun e he => entries e (List.mem_append_left _ he)).2 fresh
          have hvalue := decode.1 values.1 entry.2 isEntry.2 renders
          have kept := rest.slotsAfter_of_not_mem named before values.2 distinct.1
          have found : isNamed key entry = true := (names_iff_isNamed isEntry).1 hnamed
          simp only [Fields.put, Fields.slotsAfter, notYet, hvalue, kept, List.any_append,
            List.any_cons, found, bind, Except.bind]
          rfl
        · exact absurd hnamed (none entry (by simp))
      · have other : isNamed name entry = false := by
          rw [isNamed, named, beq_eq_false_iff_ne]
          exact fun h => same (Option.some.inj h)
        have hrest := rest.put_slotsAfter entries named values.2 distinct.2 decode.2 others
        simp only [Fields.put, if_neg same, Fields.slotsAfter, hrest, bind, Except.bind,
          List.any_append, List.any_cons, List.any_nil, other, Bool.or_false]

def Fields.read (fields : Fields) (slots : fields.Slots) (entry : Bytes × Draft) :
    Except Error fields.Slots := do
  let key ← textOf entry.1
  fields.put slots key entry.2

theorem Fields.foldlM_read {entries : List (Bytes × Draft)} (isEntry : ∀ e ∈ entries, IsEntry e)
    {fields : Fields} {values : fields.Data} (distinct : fields.names.Nodup)
    (decode : fields.Decode) (h : fields.Renders values entries) (before after : List (Bytes × Draft))
    (split : entries = before ++ after) :
    after.foldlM fields.read (fields.slotsAfter values before) =
      .ok (fields.slotsAfter values entries) := by
  induction after generalizing before with
  | nil =>
      rw [split, List.append_nil]
      rfl
  | cons entry after ih =>
      subst split
      obtain ⟨chars, spelled⟩ := (isEntry entry (by simp)).1
      have named := Quoted.text?_spelled spelled
      have hput := fields.put_slotsAfter isEntry named values distinct decode h
      have step : fields.read (fields.slotsAfter values before) entry =
          .ok (fields.slotsAfter values (before ++ [entry])) := by
        rw [Fields.read, textOf_spelled spelled]
        exact hput
      rw [List.foldlM_cons, step]
      exact ih (before ++ [entry]) (by simp)

theorem Shape.leftOut_of_dispensable {shape : Shape} {presence : Presence}
    (h : shape.Dispensable presence) (name : String) :
    shape.leftOut name presence = .ok shape.zero := by
  rcases h with optional | ⟨item, rfl⟩
  · cases presence with
    | required => exact absurd rfl optional
    | defaulted | omitted => rfl
  · cases presence <;> rfl

theorem Fields.finish_slotsAfter {entries : List (Bytes × Draft)}
    (isEntry : ∀ e ∈ entries, IsEntry e) : (fields : Fields) → (values : fields.Data) →
      fields.Renders values entries → fields.finish (fields.slotsAfter values entries) = .ok values
  | .nil, _, _ => rfl
  | .cons name presence shape rest, values, h => by
      rw [Fields.Renders] at h
      obtain ⟨field, others⟩ := h
      have hrest := rest.finish_slotsAfter isEntry values.2 others
      rcases field with ⟨one, only, -⟩ | ⟨none, zero, dispensable⟩
      · obtain ⟨before, after, rfl, named, -⟩ := only
        have found : (before ++ one :: after).any (isNamed name) = true :=
          List.any_eq_true.2 ⟨one, by simp, (names_iff_isNamed (isEntry one (by simp))).1 named⟩
        rw [Fields.slotsAfter, found]
        simp only [Fields.finish, hrest, bind, Except.bind, if_true]
      · rw [Fields.slotsAfter, (any_isNamed_eq_false_iff isEntry).2 none]
        simp only [Fields.finish, Shape.leftOut_of_dispensable dispensable, hrest, bind, Except.bind,
          Bool.false_eq_true, if_false]
        rw [← zero]

theorem Shape.mapM_decode {item : Shape} (h : item.Decodes) {values : List item.Data}
    {items : List Draft} (written : ∀ draft ∈ items, draft.IsWritten)
    (each : List.Forall₂ (fun value draft => item.Renders value draft) values items) :
    items.mapM (fun draft => item.decode draft) = .ok values := by
  induction each with
  | nil => rfl
  | cons first _ ih =>
      have decoded := h _ _ (written _ List.mem_cons_self) first
      have others := ih fun draft hd => written draft (List.mem_cons_of_mem _ hd)
      rw [List.mapM_cons, decoded, others]
      rfl

theorem Shape.decodes_list {item : Shape} (h : item.Decodes) : (Shape.list item).Decodes := by
  intro values draft written renders
  rw [Shape.Renders] at renders
  obtain ⟨items, rfl, each⟩ := renders
  obtain ⟨text, written⟩ := written
  have decoded := Shape.mapM_decode h (Draft.written_of_mem_items written).2 each
  simp only [Shape.decode, decoded, Draft.checkBracket, faultless, bind, Except.bind]

theorem Shape.decodes_option {item : Shape} (plain : ∀ inner, item ≠ .option inner)
    (h : item.Decodes) : (Shape.option item).Decodes := by
  intro value draft written renders
  cases value with
  | none =>
      rw [Shape.Renders] at renders
      rw [renders]
      rfl
  | some value =>
      rw [Shape.Renders] at renders
      have notNull := renders.ne_null plain
      have decoded := h value draft written renders
      rw [Shape.decode, decoded]
      · rfl
      · exact notNull

theorem Shape.decodes_record {name : String} {fields : Fields} (distinct : fields.names.Nodup)
    (h : fields.Decode) : (Shape.record name fields).Decodes := by
  intro values draft written renders
  rw [Shape.Renders] at renders
  obtain ⟨entries, rfl, renders⟩ := renders
  obtain ⟨text, written⟩ := written
  obtain ⟨-, isEntry⟩ := Draft.written_of_mem_entries written
  have folded := Fields.foldlM_read isEntry distinct h renders [] entries rfl
  rw [fields.slotsAfter_nil] at folded
  have finished := fields.finish_slotsAfter isEntry values renders
  rw [Shape.decode]
  change (do
    let slots ← entries.foldlM fields.read fields.empty
    faultless (Draft.checkEnd .closed)
    fields.finish slots) = _
  rw [folded]
  exact finished

mutual

theorem Shape.decodes : (shape : Shape) → shape.Distinct → shape.Decodes
  | .word, _ => fun value draft _ h => by
      rw [Shape.Renders] at h
      rw [h]
      exact decodeWord_ofInt value
  | .count, _ => fun value draft _ h => by
      rw [Shape.Renders] at h
      rw [h]
      exact decodeCount_ofInt value
  | .text, _ => fun value draft _ h => by
      rw [Shape.Renders] at h
      obtain ⟨content, rfl, spelled⟩ := h
      have decoded := textOf_spelled spelled
      rw [String.ofList_toList] at decoded
      exact decoded
  | .flag, _ => fun value draft _ h => by
      rw [Shape.Renders] at h
      rw [h]
      rfl
  | .list item, distinct => Shape.decodes_list (item.decodes distinct)
  | .option item, distinct => Shape.decodes_option distinct.1 (item.decodes distinct.2)
  | .record _ fields, distinct => Shape.decodes_record distinct.1 (fields.decode distinct.2)

theorem Fields.decode : (fields : Fields) → fields.Distinct → fields.Decode
  | .nil, _ => trivial
  | .cons _ _ shape rest, distinct => ⟨shape.decodes distinct.1, rest.decode distinct.2⟩

end

def Renders {α : Type} [Shaped α] (value : α) (draft : Draft) : Prop :=
  (Shaped.shape α).Renders (Shaped.toData value) draft

theorem decode_of_renders {α : Type} [Shaped α] (distinct : (Shaped.shape α).Distinct) {value : α}
    {draft : Draft} (written : draft.IsWritten) (h : Renders value draft) :
    decode α draft = .ok value := by
  have decoded := Shape.decodes (Shaped.shape α) distinct (Shaped.toData value) draft written h
  rw [decode, decoded, Except.map, Shaped.ofData_toData]

end FabricSurvey.Json
