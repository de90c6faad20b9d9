import FabricSurvey.Proofs.Grammar

/-!
# Written values are faultless

Nothing that is written keeps a reader from stepping over it. Using it asks for more: the nesting may not
be too deep, and each numeral has to stand for a number.
-/

namespace FabricSurvey.Json.Draft

mutual

/-- The deepest nesting of arrays and objects. -/
def nesting : Draft → Nat
  | .array items _ => nestingItems items + 1
  | .object entries _ => nestingEntries entries + 1
  | _ => 0

def nestingItems : List Draft → Nat
  | [] => 0
  | item :: items => max (nesting item) (nestingItems items)

def nestingEntries : List (Bytes × Draft) → Nat
  | [] => 0
  | entry :: entries => max (nesting entry.2) (nestingEntries entries)

end

mutual

/-- The numerals anywhere in a draft. -/
def numerals : Draft → List Numeral
  | .number numeral => [numeral]
  | .array items _ => numeralsOfItems items
  | .object entries _ => numeralsOfEntries entries
  | _ => []

def numeralsOfItems : List Draft → List Numeral
  | [] => []
  | item :: items => numerals item ++ numeralsOfItems items

def numeralsOfEntries : List (Bytes × Draft) → List Numeral
  | [] => []
  | entry :: entries => numerals entry.2 ++ numeralsOfEntries entries

end

/-- Nothing that is written keeps anyone from stepping over it. -/
def Skips : Part → Prop
  | .value draft => draft.skip = .ok ()
  | .items items => skipItems items = .ok ()
  | .entries entries => skipEntries entries = .ok ()

theorem skips_of_written {part : Part} {text : Bytes} (h : Written part text) : Skips part := by
  induction h with
  | array _ ih =>
      change skip _ = _
      rw [skip, ih]
      rfl
  | object _ ih =>
      change skip _ = _
      rw [skip, ih]
      rfl
  | lastItem _ _ _ ih =>
      change skipItems _ = _
      rw [skipItems, ih]
      rfl
  | nextItem _ _ _ _ ih others =>
      change skipItems _ = _
      rw [skipItems, ih]
      exact others
  | lastEntry _ _ _ _ _ _ ih =>
      change skipEntries _ = _
      rw [skipEntries, ih]
      rfl
  | nextEntry _ _ _ _ _ _ _ ih others =>
      change skipEntries _ = _
      rw [skipEntries, ih]
      exact others
  | _ => rfl

/-- A part that is not too deep and whose numerals are in range is found sound. -/
def Checks : Part → Prop
  | .value draft => ∀ depth, draft.nesting ≤ depth →
      (∀ numeral ∈ draft.numerals, numeral.number?.isSome) → draft.check depth = .ok ()
  | .items items => ∀ depth, nestingItems items ≤ depth →
      (∀ numeral ∈ numeralsOfItems items, numeral.number?.isSome) → checkItems depth items = .ok ()
  | .entries entries => ∀ depth, nestingEntries entries ≤ depth →
      (∀ numeral ∈ numeralsOfEntries entries, numeral.number?.isSome) →
      checkEntries depth entries = .ok ()

theorem checkText_spelled {chars : List Char} {content : Bytes} (h : Quoted.Spells chars content) :
    checkText content = .ok () := by
  rw [checkText, Quoted.text?_spelled h]
  rfl

theorem Checks.consItem {item : Draft} {items : List Draft} (h : Checks (.value item))
    (others : Checks (.items items)) : Checks (.items (item :: items)) := by
  intro depth shallow inRange
  rw [nestingItems] at shallow
  rw [numeralsOfItems] at inRange
  have first := h depth (Nat.le_trans (Nat.le_max_left ..) shallow) fun numeral hn =>
    inRange numeral (List.mem_append_left _ hn)
  have rest := others depth (Nat.le_trans (Nat.le_max_right ..) shallow) fun numeral hn =>
    inRange numeral (List.mem_append_right _ hn)
  rw [checkItems, first]
  exact rest

theorem Checks.consEntry {chars : List Char} {key : Bytes} {item : Draft}
    {entries : List (Bytes × Draft)} (spelled : Quoted.Spells chars key) (h : Checks (.value item))
    (others : Checks (.entries entries)) : Checks (.entries ((key, item) :: entries)) := by
  intro depth shallow inRange
  rw [nestingEntries] at shallow
  rw [numeralsOfEntries] at inRange
  have first := h depth (Nat.le_trans (Nat.le_max_left ..) shallow) fun numeral hn =>
    inRange numeral (List.mem_append_left _ hn)
  have rest := others depth (Nat.le_trans (Nat.le_max_right ..) shallow) fun numeral hn =>
    inRange numeral (List.mem_append_right _ hn)
  rw [checkEntries, checkText_spelled spelled, first]
  exact rest

theorem checks_of_written {part : Part} {text : Bytes} (h : Written part text) : Checks part := by
  induction h with
  | null | yes | no =>
      intro depth _ _
      rfl
  | number =>
      intro depth _ inRange
      rw [check, if_pos (inRange _ (List.mem_singleton_self _))]
  | string spelled =>
      intro depth _ _
      rw [check, checkText_spelled spelled]
  | noItems | noEntries =>
      rintro (_ | depth) shallow _
      · simp [nesting] at shallow
      · rfl
  | array _ ih | object _ ih =>
      rintro (_ | depth) shallow inRange
      · simp [nesting] at shallow
      · rw [nesting] at shallow
        rw [check, ih depth (by omega) inRange]
        rfl
  | lastItem _ _ _ ih => exact ih.consItem fun _ _ _ => rfl
  | nextItem _ _ _ _ ih others => exact ih.consItem others
  | lastEntry _ spelled _ _ _ _ ih => exact ih.consEntry spelled fun _ _ _ => rfl
  | nextEntry _ spelled _ _ _ _ _ ih others => exact ih.consEntry spelled others

end FabricSurvey.Json.Draft
