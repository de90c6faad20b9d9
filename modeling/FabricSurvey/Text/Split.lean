/-!
# Cutting a text at separators

A text is cut at the first or at the last occurrence of a character, or at every separator there is.
The separators belong to no part.
-/

namespace FabricSurvey.Text

def splitFirst? (separator : Char) : List Char → Option (List Char × List Char)
  | [] => none
  | c :: text =>
    if c = separator then some ([], text)
    else (splitFirst? separator text).map fun parts => (c :: parts.1, parts.2)

def splitLast? (separator : Char) : List Char → Option (List Char × List Char)
  | [] => none
  | c :: text =>
    match splitLast? separator text with
    | some parts => some (c :: parts.1, parts.2)
    | none => if c = separator then some ([], text) else none

/-- The parts between separators, one more than there are separators. -/
def splitAll (isSeparator : Char → Bool) : List Char → List (List Char)
  | [] => [[]]
  | c :: text =>
    if isSeparator c then [] :: splitAll isSeparator text
    else match splitAll isSeparator text with
      | [] => [[c]]
      | first :: more => (c :: first) :: more

theorem length_splitAll (isSeparator : Char → Bool) (text : List Char) :
    (splitAll isSeparator text).length = text.countP isSeparator + 1 := by
  induction text with
  | nil => rfl
  | cons c text ih =>
    simp only [splitAll]
    split
    · next h => simp [ih, h]
    · next h =>
      split
      · next hnil => simp [hnil] at ih
      · next hparts => simpa [hparts, h] using ih

theorem not_separator_of_mem_splitAll {isSeparator : Char → Bool} {text part : List Char}
    (hpart : part ∈ splitAll isSeparator text) : ∀ c ∈ part, isSeparator c = false := by
  induction text generalizing part with
  | nil => simp_all [splitAll]
  | cons c text ih =>
    simp only [splitAll] at hpart
    split at hpart
    · rcases List.mem_cons.1 hpart with rfl | hpart
      · simp
      · exact ih hpart
    · next h =>
      split at hpart
      · simp_all
      · next first more hparts =>
        rcases List.mem_cons.1 hpart with rfl | hpart
        · intro d hd
          rcases List.mem_cons.1 hd with rfl | hd
          · simpa using h
          · exact ih (by simp [hparts]) d hd
        · exact ih (by simp [hparts, hpart])

/-- Nothing is lost in a cut, and no separator stands before the first one. -/
theorem splitFirst?_eq_some_iff {separator : Char} {text before after : List Char} :
    splitFirst? separator text = some (before, after) ↔
      text = before ++ separator :: after ∧ separator ∉ before := by
  induction text generalizing before with
  | nil => simp [splitFirst?]
  | cons c text ih =>
    by_cases h : c = separator
    · subst h
      simp only [splitFirst?, if_true, Option.some.injEq, Prod.mk.injEq]
      constructor
      · rintro ⟨rfl, rfl⟩
        simp
      · rintro ⟨h, hn⟩
        cases before with
        | nil => simpa using h
        | cons b before =>
          simp only [List.cons_append, List.cons.injEq] at h
          simp [h.1] at hn
    · simp only [splitFirst?, if_neg h, Option.map_eq_some_iff, Prod.mk.injEq, Prod.exists]
      constructor
      · rintro ⟨a, b, hab, rfl, rfl⟩
        obtain ⟨rfl, hn⟩ := ih.1 hab
        simpa [Ne.symm h] using hn
      · rintro ⟨ht, hn⟩
        cases before with
        | nil => simp_all
        | cons b before =>
          simp only [List.cons_append, List.cons.injEq, List.mem_cons, not_or] at ht hn
          obtain ⟨rfl, rfl⟩ := ht
          exact ⟨before, after, ih.2 ⟨rfl, hn.2⟩, rfl, rfl⟩

theorem splitFirst?_eq_none_iff {separator : Char} {text : List Char} :
    splitFirst? separator text = none ↔ separator ∉ text := by
  induction text with
  | nil => simp [splitFirst?]
  | cons c text ih =>
    by_cases h : c = separator
    · simp [splitFirst?, h]
    · simp [splitFirst?, h, ih, Ne.symm h]

theorem splitLast?_eq_none_iff {separator : Char} {text : List Char} :
    splitLast? separator text = none ↔ separator ∉ text := by
  induction text with
  | nil => simp [splitLast?]
  | cons c text ih =>
    cases hs : splitLast? separator text with
    | some parts =>
      have : separator ∈ text := Classical.not_not.1 fun hn => by simp [ih.2 hn] at hs
      simp [splitLast?, hs, this]
    | none =>
      have hn := ih.1 hs
      by_cases h : c = separator
      · simp [splitLast?, hs, h]
      · simp [splitLast?, hs, h, hn, Ne.symm h]

theorem splitLast?_eq_some_iff {separator : Char} {text before after : List Char} :
    splitLast? separator text = some (before, after) ↔
      text = before ++ separator :: after ∧ separator ∉ after := by
  induction text generalizing before after with
  | nil => simp [splitLast?]
  | cons c text ih =>
    cases hs : splitLast? separator text with
    | some parts =>
      obtain ⟨b, a⟩ := parts
      have hparts := ih.1 hs
      simp only [splitLast?, hs, Option.some.injEq, Prod.mk.injEq]
      constructor
      · rintro ⟨rfl, rfl⟩
        exact ⟨by simp [hparts.1], hparts.2⟩
      · rintro ⟨h, hn⟩
        cases before with
        | nil =>
          simp only [List.nil_append, List.cons.injEq] at h
          rw [← h.2, hparts.1] at hn
          simp at hn
        | cons b before =>
          simp only [List.cons_append, List.cons.injEq] at h
          obtain ⟨rfl, ht⟩ := h
          have heq := ih.2 ⟨ht, hn⟩
          rw [hs] at heq
          cases heq
          exact ⟨rfl, rfl⟩
    | none =>
      have hn := splitLast?_eq_none_iff.1 hs
      simp only [splitLast?, hs]
      constructor
      · intro h
        split at h
        · cases h
          subst_vars
          exact ⟨rfl, hn⟩
        · simp at h
      · rintro ⟨h, ha⟩
        cases before with
        | nil =>
          simp only [List.nil_append, List.cons.injEq] at h
          obtain ⟨rfl, rfl⟩ := h
          simp
        | cons b before =>
          simp only [List.cons_append, List.cons.injEq] at h
          exact absurd (by simp [h.2]) hn

end FabricSurvey.Text
