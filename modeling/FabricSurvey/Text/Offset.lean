import FabricSurvey.Text.Split

/-!
# Byte offsets

An offset into a text counts the bytes in front of it, as the text is kept in UTF-8. There is a slice
between two offsets only if neither of them is past the end of the text or inside of a character, and if
they do not go backwards.
-/

namespace FabricSurvey.Text

def byteSize (text : List Char) : Nat := (String.ofList text).utf8ByteSize

def offset? (c : Char) : List Char → Option Nat
  | [] => none
  | d :: text => if d = c then some 0 else (offset? c text).map (d.utf8Size + ·)

def cutAt? : Nat → List Char → Option (List Char × List Char)
  | 0, text => some ([], text)
  | _ + 1, [] => none
  | n + 1, c :: text =>
    if c.utf8Size ≤ n + 1 then
      (cutAt? (n + 1 - c.utf8Size) text).map fun parts => (c :: parts.1, parts.2)
    else none

/-- What stands between two offsets. -/
def slice? (start stop : Nat) (text : List Char) : Option (List Char) := do
  let (front, _) ← cutAt? stop text
  let (_, part) ← cutAt? start front
  return part

@[simp] theorem byteSize_nil : byteSize [] = 0 := rfl

@[simp] theorem byteSize_cons (c : Char) (text : List Char) :
    byteSize (c :: text) = c.utf8Size + byteSize text := by
  rw [byteSize, String.ofList_cons, String.utf8ByteSize_append, String.utf8ByteSize_singleton, byteSize]

@[simp] theorem byteSize_append (front back : List Char) :
    byteSize (front ++ back) = byteSize front + byteSize back := by
  rw [byteSize, String.ofList_append, String.utf8ByteSize_append, byteSize, byteSize]

theorem eq_nil_of_byteSize {text : List Char} (h : byteSize text = 0) : text = [] := by
  cases text with
  | nil => rfl
  | cons c text =>
      have positive := c.utf8Size_pos
      rw [byteSize_cons] at h
      omega

theorem offset?_eq (c : Char) (text : List Char) :
    offset? c text = (splitFirst? c text).map fun parts => byteSize parts.1 := by
  induction text with
  | nil => rfl
  | cons d text ih =>
      rw [offset?, splitFirst?]
      split
      · rfl
      · rw [ih, Option.map_map, Option.map_map]
        congr 1
        funext parts
        exact (byteSize_cons d parts.1).symm

theorem cutAt?_byteSize (front back : List Char) :
    cutAt? (byteSize front) (front ++ back) = some (front, back) := by
  induction front with
  | nil => cases back <;> rfl
  | cons c front ih =>
      obtain ⟨n, size⟩ := Nat.exists_eq_add_one_of_ne_zero (Nat.ne_of_gt c.utf8Size_pos)
      have whole : byteSize (c :: front) = (n + byteSize front) + 1 := by
        rw [byteSize_cons, size, Nat.add_right_comm]
      have rest : n + byteSize front + 1 - c.utf8Size = byteSize front := by omega
      rw [whole, List.cons_append, cutAt?, if_pos (by omega), rest, ih, Option.map_some]

/-- Nothing is lost in a cut, and it is made where the bytes in front say. -/
theorem cutAt?_eq_some_iff {n : Nat} {text front back : List Char} :
    cutAt? n text = some (front, back) ↔ text = front ++ back ∧ byteSize front = n := by
  constructor
  · intro h
    fun_induction cutAt? n text generalizing front with
    | case1 text =>
        cases h
        exact ⟨rfl, rfl⟩
    | case2 => cases h
    | case3 n c text fits ih =>
        obtain ⟨⟨rest, _⟩, cut, parts⟩ := Option.map_eq_some_iff.1 h
        obtain ⟨rfl, rfl⟩ := Prod.mk.inj parts
        obtain ⟨rfl, size⟩ := ih cut
        refine ⟨rfl, ?_⟩
        rw [byteSize_cons, size]
        omega
    | case4 => cases h
  · rintro ⟨rfl, rfl⟩
    exact cutAt?_byteSize front back

theorem slice?_eq_some_iff {start stop : Nat} {text part : List Char} :
    slice? start stop text = some part ↔
      ∃ front back, text = front ++ part ++ back ∧ byteSize front = start ∧
        byteSize (front ++ part) = stop := by
  simp only [slice?, bind, Option.bind_eq_some_iff, Prod.exists, cutAt?_eq_some_iff]
  constructor
  · rintro ⟨whole, back, ⟨rfl, size⟩, front, _, ⟨rfl, start⟩, same⟩
    cases same
    exact ⟨front, back, rfl, start, size⟩
  · rintro ⟨front, back, rfl, start, size⟩
    exact ⟨front ++ part, back, ⟨rfl, size⟩, front, part, ⟨rfl, start⟩, rfl⟩

/-- A slice is there exactly if its offsets are in order and both valid in the text. -/
theorem isSome_slice?_iff {start stop : Nat} {text : List Char} :
    (slice? start stop text).isSome ↔ start ≤ stop ∧
      (⟨start⟩ : String.Pos.Raw).IsValid (String.ofList text) ∧
      (⟨stop⟩ : String.Pos.Raw).IsValid (String.ofList text) := by
  have valid : ∀ offset : Nat, (⟨offset⟩ : String.Pos.Raw).IsValid (String.ofList text) ↔
      ∃ front back, text = front ++ back ∧ byteSize front = offset := by
    intro offset
    rw [String.Pos.Raw.isValid_iff_exists_append]
    constructor
    · rintro ⟨front, back, same, size⟩
      refine ⟨front.toList, back.toList, ?_, ?_⟩
      · rw [← String.toList_append, ← same, String.toList_ofList]
      · rw [byteSize, String.ofList_toList]
        exact (congrArg String.Pos.Raw.byteIdx size).symm
    · rintro ⟨front, back, rfl, rfl⟩
      exact ⟨String.ofList front, String.ofList back, String.ofList_append, rfl⟩
  rw [Option.isSome_iff_exists, valid, valid]
  constructor
  · rintro ⟨part, h⟩
    obtain ⟨front, back, rfl, rfl, rfl⟩ := slice?_eq_some_iff.1 h
    refine ⟨?_, ⟨front, part ++ back, List.append_assoc .., rfl⟩, front ++ part, back, rfl, rfl⟩
    rw [byteSize_append]
    exact Nat.le_add_right ..
  · rintro ⟨inOrder, ⟨front, rest, rfl, rfl⟩, whole, back, same, rfl⟩
    -- the longer of two texts that start the same continues the shorter one
    rcases List.append_eq_append_iff.1 same with ⟨part, rfl, rfl⟩ | ⟨part, rfl, rfl⟩
    · exact ⟨part, slice?_eq_some_iff.2 ⟨front, back, (List.append_assoc ..).symm, rfl, rfl⟩⟩
    · have empty : part = [] := by
        rw [byteSize_append] at inOrder
        exact eq_nil_of_byteSize (by omega)
      subst empty
      refine ⟨[], slice?_eq_some_iff.2 ⟨whole, rest, ?_, ?_, ?_⟩⟩ <;> simp

end FabricSurvey.Text
