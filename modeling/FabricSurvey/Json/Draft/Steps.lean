import FabricSurvey.Json.Draft

/-!
# Steps of reading

What the readers of a draft leave is never longer than what they are given, and two steps a byte are
enough for all of it: with more steps nothing else is read. `read` therefore reads what a reader without
any count would read.
-/

namespace FabricSurvey.Json.Draft

theorem length_expect {word text rest : Bytes} (h : expect word text = .ok rest) :
    rest.length ≤ text.length := by
  fun_induction expect word text with
  | case1 text => cases h; exact Nat.le_refl _
  | case2 => simp at h
  | case3 w word text ih => exact Nat.le_succ_of_le (ih h)
  | case4 => simp at h

theorem length_readWord (word : Bytes) (value : Draft) (text : Bytes) :
    (readWord word value text).2.length ≤ text.length := by
  unfold readWord
  split
  · rename_i rest h
    exact length_expect h
  · simp

theorem length_readString (text : Bytes) : (readString text).2.length ≤ text.length := by
  unfold readString
  split
  · rename_i content rest h
    exact Quoted.length_scan h
  · simp

theorem length_readNumber (b : UInt8) (text : Bytes) :
    (readNumber (b :: text)).2.length ≤ text.length := by
  unfold readNumber
  split
  · rename_i numeral rest h
    exact Nat.le_of_lt_succ (Numeral.length_scan h)
  · simp

theorem length_of_skipBlanks_eq {text tail : Bytes} {b : UInt8} (h : skipBlanks text = b :: tail) :
    tail.length < text.length := by
  have := length_skipBlanks_le text
  rw [h] at this
  exact this

/-- No reader leaves more than it is given. -/
theorem length_read_le (steps : Nat) :
    (∀ b text, (readValue steps b text).2.length ≤ text.length) ∧
    (∀ text, (readItems steps text).2.length ≤ text.length) ∧
    (∀ text, (readEntries steps text).2.length ≤ text.length) := by
  induction steps with
  | zero => exact ⟨fun _ _ => by simp [readValue], fun _ => by simp [readItems],
      fun _ => by simp [readEntries]⟩
  | succ steps ih =>
    obtain ⟨ihv, ihi, ihe⟩ := ih
    refine ⟨fun b text => ?_, fun text => ?_, fun text => ?_⟩
    · rw [readValue.eq_def]
      dsimp only
      split
      · exact length_readWord _ _ _
      · exact length_readWord _ _ _
      · exact length_readWord _ _ _
      · exact length_readString _
      · split
        · simp
        · rename_i h
          exact Nat.le_of_lt (length_of_skipBlanks_eq h)
        · exact ihi _
      · split
        · simp
        · rename_i h
          exact Nat.le_of_lt (length_of_skipBlanks_eq h)
        · exact ihe _
      · split
        · exact length_readNumber _ _
        · simp
    · rw [readItems]
      split
      · simp
      · rename_i b tail h
        have htail := length_of_skipBlanks_eq h
        have hitem := ihv b tail
        dsimp only
        split
        · rename_i more h'
          have := length_of_skipBlanks_eq h'
          have := ihi more
          simp only
          omega
        · rename_i more h'
          have := length_of_skipBlanks_eq h'
          simp only
          omega
        · simp
    · rw [readEntries]
      split
      · rename_i tail h
        have htail := length_of_skipBlanks_eq h
        split
        · simp
        · rename_i key afterKey hk
          have hkey := Quoted.length_scan hk
          split
          · rename_i afterColon hc
            have hcolon := length_of_skipBlanks_eq hc
            split
            · simp
            · rename_i b tail' hv
              have hvalue := length_of_skipBlanks_eq hv
              have hitem := ihv b tail'
              simp only at hkey
              dsimp only
              split
              · rename_i more h'
                have := length_of_skipBlanks_eq h'
                have := ihe more
                simp only
                omega
              · rename_i more h'
                have := length_of_skipBlanks_eq h'
                simp only
                omega
              · simp
          · simp
      · simp

/-- With two steps a byte and a little more, further steps change nothing. -/
theorem read_eq_of_le (steps : Nat) :
    (∀ more b text, 2 * text.length + 2 ≤ steps →
      readValue (steps + more) b text = readValue steps b text) ∧
    (∀ more text, 2 * text.length + 1 ≤ steps →
      readItems (steps + more) text = readItems steps text) ∧
    (∀ more text, 2 * text.length + 1 ≤ steps →
      readEntries (steps + more) text = readEntries steps text) := by
  induction steps with
  | zero =>
    exact ⟨fun _ _ _ h => absurd h (by omega), fun _ _ h => absurd h (by omega),
      fun _ _ h => absurd h (by omega)⟩
  | succ steps ih =>
    obtain ⟨ihv, ihi, ihe⟩ := ih
    refine ⟨fun more b text h => ?_, fun more text h => ?_, fun more text h => ?_⟩
    · rw [Nat.succ_add, readValue.eq_def, readValue.eq_def (steps + 1)]
      dsimp only
      rw [ihi more text (by omega), ihe more text (by omega)]
    · rw [Nat.succ_add, readItems, readItems]
      split
      · rfl
      · rename_i b tail hb
        have htail := length_of_skipBlanks_eq hb
        rw [ihv more b tail (by omega)]
        dsimp only
        split
        · rename_i rest hrest
          have := length_of_skipBlanks_eq hrest
          have := (length_read_le steps).1 b tail
          rw [ihi more rest (by omega)]
        · rfl
        · rfl
    · rw [Nat.succ_add, readEntries, readEntries]
      split
      · rename_i tail hb
        have htail := length_of_skipBlanks_eq hb
        split
        · rfl
        · rename_i key afterKey hk
          have hkey := Quoted.length_scan hk
          split
          · rename_i afterColon hc
            have hcolon := length_of_skipBlanks_eq hc
            split
            · rfl
            · rename_i b tail' hv
              have hvalue := length_of_skipBlanks_eq hv
              simp only at hkey
              rw [ihv more b tail' (by omega)]
              dsimp only
              split
              · rename_i rest hrest
                have := length_of_skipBlanks_eq hrest
                have := (length_read_le steps).1 b tail'
                rw [ihe more rest (by omega)]
              · rfl
              · rfl
          · rfl
      · rfl

theorem readValue_eq_of_le {steps : Nat} {b : UInt8} {text : Bytes} (h : 2 * text.length + 2 ≤ steps) :
    readValue steps b text = readValue (2 * text.length + 2) b text := by
  obtain ⟨more, rfl⟩ := Nat.exists_eq_add_of_le h
  exact (read_eq_of_le _).1 more b text (Nat.le_refl _)

theorem length_read_snd_le (text : Bytes) : (read text).2.length ≤ text.length := by
  unfold read
  split
  · simp
  · rename_i b tail h
    exact Nat.le_trans ((length_read_le _).1 b tail) (Nat.le_of_lt (length_of_skipBlanks_eq h))

end FabricSurvey.Json.Draft
