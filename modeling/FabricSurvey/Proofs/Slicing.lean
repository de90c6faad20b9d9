import FabricSurvey.Node.Identity
import FabricSurvey.Proofs.Line

/-!
# Slices of a line

Reading a line by byte offsets comes to the same as dividing it at its colons and brackets: every slice is
there, whatever characters the line holds. Nothing of a line that is read gets lost either.
-/

namespace FabricSurvey.Identity

open Text

theorem sliced_of_append {front part text : List Char} {start stop : Nat} (back : List Char)
    (whole : text = front ++ part ++ back) (first : byteSize front = start)
    (last : byteSize (front ++ part) = stop) : sliced start stop text = .ok part := by
  rw [sliced, slice?_eq_some_iff.2 ⟨front, back, whole, first, last⟩]

theorem byteSize_bracket (text : List Char) : byteSize (']' :: text) = byteSize text + 1 := by
  rw [byteSize_cons, Nat.add_comm]
  rfl

theorem byteSize_colon (text : List Char) : byteSize (':' :: text) = byteSize text + 1 := by
  rw [byteSize_cons, Nat.add_comm]
  rfl

/-- The slice that ends some bytes behind the closing bracket. -/
theorem sliced_literal {inner suffix text : List Char} {stop : Nat} (back : List Char)
    (whole : text = '[' :: (inner ++ ']' :: (suffix ++ back)))
    (last : stop = byteSize ('[' :: inner) + (byteSize suffix + 1)) :
    sliced 0 stop text = .ok ('[' :: (inner ++ ']' :: suffix)) := by
  refine sliced_of_append back (by simp [whole]) byteSize_nil ?_
  rw [last, List.nil_append, ← List.cons_append, byteSize_append, byteSize_bracket]

theorem divideAfterBracket_of_ne {c : Char} (noColon : c ≠ ':') (tail : List Char) :
    divideAfterBracket (c :: tail) = none := by
  unfold divideAfterBracket
  split
  · rename_i empty
    cases empty
  · rename_i same
    exact absurd (List.cons.inj same).1 noColon
  · rfl

theorem divideAtBracket_eq (inner after : List Char) :
    divideAtBracket (byteSize ('[' :: inner)) ('[' :: (inner ++ ']' :: after)) =
      orRefused ((divideAfterBracket after).map fun parts =>
        ('[' :: (inner ++ ']' :: parts.1), parts.2)) := by
  have behind : sliced (byteSize ('[' :: inner) + 1) (byteSize ('[' :: (inner ++ ']' :: after)))
      ('[' :: (inner ++ ']' :: after)) = .ok after := by
    have whole : '[' :: (inner ++ ']' :: after) = ('[' :: inner ++ [']']) ++ after := by simp
    exact sliced_of_append [] (by rw [List.append_nil, whole]) (byteSize_append ..) (by rw [whole])
  have literal : sliced 0 (byteSize ('[' :: inner) + 1) ('[' :: (inner ++ ']' :: after)) =
      .ok ('[' :: (inner ++ [']'])) := sliced_literal after rfl rfl
  rw [divideAtBracket, behind]
  simp only [bind, Except.bind, literal]
  match after with
  | [] => rfl
  | c :: tail =>
      by_cases colon : c = ':'
      · subst colon
        cases found : splitFirst? ':' tail with
        | none =>
            simp only [divideAfterBracket, found, Option.filter_none]
            cases isPort tail <;> rfl
        | some parts =>
            obtain ⟨port, data⟩ := parts
            obtain ⟨rfl, -⟩ := splitFirst?_eq_some_iff.1 found
            cases number : isPort port with
            | true =>
                have withPort : sliced 0 (byteSize ('[' :: inner) + 2 + byteSize port)
                    ('[' :: (inner ++ ']' :: ':' :: (port ++ ':' :: data))) =
                      .ok ('[' :: (inner ++ ']' :: ':' :: port)) := by
                  refine sliced_literal (':' :: data) rfl ?_
                  rw [byteSize_colon]
                  omega
                simp only [divideAfterBracket, found, number, orRefused, Option.filter_some, if_true,
                  withPort, Option.map_some, pure, Except.pure]
            | false =>
                have noPort : isPort (port ++ ':' :: data) = false := by
                  refine Bool.eq_false_iff.2 fun number => ?_
                  exact colon_not_mem_of_isPort number (by simp)
                simp only [divideAfterBracket, found, number, noPort, orRefused, Option.filter_some,
                  Bool.false_eq_true, if_false, Option.map_some, pure, Except.pure]
      · rw [divideAfterBracket_of_ne colon]
        split
        · rename_i same
          exact absurd (List.cons.inj same).1 colon
        · rename_i empty
          cases empty
        · rfl

theorem divideBySlices_eq (text : List Char) :
    divideBySlices text = orRefused (divideAddresses text) := by
  by_cases plain : text.head? = some '['
  · obtain ⟨inner, rfl⟩ := List.head?_eq_some_iff.1 plain
    rw [divideBySlices, if_pos plain, offset?_eq, divideAddresses, splitFirst?, if_neg (by decide),
      Option.map_map]
    cases found : splitFirst? ']' inner with
    | none => rfl
    | some parts =>
        obtain ⟨inner, after⟩ := parts
        obtain ⟨rfl, -⟩ := splitFirst?_eq_some_iff.1 found
        have first : '[' :: (inner ++ ']' :: after) = ['['] ++ inner ++ ']' :: after := by simp
        have host : sliced 1 (byteSize ('[' :: inner)) ('[' :: (inner ++ ']' :: after)) = .ok inner :=
          sliced_of_append (']' :: after) first rfl rfl
        simp only [Option.map_some, Function.comp_apply, orRefused, bind, Except.bind, host,
          Option.bind_some, divideAtBracket_eq]
        split
        · rfl
        · cases divideAfterBracket after <;> rfl
  · rw [divideBySlices, if_neg plain, divideAddresses_bare plain]
    dsimp only
    split <;> rfl

/-- Reading by slices never takes one that is not there, and comes to what the reader of lines says. -/
theorem readBySlices_eq (text : String) : readBySlices text = orRefused (parse? text) := by
  rw [readBySlices, parse?, parseChars?]
  rcases splitFirst? ':' text.toList with _ | ⟨digits, afterId⟩
  · rfl
  simp only [orRefused, bind, Except.bind, Option.bind_some]
  rcases splitFirst? ':' afterId with _ | ⟨name, rest⟩
  · rfl
  simp only [Option.bind_some]
  rcases number? max32 digits with _ | n
  · rfl
  simp only [Option.bind_some, divideBySlices_eq]
  split
  · rfl
  · rcases divideAddresses rest with _ | ⟨management, data⟩ <;> rfl

/-- Whatever characters a line holds, every slice that its reader takes is there, and all of a line that is
read stands in the identity: the digits of the identifier, the name, the management address and the data
address with colons between them. Only a colon with no data address behind it may be left out. -/
theorem line_kept_whole (text : String) :
    readBySlices text = (match parse? text with
      | some identity => .ok identity
      | none => .error .refused) ∧
    ∀ identity, parse? text = some identity →
      ∃ digits tail, text = digits ++ ":" ++ identity.name ++ ":" ++ identity.managementAddress ++ tail ∧
        number? max32 digits.toList = some identity.id.toNat ∧
        (tail = ":" ++ identity.ipAddress ∨ tail = "" ∧ identity.ipAddress = "") := by
  refine ⟨?_, fun identity accepted => ?_⟩
  · rw [readBySlices_eq]
    cases parse? text <;> rfl
  · obtain ⟨digits, rest, whole, line⟩ := parse?_eq_some_iff.1 accepted
    obtain ⟨tail, same, follows⟩ := line.divided.exists_tail
    refine ⟨String.ofList digits, String.ofList tail, ?_, ?_, ?_⟩
    · rw [← String.toList_inj, whole, same]
      simp
    · rw [String.toList_ofList]
      exact line.number
    · rcases follows.eq_or with colon | ⟨rfl, none⟩
      · left
        rw [← String.toList_inj, String.toList_ofList, colon, String.toList_append]
        rfl
      · exact .inr ⟨String.ofList_nil, String.toList_eq_nil_iff.1 none⟩

theorem line_kept_whole_accented :
    readBySlices "7:n:[10.0.0.1]:ü:1" = .ok ⟨7, "n", "ü:1", "[10.0.0.1]"⟩ ∧
      ∃ digits tail, "7:n:[10.0.0.1]:ü:1" = digits ++ ":" ++ "n" ++ ":" ++ "[10.0.0.1]" ++ tail ∧
        number? max32 digits.toList = some 7 ∧ (tail = ":" ++ "ü:1" ∨ tail = "" ∧ "ü:1" = "") := by
  have accepted : parse? "7:n:[10.0.0.1]:ü:1" = some ⟨7, "n", "ü:1", "[10.0.0.1]"⟩ := by
    decide +kernel
  obtain ⟨slices, kept⟩ := line_kept_whole "7:n:[10.0.0.1]:ü:1"
  rw [accepted] at slices
  obtain ⟨digits, tail, whole, number, ends⟩ := kept _ accepted
  exact ⟨slices, digits, tail, whole, number, ends⟩

end FabricSurvey.Identity
