import FabricSurvey.Collection.Payload
import FabricSurvey.Proofs.Body
import FabricSurvey.Proofs.Grammar.Character
import FabricSurvey.Proofs.Holding

/-!
# Projections of a walk

A table with distinct keys has one ascending list of entries. Every sort of every walk through the table
is this list, so neither the order of the walk nor the sort is seen in what is kept. Along the list the
tag is called, once for each entry and in the state that the call before it has left.

Tables compare the keys that are texts character by character. The bytes of a text put it in the same
place: a smaller character has smaller bytes, and the bytes of one character never begin those of
another.
-/

namespace FabricSurvey

namespace Json

/-- A number is written in one to four bytes by its size. The bytes hold its digits to the base 64, on
top of marks that tell in the first byte how many bytes there are. -/
inductive Encodes (n : Nat) : Bytes → Prop
  | one (size : n < 0x80) : Encodes n [.ofNat n]
  | two {a b : Nat} (size : 0x80 ≤ n ∧ n < 0x800) (value : n = a * 64 + b) (digit : b < 64) :
      Encodes n [.ofNat (a + 0xC0), .ofNat (b + 0x80)]
  | three {a b c : Nat} (size : 0x800 ≤ n ∧ n < 0x10000) (value : n = (a * 64 + b) * 64 + c)
      (digits : b < 64 ∧ c < 64) :
      Encodes n [.ofNat (a + 0xE0), .ofNat (b + 0x80), .ofNat (c + 0x80)]
  | four {a b c d : Nat} (size : 0x10000 ≤ n ∧ n < 0x110000)
      (value : n = ((a * 64 + b) * 64 + c) * 64 + d) (digits : b < 64 ∧ c < 64 ∧ d < 64) :
      Encodes n [.ofNat (a + 0xF0), .ofNat (b + 0x80), .ofNat (c + 0x80), .ofNat (d + 0x80)]

theorem encodes_utf8EncodeChar (c : Char) : Encodes c.toNat (String.utf8EncodeChar c) := by
  have bound : c.val.toNat < 0x110000 := by
    rcases c.valid with below | above
    · exact Nat.lt_trans below (by decide)
    · exact above.2
  change Encodes c.val.toNat _
  rw [String.utf8EncodeChar]
  split
  · exact .one (by omega)
  · split
    · exact .two (by omega) (by omega) (by omega)
    · split
      · exact .three (by omega) (by omega) (by omega)
      · exact .four (by omega) (by omega) (by omega)

theorem Encodes.ne_nil {n : Nat} {bytes : Bytes} (h : Encodes n bytes) : bytes ≠ [] := by
  cases h <;> exact List.cons_ne_nil _ _

/-- The smaller of two numbers has the smaller bytes, whatever follows on either side. -/
theorem Encodes.append_lt_append {m n : Nat} {bytes larger : Bytes} (first : Encodes m bytes)
    (second : Encodes n larger) (less : m < n) (rest more : Bytes) :
    bytes ++ rest < larger ++ more := by
  -- The marks decide between two forms and the digits within one.
  cases first <;> cases second <;>
    simp only [List.cons_append, List.nil_append, List.cons_lt_cons_iff, UInt8.lt_iff_toNat_lt,
      ← UInt8.toNat_inj, UInt8.toNat_ofNat'] <;>
    omega

theorem bytesOf_lt_bytesOf {chars more : List Char} (h : chars < more) :
    bytesOf chars < bytesOf more := by
  induction h with
  | @nil c rest =>
      rw [bytesOf_nil, bytesOf_cons]
      obtain ⟨b, bytes, written⟩ := List.exists_cons_of_ne_nil (encodes_utf8EncodeChar c).ne_nil
      rw [written]
      exact List.nil_lt_cons ..
  | rel less =>
      rw [bytesOf_cons, bytesOf_cons]
      exact (encodes_utf8EncodeChar _).append_lt_append (encodes_utf8EncodeChar _) less ..
  | cons _ ih =>
      rw [bytesOf_cons, bytesOf_cons]
      exact List.append_left_lt ih

end Json

open Json
open Std (ExtTreeMap TransOrd LawfulEqOrd)

theorem bytesLt_of_lt {a b : String} (h : a < b) : BytesLt a b := by
  have bytes := bytesOf_lt_bytesOf (String.lt_iff.1 h)
  rwa [← utf8_ofList, ← utf8_ofList, String.ofList_toList, String.ofList_toList] at bytes

theorem bytesLt_iff_lt {a b : String} : BytesLt a b ↔ a < b := by
  refine ⟨fun h => ?_, bytesLt_of_lt⟩
  rcases Std.lt_trichotomy a b with less | rfl | more
  · exact less
  · exact absurd h (List.lt_irrefl _)
  · exact absurd h (List.lt_asymm (bytesLt_of_lt more))

/-- The order in which a table keeps its keys is the order of their bytes. -/
theorem compare_eq_lt_iff_bytesLt {a b : String} : compare a b = .lt ↔ BytesLt a b :=
  compareOfLessAndEq_eq_lt.trans bytesLt_iff_lt.symm

section

variable {κ α : Type} [Ord κ] [TransOrd κ] [LawfulEqOrd κ] {entries walk : List (κ × α)}

/-- Entries with distinct keys that are sorted in any way are the ascending entries of their table. -/
theorem ascending_of_sorted (distinct : (entries.map Prod.fst).Nodup) {sorted : List (κ × α)}
    (perm : sorted.Perm entries) (ordered : sorted.Pairwise fun a b => compare b.1 a.1 ≠ .lt) :
    Ascending (ExtTreeMap.ofList entries) sorted := by
  constructor
  · have apart : (sorted.map Prod.fst).Nodup := (perm.map Prod.fst).nodup_iff.2 distinct
    refine (ordered.and (List.pairwise_map.1 apart)).imp fun {a b} h => ?_
    obtain ⟨notBehind, different⟩ := h
    cases compared : compare a.1 b.1 with
    | lt => rfl
    | eq => exact absurd (Std.LawfulEqCmp.eq_of_compare compared) different
    | gt => exact absurd (Std.OrientedCmp.gt_iff_lt.1 compared) notBehind
  · intro key value
    rw [perm.mem_iff, (perm_toList_ofList distinct).mem_iff,
      ExtTreeMap.mem_toList_iff_getElem?_eq_some]

theorem ofList_eq_of_perm [BEq κ] [LawfulBEq κ] (distinct : (entries.map Prod.fst).Nodup)
    (walked : walk.Perm entries) : ExtTreeMap.ofList walk = ExtTreeMap.ofList entries := by
  rw [ExtTreeMap.ofList_eq_insertMany_empty]
  exact insertMany_perm (walked.trans (perm_toList_ofList distinct))

theorem Arrangement.arrange_eq_toList {lt : κ → κ → Prop}
    (agrees : ∀ a b, compare a b = .lt ↔ lt a b) (arrangement : Arrangement lt α)
    (distinct : (entries.map Prod.fst).Nodup) (walked : walk.Perm entries) :
    arrangement.arrange walk = (ExtTreeMap.ofList entries).toList := by
  apply Ascending.eq_toList
  apply ascending_of_sorted distinct ((arrangement.perm walk).trans walked)
  exact (arrangement.ordered walk).imp fun notBehind behind => notBehind ((agrees _ _).1 behind)

end

theorem Arrangement.byIndexM_eq {α σ : Type} {entries walk : List (UInt32 × α)}
    (arrangement : Arrangement (fun a b : UInt32 => a < b) α) (tag : UInt32 → α → StateM σ α)
    (distinct : (entries.map Prod.fst).Nodup) (walked : walk.Perm entries) :
    arrangement.byIndexM walk tag = sortedByIndexM (.ofList entries) tag := by
  rw [byIndexM, sortedByIndexM,
    arrange_eq_toList (fun _ _ => Std.compare_eq_lt) arrangement distinct walked]

theorem Arrangement.byKey_eq {α : Type} {entries walk : List (String × α)}
    (arrangement : Arrangement BytesLt α) (distinct : (entries.map Prod.fst).Nodup)
    (walked : walk.Perm entries) : arrangement.byKey walk = sortedByKey (.ofList entries) := by
  rw [byKey, sortedByKey,
    arrange_eq_toList (fun _ _ => compare_eq_lt_iff_bytesLt) arrangement distinct walked]

namespace Arrangement

variable {κ α : Type} {lt : κ → κ → Prop}

def merging [Ord κ] [TransOrd κ] (agrees : ∀ a b, compare a b = .lt ↔ lt a b) :
    Arrangement lt α where
  arrange walk := walk.mergeSort fun a b => (compare a.1 b.1).isLE
  perm walk := List.mergeSort_perm walk _
  ordered walk := by
    have total (a b : κ × α) : ((compare a.1 b.1).isLE || (compare b.1 a.1).isLE) = true := by
      rw [Std.OrientedOrd.eq_swap (a := b.1)]
      cases compare a.1 b.1 <;> rfl
    have sorted : (walk.mergeSort fun a b => (compare a.1 b.1).isLE).Pairwise fun a b =>
        (compare a.1 b.1).isLE = true := by
      apply List.pairwise_mergeSort _ total
      intro a b c
      exact Std.TransOrd.isLE_trans
    refine sorted.imp fun {a b} inOrder behind => ?_
    exact Std.OrientedCmp.not_lt_of_isLE inOrder ((agrees _ _).2 behind)

def backwards (arrangement : Arrangement lt α) : Arrangement lt α where
  arrange walk := arrangement.arrange walk.reverse
  perm walk := (arrangement.perm walk.reverse).trans walk.reverse_perm
  ordered walk := arrangement.ordered walk.reverse

end Arrangement

section

variable {α σ : Type} {tag : UInt32 → α → StateM σ α}

/-- The tag is called for one entry after the other, each time in the state that the call before has
left, and nothing else touches the state. -/
inductive Tags (tag : UInt32 → α → StateM σ α) : σ → List (UInt32 × α) → List α → σ → Prop
  | nil (state : σ) : Tags tag state [] [] state
  | cons {before between after : σ} {index : UInt32} {value tagged : α}
      {calls : List (UInt32 × α)} {values : List α}
      (call : (tag index value).run before = (tagged, between))
      (rest : Tags tag between calls values after) :
      Tags tag before ((index, value) :: calls) (tagged :: values) after

theorem run_bind_of_run {β γ : Type} {first : StateM σ β} {next : β → StateM σ γ} {before between : σ}
    {result : β} (h : first.run before = (result, between)) :
    (first >>= next).run before = (next result).run between := by
  rw [StateT.run_bind, h]
  rfl

theorem tags_mapM (calls : List (UInt32 × α)) (state : σ) :
    ∃ values after, (calls.mapM fun entry => tag entry.1 entry.2).run state = (values, after) ∧
      Tags tag state calls values after := by
  induction calls generalizing state with
  | nil => exact ⟨[], state, rfl, .nil state⟩
  | cons entry calls ih =>
      obtain ⟨index, value⟩ := entry
      rcases call : (tag index value).run state with ⟨tagged, between⟩
      obtain ⟨values, after, run, rest⟩ := ih between
      refine ⟨tagged :: values, after, ?_, .cons call rest⟩
      rw [List.mapM_cons, run_bind_of_run call, run_bind_of_run run]
      rfl

end

/-- What is kept of a table does not depend on the walk through it. By index, the tag is called once for
each entry in ascending order of the indices, and its results are kept in this order; by key, the values
are kept in ascending order of the bytes of their keys. -/
theorem projection_of_any_walk {α β : Type} {entries : List (UInt32 × α)}
    (distinct : (entries.map Prod.fst).Nodup) {named : List (String × β)}
    (distinctNames : (named.map Prod.fst).Nodup) :
    (∃ calls : List (UInt32 × α), calls.Perm entries ∧ (calls.Pairwise fun a b => a.1 < b.1) ∧
      (∀ (σ : Type) (tag : UInt32 → α → StateM σ α) (state : σ), ∃ values after,
        Tags tag state calls values after ∧
          ∀ walk, walk.Perm entries →
            (sortedByIndexM (.ofList walk) tag).run state = (values, after) ∧
              ∀ arrangement : Arrangement (fun a b : UInt32 => a < b) α,
                (arrangement.byIndexM walk tag).run state = (values, after)) ∧
      ∀ (tag : UInt32 → α → α) (walk), walk.Perm entries →
        sortedByIndex (.ofList walk) tag = calls.map fun entry => tag entry.1 entry.2) ∧
    ∃ ascending : List (String × β), ascending.Perm named ∧
      (ascending.Pairwise fun a b => utf8 a.1 < utf8 b.1) ∧
      ∀ walk, walk.Perm named →
        sortedByKey (.ofList walk) = ascending.map Prod.snd ∧
          ∀ arrangement : Arrangement BytesLt β, arrangement.byKey walk = ascending.map Prod.snd := by
  constructor
  · have perm : (ExtTreeMap.ofList entries).toList.Perm entries := (perm_toList_ofList distinct).symm
    have ascending : (ExtTreeMap.ofList entries).toList.Pairwise fun a b => a.1 < b.1 :=
      ExtTreeMap.ordered_keys_toList.imp fun h => Std.compare_eq_lt.1 h
    refine ⟨_, perm, ascending, ?_, ?_⟩
    · intro σ tag state
      obtain ⟨values, after, run, tags⟩ := tags_mapM (ExtTreeMap.ofList entries).toList state
      refine ⟨values, after, tags, fun walk walked => ?_⟩
      rw [ofList_eq_of_perm distinct walked]
      refine ⟨run, fun arrangement => ?_⟩
      rw [arrangement.byIndexM_eq tag distinct walked]
      exact run
    · intro tag walk walked
      rw [ofList_eq_of_perm distinct walked, sortedByIndex]
  · have perm : (ExtTreeMap.ofList named).toList.Perm named := (perm_toList_ofList distinctNames).symm
    have ascending : (ExtTreeMap.ofList named).toList.Pairwise fun a b => utf8 a.1 < utf8 b.1 :=
      ExtTreeMap.ordered_keys_toList.imp fun h => compare_eq_lt_iff_bytesLt.1 h
    refine ⟨_, perm, ascending, fun walk walked => ?_⟩
    rw [ofList_eq_of_perm distinctNames walked]
    exact ⟨rfl, fun arrangement => arrangement.byKey_eq distinctNames walked⟩

def counting (index : UInt32) (value : Nat) : StateM (List UInt32) Nat := do
  let seen ← get
  set (seen ++ [index])
  return value + seen.length

def bucketed : List (UInt32 × Nat) := [(3, 30), (1, 10), (10, 100), (2, 20)]

/-- By its bytes ～ is smaller than 😀, by its UTF-16 units it is greater. -/
def bucketedNames : List (String × Nat) :=
  [("b", 4), ("😀", 6), ("10", 1), ("～", 5), ("a", 2), ("ab", 3)]

theorem projection_of_any_walk_bucketed :
    ((bucketed.map Prod.fst).Nodup ∧ (bucketedNames.map Prod.fst).Nodup) ∧
    (((Arrangement.merging fun _ _ => Std.compare_eq_lt).byIndexM bucketed counting).run [] =
        ([10, 21, 32, 103], [1, 2, 3, 10]) ∧
      ((Arrangement.merging fun _ _ => Std.compare_eq_lt).backwards.byIndexM bucketed.reverse
        counting).run [] = ([10, 21, 32, 103], [1, 2, 3, 10])) ∧
    (Arrangement.merging fun _ _ => compare_eq_lt_iff_bytesLt).byKey bucketedNames =
        [1, 2, 3, 4, 5, 6] ∧
      (Arrangement.merging fun _ _ => compare_eq_lt_iff_bytesLt).backwards.byKey
        bucketedNames.reverse = [1, 2, 3, 4, 5, 6] := by
  have distinct : (bucketed.map Prod.fst).Nodup := by decide
  have distinctNames : (bucketedNames.map Prod.fst).Nodup := by decide
  obtain ⟨⟨_, -, -, tagged, -⟩, _, -, -, kept⟩ := projection_of_any_walk distinct distinctNames
  obtain ⟨values, after, -, same⟩ := tagged (List UInt32) counting []
  obtain ⟨run, sorted⟩ := same bucketed (.refl bucketed)
  obtain ⟨-, sortedBack⟩ := same bucketed.reverse bucketed.reverse_perm
  obtain ⟨listed, sortedByName⟩ := kept bucketedNames (.refl bucketedNames)
  obtain ⟨-, sortedBackByName⟩ := kept bucketedNames.reverse bucketedNames.reverse_perm
  refine ⟨⟨distinct, distinctNames⟩, ⟨?_, ?_⟩, ?_, ?_⟩
  · rw [sorted, ← run]
    rfl
  · rw [sortedBack, ← run]
    rfl
  · rw [sortedByName, ← listed]
    rfl
  · rw [sortedBackByName, ← listed]
    rfl

-- With one key twice the order of the walk is seen, in another way by each sort.
example : (Arrangement.merging fun _ _ => compare_eq_lt_iff_bytesLt).byKey [("a", 1), ("a", 2)] =
      [1, 2] ∧
    (Arrangement.merging fun _ _ => compare_eq_lt_iff_bytesLt).backwards.byKey
      [("a", 1), ("a", 2)] = [2, 1] := by cbv

end FabricSurvey
