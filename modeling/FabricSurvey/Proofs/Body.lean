import Mathlib.Data.List.Forall2
import Mathlib.Data.List.Nodup
import Mathlib.Data.List.Perm.Subperm
import FabricSurvey.Collection.Payload
import FabricSurvey.Proofs.Grammar.Range
import FabricSurvey.Proofs.Rendering

/-!
# Bodies

The trees that stand for a payload. A table is an object with its entries in any order, each one under a
spelling of its key; an ARP table is an array or such an object. Whichever text an agent picks, decoding
gives the payload and nothing of the choice.
-/

namespace FabricSurvey.Json

open Std (ExtTreeMap TransOrd LawfulEqOrd)

/-- Integer keys are plain decimal numerals. -/
def SpellsWordKey (key : UInt32) (content : Bytes) : Prop := content = Numeral.digitsOf key.toNat

/-- Text keys have any spelling that a string has. -/
def SpellsTextKey (key : String) (content : Bytes) : Prop := Quoted.Spells key.toList content

theorem readWordKey_spelled {key : UInt32} {content : Bytes} (h : SpellsWordKey key content) :
    readWordKey (content ++ [Byte.quote]) = .ok key := by
  have spelled : (Numeral.ofInt key.toNat).Spells content := by
    rw [h]
    exact Numeral.spells_ofInt key.toNat
  have ends : Numeral.Ends [Byte.quote] := Draft.ends_cons (by decide) []
  have scanned := Numeral.scan_spelled spelled ends
  have decoded : decodeWord (.number (Numeral.ofInt key.toNat)) = .ok key := decodeWord_ofInt key
  obtain ⟨b, tail, same, start⟩ := Draft.exists_cons_of_spells spelled
  rw [same] at scanned ⊢
  rw [List.cons_append] at scanned ⊢
  simp only [readWordKey, start, if_true, scanned, faultless, decoded, bind, Except.bind]
  rfl

theorem readTextKey_spelled {key : String} {content : Bytes} (h : SpellsTextKey key content) :
    readTextKey (content ++ [Byte.quote]) = .ok key := by
  have scanned := Quoted.scan_spelled h []
  have understood := textOf_spelled h
  rw [String.ofList_toList] at understood
  rw [readTextKey, readText, scanned]
  simp only [understood, bind, Except.bind, Except.map]

theorem perm_toList_ofList {κ α : Type} [Ord κ] [TransOrd κ] [LawfulEqOrd κ] {pairs : List (κ × α)}
    (distinct : (pairs.map Prod.fst).Nodup) : pairs.Perm (ExtTreeMap.ofList pairs).toList := by
  have apart : pairs.Pairwise fun a b => ¬ compare a.1 b.1 = .eq := by
    apply (List.pairwise_map.1 distinct).imp
    intro a b different same
    exact different (Std.LawfulEqCmp.eq_of_compare same)
  apply List.Subperm.perm_of_length_le
  · apply List.subperm_of_subset (List.Nodup.of_map _ distinct)
    intro pair listed
    exact ExtTreeMap.mem_toList_iff_getElem?_eq_some.2
      (ExtTreeMap.getElem?_ofList_of_mem Std.ReflCmp.compare_self apart listed)
  · rw [ExtTreeMap.length_toList, ExtTreeMap.size_ofList apart]

/-- The order in which the entries of a table are inserted leaves no trace. -/
theorem insertMany_perm {κ α : Type} [Ord κ] [TransOrd κ] [LawfulEqOrd κ] [BEq κ] [LawfulBEq κ]
    {table : ExtTreeMap κ α} {pairs : List (κ × α)}
    (perm : pairs.Perm table.toList) : (∅ : ExtTreeMap κ α).insertMany pairs = table := by
  have distinct : pairs.Pairwise fun a b => ¬ compare a.1 b.1 = .eq :=
    (List.Perm.pairwise_iff (fun {a b} h same => h (Std.OrientedCmp.eq_symm same)) perm).2
      ExtTreeMap.distinct_keys_toList
  rw [← ExtTreeMap.ofList_eq_insertMany_empty]
  refine ExtTreeMap.ext_getElem? fun key => ?_
  cases held : table[key]? with
  | some value =>
      have member : (key, value) ∈ pairs :=
        perm.mem_iff.2 (ExtTreeMap.mem_toList_iff_getElem?_eq_some.2 held)
      exact ExtTreeMap.getElem?_ofList_of_mem Std.ReflCmp.compare_self distinct member
  | none =>
      refine ExtTreeMap.getElem?_ofList_of_contains_eq_false (Bool.eq_false_iff.2 fun found => ?_)
      obtain ⟨⟨other, value⟩, member, same⟩ := List.mem_map.1 (List.mem_of_elem_eq_true found)
      have held' := ExtTreeMap.mem_toList_iff_getElem?_eq_some.1 (perm.mem_iff.1 member)
      rw [← same, held'] at held
      exact Option.some_ne_none value held

section Table

variable {κ α : Type} [Ord κ] [TransOrd κ] [TableKey κ] [Shaped α]

/-- An entry of an object that stands for an entry of a table. -/
structure EntryRenders (spells : κ → Bytes → Prop) (pair : κ × α) (entry : Bytes × Draft) : Prop where
  key : spells pair.1 entry.1
  value : Renders pair.2 entry.2

/-- An object that stands for a table: it has the entries of the table, in any order. -/
def TableRenders (spells : κ → Bytes → Prop) (table : ExtTreeMap κ α) (draft : Draft) : Prop :=
  ∃ pairs entries, pairs.Perm table.toList ∧ draft = .object entries .closed ∧
    List.Forall₂ (EntryRenders spells) pairs entries

variable {spells : κ → Bytes → Prop}

theorem foldlM_readEntry
    (reads : ∀ key content, spells key content → TableKey.read (content ++ [Byte.quote]) = .ok key)
    (distinct : (Shaped.shape α).Distinct) {pairs : List (κ × α)} {entries : List (Bytes × Draft)}
    (each : List.Forall₂ (EntryRenders spells) pairs entries)
    (written : ∀ entry ∈ entries, entry.2.IsWritten) (table : ExtTreeMap κ α) :
    entries.foldlM readEntry table = .ok (table.insertMany pairs) := by
  induction each generalizing table with
  | nil =>
      rw [ExtTreeMap.insertMany_nil]
      rfl
  | @cons pair entry pairs entries first _ ih =>
      have key := reads pair.1 entry.1 first.key
      have value := decode_of_renders distinct (written entry List.mem_cons_self) first.value
      have step : readEntry table entry = .ok (table.insert pair.1 pair.2) := by
        rw [readEntry, key]
        simp only [value, bind, Except.bind]
      rw [List.foldlM_cons, step, ExtTreeMap.insertMany_cons]
      exact ih (fun entry hentry => written entry (List.mem_cons_of_mem _ hentry)) _

variable [LawfulEqOrd κ] [BEq κ] [LawfulBEq κ]

theorem decodeTable_of_renders
    (reads : ∀ key content, spells key content → TableKey.read (content ++ [Byte.quote]) = .ok key)
    (distinct : (Shaped.shape α).Distinct) {table : ExtTreeMap κ α} {draft : Draft}
    (written : draft.IsWritten) (h : TableRenders spells table draft) :
    decodeTable κ α draft = .ok table := by
  obtain ⟨pairs, entries, perm, rfl, each⟩ := h
  obtain ⟨text, written⟩ := written
  have isWritten : ∀ entry ∈ entries, entry.2.IsWritten := fun entry hentry =>
    ((Draft.written_of_mem_entries written).2 entry hentry).2
  have folded := foldlM_readEntry reads distinct each isWritten ∅
  rw [insertMany_perm perm] at folded
  simp only [decodeTable, folded, tableEnd, bind, Except.bind]

end Table

end FabricSurvey.Json

namespace FabricSurvey

open Json

/-- The trees that stand for a payload. -/
def Payload.Renders : Payload → Draft → Prop
  | .liveness record, draft => Json.Renders record draft
  | .interfaces table, draft => TableRenders SpellsWordKey table draft
  | .bridgeDomains table, draft => TableRenders SpellsWordKey table draft
  | .l2Entries table, draft => TableRenders SpellsTextKey table draft
  | .telemetry table, draft => TableRenders SpellsTextKey table draft
  | .arp (.list entries), draft => Json.Renders entries draft
  | .arp (.keyed table), draft => TableRenders SpellsTextKey table draft

/-- An ARP table is read as a list if it is an array, and by its keys if it is an object. -/
theorem ArpTable.decode_of_renders {table : ArpTable} {draft : Draft} (written : draft.IsWritten)
    (sound : draft.check Draft.maxDepth = .ok ()) (h : (Payload.arp table).Renders draft) :
    ArpTable.decode draft = .ok table := by
  cases table with
  | list entries =>
      have decoded := Json.decode_of_renders (by decide) written h
      simp only [ArpTable.decode, sound, faultless, decoded, bind, Except.bind]
  | keyed table =>
      have decoded : decodeTable String ArpEntry draft = .ok table :=
        decodeTable_of_renders (fun _ _ => readTextKey_spelled) (by decide) written h
      obtain ⟨_, entries, -, rfl, -⟩ := h
      have noList : Json.decode (List ArpEntry) (.object entries .closed) =
          .error (.wrongType .map .sequence) := rfl
      simp only [ArpTable.decode, sound, faultless, decoded, noList, bind, Except.bind]

theorem Payload.ofDraft_of_renders {payload : Payload} {draft : Draft} (written : draft.IsWritten)
    (sound : payload.category = .arp → draft.check Draft.maxDepth = .ok ()) (h : payload.Renders draft) :
    Payload.ofDraft payload.category draft = .ok payload := by
  cases payload with
  | liveness record =>
      have decoded : Json.decode Liveness draft = .ok record :=
        Json.decode_of_renders (by decide) written h
      simp only [ofDraft, category, decoded, Except.map]
  | interfaces table =>
      have decoded : decodeTable UInt32 Interface draft = .ok table :=
        decodeTable_of_renders (fun _ _ => readWordKey_spelled) (by decide) written h
      simp only [ofDraft, category, decoded, Except.map]
  | bridgeDomains table =>
      have decoded : decodeTable UInt32 BridgeDomain draft = .ok table :=
        decodeTable_of_renders (fun _ _ => readWordKey_spelled) (by decide) written h
      simp only [ofDraft, category, decoded, Except.map]
  | l2Entries table =>
      have decoded : decodeTable String L2Entry draft = .ok table :=
        decodeTable_of_renders (fun _ _ => readTextKey_spelled) (by decide) written h
      simp only [ofDraft, category, decoded, Except.map]
  | telemetry table =>
      have decoded : decodeTable String Telemetry draft = .ok table :=
        decodeTable_of_renders (fun _ _ => readTextKey_spelled) (by decide) written h
      simp only [ofDraft, category, decoded, Except.map]
  | arp table =>
      have decoded := ArpTable.decode_of_renders written (sound rfl) h
      simp only [ofDraft, category, decoded, Except.map]

def unasked : Numeral := ⟨false, [0x31], [0x35], none⟩

/-- Two ARP entries. The first has its fields in another order, with an unknown one between them; the
second has only one. -/
def mixed : Draft :=
  .array [
    .object [(bytesOf "Static".toList, .flag true), (bytesOf "x".toList, .number unasked),
      (bytesOf "interface".toList, .number (.ofInt 7))] .closed,
    .object [(bytesOf "IPAddress".toList, .string (bytesOf "10.0.0.1".toList))] .closed] none

def mixedText : Bytes :=
  utf8 " [ \x7b\"Static\":true,\"x\" : 1.5 , \"interface\":7\x7d,\x7b\"IPAddress\": \"10.0.0.1\" \x7d] "

theorem wholeText_mixed : mixed.WholeText mixedText := by
  have none : Blanks [] := blanks_nil
  have one : Blanks [0x20] := by decide
  have number : unasked.Spells [0x31, Byte.point, 0x35] := by
    have whole : Numeral.Digits [0x31] := ⟨by decide, by decide +kernel⟩
    have fraction : Numeral.Digits [0x35] := ⟨by decide, by decide +kernel⟩
    exact .intro whole (by decide) (.present fraction) .absent
  have index := Draft.Written.lastEntry one (Quoted.spells_plain "interface".toList (by decide))
    none none (.number (Numeral.spells_ofInt 7)) none
  have unknown := Draft.Written.nextEntry none (Quoted.spells_plain "x".toList (by decide))
    one one (.number number) one index
  have first := Draft.Written.nextEntry none (Quoted.spells_plain "Static".toList (by decide))
    none none .yes none unknown
  have address := Draft.Written.string (Quoted.spells_plain "10.0.0.1".toList (by decide))
  have second := Draft.Written.lastEntry none (Quoted.spells_plain "IPAddress".toList (by decide))
    none one address one
  have items := Draft.Written.array
    (.nextItem one (.object first) none (.lastItem none (.object second) none))
  exact ⟨[0x20], _, [0x20], by decide +kernel, one, items, one⟩

theorem renders_mixed :
    (Payload.arp (.list [⟨7, "", "", true⟩, ⟨0, "10.0.0.1", "", false⟩])).Renders mixed := by
  obtain ⟨_, _, _, -, -, written, -⟩ := wholeText_mixed
  obtain ⟨-, items⟩ := Draft.written_of_mem_items written
  obtain ⟨⟨_, first⟩, ⟨_, second⟩, -⟩ :=
    (List.forall_mem_cons.1 items).imp_right List.forall_mem_cons.1
  have isFirst := (Draft.written_of_mem_entries first).2
  have isSecond := (Draft.written_of_mem_entries second).2
  have leftOut {shape : Shape} : shape.Dispensable .defaulted := .inl Presence.noConfusion
  refine ⟨_, rfl, .cons ⟨_, rfl, ?_, ?_, ?_, ?_, trivial⟩
    (.cons ⟨_, rfl, ?_, ?_, ?_, ?_, trivial⟩ .nil)⟩
  · exact .inl ⟨_, .of_isNamed [_, _] [] isFirst (by decide) (by decide) (by decide), rfl⟩
  · exact .inr ⟨(any_isNamed_eq_false_iff isFirst).1 (by decide), rfl, leftOut⟩
  · exact .inr ⟨(any_isNamed_eq_false_iff isFirst).1 (by decide), rfl, leftOut⟩
  · exact .inl ⟨_, .of_isNamed [] [_, _] isFirst (by decide) (by decide) (by decide), rfl⟩
  · exact .inr ⟨(any_isNamed_eq_false_iff isSecond).1 (by decide), rfl, leftOut⟩
  · exact .inl ⟨_, .of_isNamed [] [] isSecond (by decide) (by decide) (by decide), _, rfl,
      Quoted.spells_plain _ (by decide)⟩
  · exact .inr ⟨(any_isNamed_eq_false_iff isSecond).1 (by decide), rfl, leftOut⟩
  · exact .inr ⟨(any_isNamed_eq_false_iff isSecond).1 (by decide), rfl, leftOut⟩

/-- An ARP list of one entry that says nothing but an unknown number. -/
def numbered (numeral : Numeral) : Draft :=
  .array [.object [([0x78], .number numeral)] .closed] none

def numberedText (digits : Bytes) : Bytes :=
  [Byte.openBracket, Byte.openBrace, Byte.quote, 0x78, Byte.quote, Byte.colon] ++
    (digits ++ [Byte.closeBrace, Byte.closeBracket])

theorem spells_x : Quoted.Spells ['x'] [0x78] :=
  .cons (.plain (by decide) (by decide) (by decide)) .nil

theorem wholeText_numbered {numeral : Numeral} {digits : Bytes} (spelled : numeral.Spells digits) :
    (numbered numeral).WholeText (numberedText digits) := by
  have entry := Draft.Written.lastEntry blanks_nil spells_x blanks_nil blanks_nil (.number spelled)
    blanks_nil
  have body := Draft.Written.array (.lastItem blanks_nil (.object entry) blanks_nil)
  refine ⟨[], numberedText digits, [], (List.append_nil _).symm, blanks_nil, ?_, blanks_nil⟩
  simpa only [numbered, numberedText, List.nil_append, List.append_nil, List.cons_append,
    List.append_assoc] using body

/-- No field of an ARP entry has the name of the unknown number, so all of them are zero. -/
theorem renders_numbered (numeral : Numeral) :
    (Payload.arp (.list [⟨0, "", "", false⟩])).Renders (numbered numeral) := by
  have leftOut : ∀ (name : String) (shape : Shape), name ≠ "x" →
      (∃ entry, NamesOne name entry [([0x78], .number numeral)] ∧ shape.Renders shape.zero entry.2) ∨
        (NamesNone name [([0x78], .number numeral)] ∧ shape.zero = shape.zero ∧
          shape.Dispensable .defaulted) := by
    intro name shape other
    refine .inr ⟨fun entry hentry named => other ?_, rfl, .inl Presence.noConfusion⟩
    obtain rfl := List.mem_singleton.1 hentry
    exact String.toList_injective (Quoted.spells_inj named spells_x)
  exact ⟨_, rfl, .cons ⟨_, rfl, leftOut _ .word (by decide), leftOut _ .text (by decide),
    leftOut _ .text (by decide), leftOut _ .flag (by decide), trivial⟩ .nil⟩

theorem decode_numbered_of_overflow {numeral : Numeral} {digits : Bytes}
    (spelled : numeral.Spells digits) (overflow : ¬ numeral.StaysFinite) :
    Payload.decode .arp (numberedText digits) = .error (.fault .malformed) := by
  have refused : numeral.number?.isSome = false := by
    rwa [Bool.eq_false_iff, ne_eq, Numeral.isSome_number?_iff]
  have unsound : (numbered numeral).check Draft.maxDepth = .error .malformed := by
    simp [numbered, Draft.check, Draft.checkItems, Draft.checkEntries, Draft.maxDepth,
      Draft.checkText_spelled spells_x, refused, bind, Except.bind]
  rw [Payload.decode, readWhole_written (wholeText_numbered spelled), Payload.ofDraft, ArpTable.decode,
    unsound]
  rfl

/-- `1.7976931348623157081e308`, which is less than the greatest binary64 number. -/
def lost : Numeral :=
  ⟨false, [0x31], (Nat.toDigits 10 7976931348623157081).map fun c => UInt8.ofNat c.toNat,
    some ⟨false, [0x33, 0x30, 0x38]⟩⟩

end FabricSurvey
