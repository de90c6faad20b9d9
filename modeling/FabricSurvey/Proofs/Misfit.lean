import FabricSurvey.Collection.Network
import FabricSurvey.Proofs.Grammar.Integer
import FabricSurvey.Proofs.Grammar.Member
import FabricSurvey.Proofs.Pass
import FabricSurvey.Proofs.Rendering
import FabricSurvey.Proofs.Stream

/-!
# Fields that do not fit

A field that a record leaves out is zero. A field that is there and cannot be read as what it should be
is not: the body is refused as a whole, however deep in it the field lies, and so is a body that gives a
field twice. What becomes of it is what becomes of any fetch that fails.
-/

namespace FabricSurvey.Json

open Std (ExtTreeMap TransOrd)

/-- No numeral, or one that is not written as an integer between the bounds. -/
def NoIntegerIn (low high : Int) (draft : Draft) : Prop :=
  ∀ n value, draft = .number n → n.integer? = some value → ¬ (low ≤ value ∧ value ≤ high)

/-- What stands where a scalar should is of another kind, or it is a number that is none of its values. -/
def Shape.Misfit : Shape → Draft → Prop
  | .word, draft => NoIntegerIn 0 0xFFFFFFFF draft
  | .count, draft => NoIntegerIn (-0x8000000000000000) 0x7FFFFFFFFFFFFFFF draft
  | .text, draft => ∀ content, draft ≠ .string content
  | .flag, draft => ∀ value, draft ≠ .flag value
  | _, _ => False

def Fields.shape? : Fields → String → Option Shape
  | .nil, _ => none
  | .cons name _ shape rest, key => if key = name then some shape else rest.shape? key

def Fields.shapeAt? : Fields → Nat → Option Shape
  | .nil, _ => none
  | .cons _ _ shape _, 0 => some shape
  | .cons _ _ _ rest, position + 1 => rest.shapeAt? position

/-- The second text differs from the first one in a single scalar, in whose place there is now something
that does not fit, or in a single member, which repeats a field of the record it stands in. -/
inductive Shape.Spoils : Shape → Bytes → Bytes → Prop
  | scalar {shape : Shape} {old new : Bytes} (misfit : shape.Misfit (Draft.of new)) :
      Spoils shape old new
  | option {name : String} {fields : Fields} {old new : Bytes}
      (inner : Spoils (.record name fields) old new) : Spoils (.option (.record name fields)) old new
  | item {shape : Shape} {before after : List Bytes} {old new text spoilt : Bytes}
      (whole : ArrayText (before ++ old :: after) text)
      (changed : ArrayText (before ++ new :: after) spoilt) (inner : Spoils shape old new) :
      Spoils (.list shape) text spoilt
  | field {record name : String} {fields : Fields} {shape : Shape} {before after : List Member}
      {key old new text spoilt : Bytes} (whole : ObjectText (before ++ ⟨key, old⟩ :: after) text)
      (changed : ObjectText (before ++ ⟨key, new⟩ :: after) spoilt)
      (named : textOf key = .ok name) (known : fields.shape? name = some shape)
      (inner : Spoils shape old new) : Spoils (.record record fields) text spoilt
  | position {record : String} {fields : Fields} {shape : Shape} {before after : List Bytes}
      {old new text spoilt : Bytes} (whole : ArrayText (before ++ old :: after) text)
      (changed : ArrayText (before ++ new :: after) spoilt)
      (known : fields.shapeAt? before.length = some shape) (inner : Spoils shape old new) :
      Spoils (.record record fields) text spoilt
  | repeated {record name : String} {fields : Fields} {shape : Shape} {before after : List Member}
      {member other : Member} {text spoilt : Bytes} (whole : ObjectText (before ++ after) text)
      (changed : ObjectText (before ++ member :: after) spoilt)
      (named : textOf member.key = .ok name) (known : fields.shape? name = some shape)
      (among : other ∈ before ++ after) (same : textOf other.key = .ok name) :
      Spoils (.record record fields) text spoilt

/-- The texts of two tables in one entry of which a text of a shape is spoilt. -/
def Shape.SpoilsEntry (shape : Shape) (text spoilt : Bytes) : Prop :=
  ∃ before after key old new, ObjectText (before ++ ⟨key, old⟩ :: after) text ∧
    ObjectText (before ++ ⟨key, new⟩ :: after) spoilt ∧ shape.Spoils old new

section Runs

variable {α σ ρ : Type} {before after : List α} {a : α}

theorem exists_of_mapM {read : α → Except Error ρ} {values : List ρ}
    (h : (before ++ a :: after).mapM read = .ok values) : ∃ value, read a = .ok value := by
  rw [List.mapM_append, List.mapM_cons] at h
  obtain ⟨_, -, h⟩ := bind_eq_ok_iff.1 h
  obtain ⟨_, h, -⟩ := bind_eq_ok_iff.1 h
  obtain ⟨value, read, -⟩ := bind_eq_ok_iff.1 h
  exact ⟨value, read⟩

theorem exists_of_foldlM {read : σ → α → Except Error σ} {state final : σ}
    (h : (before ++ a :: after).foldlM read state = .ok final) :
    ∃ reached next, before.foldlM read state = .ok reached ∧ read reached a = .ok next ∧
      after.foldlM read next = .ok final := by
  rw [List.foldlM_append] at h
  obtain ⟨reached, run, h⟩ := bind_eq_ok_iff.1 h
  rw [List.foldlM_cons] at h
  obtain ⟨next, step, rest⟩ := bind_eq_ok_iff.1 h
  exact ⟨reached, next, run, step, rest⟩

end Runs

def Fields.isFilled : (fields : Fields) → fields.Slots → String → Bool
  | .nil, _, _ => false
  | .cons name _ _ rest, slots, key => if key = name then slots.1.isSome else rest.isFilled slots.2 key

theorem Fields.of_put_cons {name key : String} {presence : Presence} {shape : Shape} {rest : Fields}
    {slots next : (Fields.cons name presence shape rest).Slots} {draft : Draft}
    (h : (Fields.cons name presence shape rest).put slots key draft = .ok next) :
    (key = name ∧ slots.1 = none ∧
        ∃ value, shape.decode draft = .ok value ∧ next = (some value, slots.2)) ∨
      (key ≠ name ∧ ∃ others, rest.put slots.2 key draft = .ok others ∧ next = (slots.1, others)) := by
  rw [Fields.put] at h
  split_ifs at h with same filled
  · obtain ⟨value, decoded, slot⟩ := bind_eq_ok_iff.1 h
    exact .inl ⟨same, Option.not_isSome_iff_eq_none.1 filled, value, decoded, (Except.ok.inj slot).symm⟩
  · obtain ⟨others, put, slot⟩ := bind_eq_ok_iff.1 h
    exact .inr ⟨same, others, put, (Except.ok.inj slot).symm⟩

theorem Fields.put_known {key : String} {draft : Draft} : (fields : Fields) →
    ∀ {shape : Shape} {slots next : fields.Slots}, fields.shape? key = some shape →
      fields.put slots key draft = .ok next →
        fields.isFilled slots key = false ∧ fields.isFilled next key = true ∧
          ∃ value, shape.decode draft = .ok value
  | .nil => fun known _ => by cases known
  | .cons name _ shape rest => fun known h => by
      rw [Fields.shape?] at known
      rw [Fields.isFilled, Fields.isFilled]
      rcases Fields.of_put_cons h with ⟨same, free, value, decoded, rfl⟩ | ⟨other, _, put, rfl⟩
      · rw [if_pos same] at known
        obtain rfl := Option.some.inj known
        rw [if_pos same, if_pos same, free]
        exact ⟨rfl, rfl, value, decoded⟩
      · rw [if_neg other] at known
        rw [if_neg other, if_neg other]
        exact rest.put_known known put

theorem Fields.isFilled_put {key name : String} {draft : Draft} : (fields : Fields) →
    ∀ {slots next : fields.Slots}, fields.put slots key draft = .ok next →
      fields.isFilled slots name = true → fields.isFilled next name = true
  | .nil => fun _ filled => by cases filled
  | .cons field _ shape rest => fun h filled => by
      rw [Fields.isFilled] at filled ⊢
      rcases Fields.of_put_cons h with ⟨-, -, value, -, rfl⟩ | ⟨-, _, put, rfl⟩
      · split_ifs at filled ⊢
        · rfl
        · exact filled
      · split_ifs at filled ⊢
        · exact filled
        · exact rest.isFilled_put put filled

section Record

variable {fields : Fields} {shape : Shape} {name : String} {slots final : fields.Slots}

theorem Fields.read_known {entry : Bytes × Draft} (named : textOf entry.1 = .ok name)
    (known : fields.shape? name = some shape) (h : fields.read slots entry = .ok final) :
    fields.isFilled slots name = false ∧ fields.isFilled final name = true ∧
      ∃ value, shape.decode entry.2 = .ok value := by
  rw [Fields.read, named] at h
  exact fields.put_known known h

theorem Fields.isFilled_foldlM {entries : List (Bytes × Draft)}
    (h : entries.foldlM fields.read slots = .ok final) (filled : fields.isFilled slots name = true) :
    fields.isFilled final name = true := by
  induction entries generalizing slots with
  | nil =>
      obtain rfl := Except.ok.inj h
      exact filled
  | cons entry entries ih =>
      rw [List.foldlM_cons] at h
      obtain ⟨next, step, rest⟩ := bind_eq_ok_iff.1 h
      obtain ⟨key, -, put⟩ := bind_eq_ok_iff.1 step
      exact ih rest (fields.isFilled_put put filled)

theorem Fields.not_repeated {before between after : List (Bytes × Draft)} {first second : Bytes × Draft}
    (named : textOf first.1 = .ok name) (again : textOf second.1 = .ok name)
    (known : fields.shape? name = some shape) :
    (before ++ first :: (between ++ second :: after)).foldlM fields.read slots ≠ .ok final := by
  intro h
  obtain ⟨_, _, -, step, rest⟩ := exists_of_foldlM h
  obtain ⟨_, _, run, step', -⟩ := exists_of_foldlM rest
  have filled := Fields.isFilled_foldlM run (Fields.read_known named known step).2.1
  rw [(Fields.read_known again known step').1] at filled
  cases filled

end Record

theorem Shape.foldlM_of_record {name : String} {fields : Fields} {entries : List (Bytes × Draft)}
    {ending : ObjectEnd} {value : (Shape.record name fields).Data}
    (h : (Shape.record name fields).decode (.object entries ending) = .ok value) :
    ∃ slots, entries.foldlM fields.read fields.empty = .ok slots := by
  obtain ⟨slots, folded, -⟩ := bind_eq_ok_iff.1 h
  exact ⟨slots, folded⟩

theorem Fields.exists_of_ofItems {record : String} {total : Nat} {draft : Draft} {after : List Draft}
    {ending : Option Fault} {shape : Shape} : (fields : Fields) → (before : List Draft) →
    ∀ {index : Nat} {values : fields.Data}, fields.shapeAt? before.length = some shape →
      fields.ofItems record total index (before ++ draft :: after) ending = .ok values →
        ∃ value, shape.decode draft = .ok value
  | .nil, _ => fun known _ => by cases known
  | .cons _ _ _ _, [] => fun known h => by
      obtain rfl := Option.some.inj known
      obtain ⟨value, decoded, -⟩ := bind_eq_ok_iff.1 h
      exact ⟨value, decoded⟩
  | .cons _ _ _ rest, _ :: before => fun known h => by
      obtain ⟨_, -, h⟩ := bind_eq_ok_iff.1 h
      obtain ⟨_, others, -⟩ := bind_eq_ok_iff.1 h
      exact rest.exists_of_ofItems before known others

theorem integerIn_ne_ok {low high value : Int} {expected : Expected} {draft : Draft}
    (h : NoIntegerIn low high draft) : integerIn low high expected draft ≠ .ok value := by
  intro asked
  obtain ⟨n, rfl, written, -, inside⟩ := exists_integer asked
  exact h n value rfl written inside

theorem Shape.decode_ne_ok_of_misfit {shape : Shape} {draft : Draft} (misfit : shape.Misfit draft)
    (value : shape.Data) : shape.decode draft ≠ .ok value := by
  intro h
  rw [Shape.decode.eq_def] at h
  cases shape with
  | word | count =>
      obtain ⟨_, asked, -⟩ := bind_eq_ok_iff.1 h
      exact integerIn_ne_ok misfit asked
  | text =>
      cases draft with
      | string content => exact misfit content rfl
      | _ => exact mismatch_ne_ok h
  | flag =>
      cases draft with
      | flag value => exact misfit value rfl
      | _ => exact mismatch_ne_ok h
  | list | option | record => exact misfit

theorem Shape.Spoils.ne_null {name : String} {fields : Fields} {text spoilt : Bytes}
    (h : (Shape.record name fields).Spoils text spoilt) : Draft.of spoilt ≠ .null := by
  cases h with
  | scalar misfit => exact misfit.elim
  | position _ changed => simp [Draft.of_arrayText changed]
  | field _ changed | repeated _ changed => simp [Draft.of_objectText changed]

/-- Neither a zero nor an absent option takes the place of what does not fit. -/
theorem Shape.Spoils.decode_ne_ok {shape : Shape} {text spoilt : Bytes} (h : shape.Spoils text spoilt)
    (value : shape.Data) : shape.decode (Draft.of spoilt) ≠ .ok value := by
  induction h with
  | scalar misfit => exact Shape.decode_ne_ok_of_misfit misfit value
  | option inner ih =>
      intro h
      rw [Shape.decode] at h
      · obtain ⟨record, decoded, -⟩ := bind_eq_ok_iff.1 h
        exact ih record decoded
      · exact inner.ne_null
  | item _ changed _ ih =>
      rw [Draft.of_arrayText changed, List.map_append, List.map_cons]
      intro h
      obtain ⟨_, each, -⟩ := bind_eq_ok_iff.1 h
      obtain ⟨value, decoded⟩ := exists_of_mapM each
      exact ih value decoded
  | field _ changed named known _ ih =>
      rw [Draft.of_objectText changed, List.map_append, List.map_cons]
      intro h
      obtain ⟨_, folded⟩ := Shape.foldlM_of_record h
      obtain ⟨_, _, -, step, -⟩ := exists_of_foldlM folded
      obtain ⟨-, -, value, decoded⟩ := Fields.read_known named known step
      exact ih value decoded
  | position _ changed known _ ih =>
      rw [Draft.of_arrayText changed, List.map_append, List.map_cons]
      intro h
      rw [← List.length_map Draft.of] at known
      obtain ⟨value, decoded⟩ := Fields.exists_of_ofItems _ _ known h
      exact ih value decoded
  | @repeated _ _ fields _ before after member _ _ _ _ changed named known among same =>
      rw [Draft.of_objectText changed]
      intro h
      obtain ⟨_, folded⟩ := Shape.foldlM_of_record h
      -- the other member of that name stands before the new one or after it
      rcases List.mem_append.1 among with earlier | later
      · obtain ⟨front, between, rfl⟩ := List.append_of_mem earlier
        rw [List.append_assoc, List.cons_append] at folded
        simp only [List.map_append, List.map_cons] at folded
        exact Fields.not_repeated same named known folded
      · obtain ⟨between, back, rfl⟩ := List.append_of_mem later
        simp only [List.map_append, List.map_cons] at folded
        exact Fields.not_repeated named same known folded

theorem decodeTable_ne_ok {κ α : Type} [Ord κ] [TransOrd κ] [TableKey κ] [Shaped α]
    {text spoilt : Bytes} (h : (Shaped.shape α).SpoilsEntry text spoilt) (table : ExtTreeMap κ α) :
    decodeTable κ α (Draft.of spoilt) ≠ .ok table := by
  obtain ⟨before, after, key, old, new, -, changed, inner⟩ := h
  rw [Draft.of_objectText changed, List.map_append, List.map_cons]
  intro h
  obtain ⟨_, folded, -⟩ := bind_eq_ok_iff.1 h
  obtain ⟨_, _, -, step, -⟩ := exists_of_foldlM folded
  obtain ⟨_, -, step⟩ := bind_eq_ok_iff.1 step
  obtain ⟨_, decoded, -⟩ := bind_eq_ok_iff.1 step
  obtain ⟨value, decoded, -⟩ := map_eq_ok_iff.1 decoded
  exact inner.decode_ne_ok value decoded

end FabricSurvey.Json

namespace FabricSurvey

open Json

/-- The second body differs from the first one in a single field of a single record, which does not fit
or is repeated. -/
def Category.Spoils (category : Category) (body spoilt : Bytes) : Prop :=
  match category with
  | .liveness => (Shaped.shape Liveness).Spoils body spoilt
  | .interfaces => (Shaped.shape Interface).SpoilsEntry body spoilt
  | .bridgeDomains => (Shaped.shape BridgeDomain).SpoilsEntry body spoilt
  | .l2Entries => (Shaped.shape L2Entry).SpoilsEntry body spoilt
  | .telemetry => (Shaped.shape Telemetry).SpoilsEntry body spoilt
  | .arp => (Shaped.shape (List ArpEntry)).Spoils body spoilt ∨
      (Shaped.shape ArpEntry).SpoilsEntry body spoilt

variable {category : Category} {body spoilt : Bytes}

/-- A table that is spoilt in one of its forms is not read in the other one. -/
theorem ArpTable.decode_ne_ok (h : Category.arp.Spoils body spoilt) (table : ArpTable) :
    ArpTable.decode (Draft.of spoilt) ≠ .ok table := by
  intro read
  obtain ⟨_, -, read⟩ := bind_eq_ok_iff.1 read
  split at read
  · rename_i listed
    obtain ⟨_, listed, -⟩ := map_eq_ok_iff.1 listed
    rcases h with list | ⟨_, _, _, _, _, -, changed, -⟩
    · exact list.decode_ne_ok _ listed
    · rw [Draft.of_objectText changed] at listed
      exact mismatch_ne_ok listed
  · rename_i keyed
    rcases h with list | table
    · cases list with
      | scalar misfit => exact misfit
      | item _ changed =>
          rw [Draft.of_arrayText changed] at keyed
          exact mismatch_ne_ok keyed
    · exact decodeTable_ne_ok table _ keyed
  · cases read

theorem Payload.decode_ne_ok (h : category.Spoils body spoilt) (payload : Payload) :
    decode category spoilt ≠ .ok payload := by
  intro accepted
  obtain ⟨read, -⟩ := readWhole_eq_ok_iff.1 accepted
  cases category with
  | liveness =>
      obtain ⟨_, record, -⟩ := map_eq_ok_iff.1 read
      obtain ⟨_, record, -⟩ := map_eq_ok_iff.1 record
      exact h.decode_ne_ok _ record
  | interfaces | bridgeDomains | l2Entries | telemetry =>
      obtain ⟨_, table, -⟩ := map_eq_ok_iff.1 read
      exact decodeTable_ne_ok h _ table
  | arp =>
      obtain ⟨_, table, -⟩ := map_eq_ok_iff.1 read
      exact ArpTable.decode_ne_ok h _ table

structure Node.Cleared (category : Category) (node cleared : Node) : Prop where
  identity : cleared.identity = node.identity
  holding : ∀ asked, cleared.holding asked =
    if asked = category then .empty category else node.holding asked

namespace Pass

variable {categories : List Category} {state : State} {name : String} {node : Node}
  {cause : FetchError}

theorem apply_failed (enabled : category ∈ categories) (stored : state.store.get? name = some node) :
    let next := apply categories state ⟨name, category, .error cause⟩
    (∃ cleared, next.store.get? name = some cleared ∧ node.Cleared category cleared) ∧
      (∀ other, other ≠ name → next.store.get? other = state.store.get? other) ∧
      next.store = { state.store with nodes := next.store.nodes } ∧
      next.failures = state.failures ++ [⟨name, category, cause.message⟩] := by
  intro next
  refine ⟨⟨node.put (.empty category), ?_, node.identity_put _, fun asked => ?_⟩, ?_, ?_, ?_⟩
  · rw [get?_apply, stored, Option.map_some, Node.receive, if_pos ⟨rfl, enabled⟩]
    rfl
  · rw [Node.holding_put, Holding.category_empty]
    simp only [eq_comm]
  · intro other elsewhere
    rw [get?_apply]
    have ignored (node : Node) : node.receive categories other ⟨name, category, .error cause⟩ = node :=
      if_neg fun h => elsewhere h.1.symm
    simp only [ignored, Option.map_id']
  · simp only [next, apply_eq_after, after]
  · simp only [next, apply_eq_after, after_singleton, if_pos enabled]
    rfl

end Pass

namespace Payload

/-- A field that is there is never read as if it were not. A body that has been spoilt in one field is
refused, whatever it was before. The fetch that brings it is a failure, which clears the category of its
node and is noted, and nothing of the body is kept. -/
theorem misfit_never_defaulted (h : category.Spoils body spoilt) :
    ∃ cause, decode category spoilt = .error cause ∧
      Report.outcomeOfBody category spoilt = .error (.decode cause.message) ∧
      (∀ (network : Network) (url : String) (sent : Url) (status : Nat),
        Network.sendable url = .ok sent → network.route? sent = some (.answer status spoilt) →
          Network.isSuccess status = true →
            network.fetch url category = ⟨false, .error (.decode cause.message)⟩) ∧
      ∀ (categories : List Category) (state : Pass.State) (name : String) (node : Node),
        category ∈ categories → state.store.get? name = some node →
          let next := Pass.apply categories state (Report.ofBody name category spoilt)
          (∃ cleared, next.store.get? name = some cleared ∧ node.Cleared category cleared) ∧
            (∀ other, other ≠ name → next.store.get? other = state.store.get? other) ∧
            next.store = { state.store with nodes := next.store.nodes } ∧
            next.failures = state.failures ++
              [⟨name, category, (FetchError.decode cause.message).message⟩] := by
  obtain ⟨cause, refused, failed⟩ := Report.outcomeOfBody_of_refused (decode_ne_ok h)
  refine ⟨cause, refused, failed, ?_, ?_⟩
  · intro network url sent status sendable answered success
    simp only [Network.fetch, sendable, answered, Network.Ending.ofRoute, success, if_true, failed]
  · intro categories state name node enabled stored
    rw [Report.ofBody, failed]
    exact Pass.apply_failed enabled stored

def tunnelText (network : String) : Bytes :=
  objectOf (utf8 "3") (objectOf (utf8 "vxlan") (objectOf (utf8 "vni") (utf8 network)))

def tunnelled : Pass.State :=
  let interface : Interface := ⟨3, "", "", 0, false, "", 0, some ⟨"", "", 7⟩, [], none⟩
  let node : Node := { Pass.lone with interfaces := [interface] }
  ⟨{ Store.empty with nodes := Std.ExtTreeMap.ofList [("a", node)] }, []⟩

/-- Null would do for the tunnel, but not for its number. -/
theorem spoils_tunnel : Category.interfaces.Spoils (tunnelText "7") (tunnelText "null") := by
  have object (key value : Bytes) (closed : ClosedKey key) (one : OneValue value) :
      ObjectText ([] ++ ⟨key, value⟩ :: []) (objectOf key value) := objectText_of closed one
  have misfit : Shape.word.Misfit (Draft.of (utf8 "null")) := fun _ _ same => nomatch same
  have tunnel : (Shaped.shape Tunnel).Spoils (objectOf (utf8 "vni") (utf8 "7"))
      (objectOf (utf8 "vni") (utf8 "null")) :=
    .field (object _ _ rfl ⟨rfl, by decide⟩) (object _ _ rfl ⟨rfl, by decide⟩) rfl rfl (.scalar misfit)
  have interface : (Shaped.shape Interface).Spoils
      (objectOf (utf8 "vxlan") (objectOf (utf8 "vni") (utf8 "7")))
      (objectOf (utf8 "vxlan") (objectOf (utf8 "vni") (utf8 "null"))) :=
    .field (object _ _ rfl ⟨rfl, by decide⟩) (object _ _ rfl ⟨rfl, by decide⟩) rfl rfl (.option tunnel)
  exact ⟨[], [], utf8 "3", _, _, object _ _ rfl ⟨rfl, by decide⟩, object _ _ rfl ⟨rfl, by decide⟩,
    interface⟩

theorem spoils_repeated : Category.arp.Spoils (utf8 "[\x7b\"interface\":1\x7d]")
    (utf8 "[\x7b\"interface\":1,\"interface\":1\x7d]") := by
  let member : Member := ⟨utf8 "interface", utf8 "1"⟩
  have text : MemberText member _ := memberText_of rfl ⟨rfl, by decide⟩
  have once : ObjectText ([member] ++ []) _ := .some blanks_nil (.last text) blanks_nil
  have twice : ObjectText ([member] ++ member :: []) _ :=
    .some blanks_nil (.next text (.last text)) blanks_nil
  have record : (Shaped.shape ArpEntry).Spoils _ _ :=
    .repeated once twice rfl rfl List.mem_cons_self rfl
  have item (value : Bytes) (one : OneValue value) :
      ArrayText ([] ++ value :: []) (Byte.openBracket :: (value ++ [Byte.closeBracket])) :=
    .some blanks_nil (.last (.intro one)) blanks_nil
  exact .inl (.item (item _ ⟨rfl, by decide⟩) (item _ ⟨rfl, by decide⟩) record)

def misled : Network := ⟨9999, [⟨"[::1]", [("/interfaces", .answer 200 (tunnelText "null"))]⟩]⟩

/-- With the number of its tunnel the whole interface is lost. A list in which a field is repeated is
refused as well, although a table is looked for in its place. -/
theorem misfit_never_defaulted_tunnel :
    (decode .interfaces (tunnelText "7")).toOption.isSome ∧
      (∃ reason,
        misled.fetch "http://[::1]:9999/interfaces" .interfaces = ⟨false, .error (.decode reason)⟩ ∧
          let next := Pass.apply [.interfaces] tunnelled
            (Report.ofBody "a" .interfaces (tunnelText "null"))
          (∃ cleared, next.store.get? "a" = some cleared ∧ cleared.interfaces = []) ∧
            next.failures = [⟨"a", .interfaces, (FetchError.decode reason).message⟩]) ∧
      ∃ cause, decode .arp (utf8 "[\x7b\"interface\":1,\"interface\":1\x7d]") = .error cause := by
  refine ⟨by decide +kernel, ?_, ?_⟩
  · obtain ⟨cause, -, -, fetched, processed⟩ := misfit_never_defaulted spoils_tunnel
    refine ⟨cause.message, ?_, ?_⟩
    · have led : (Network.sendable "http://[::1]:9999/interfaces").toOption.bind misled.route? =
          some (.answer 200 (tunnelText "null")) := by decide +kernel
      cases sendable : Network.sendable "http://[::1]:9999/interfaces" with
      | error unsent =>
          rw [sendable] at led
          cases led
      | ok sent =>
          rw [sendable] at led
          exact fetched misled _ sent 200 sendable led rfl
    · have stored : (tunnelled.store.get? "a").isSome := by decide
      obtain ⟨node, stored⟩ := Option.isSome_iff_exists.1 stored
      obtain ⟨⟨cleared, found, lost⟩, -, -, noted⟩ :=
        processed [.interfaces] tunnelled "a" node List.mem_cons_self stored
      have empty := lost.holding .interfaces
      rw [if_pos rfl] at empty
      exact ⟨⟨cleared, found, Holding.interfaces.inj empty⟩, noted⟩
  · obtain ⟨cause, refused, -⟩ := misfit_never_defaulted spoils_repeated
    exact ⟨cause, refused⟩

end Payload

end FabricSurvey
