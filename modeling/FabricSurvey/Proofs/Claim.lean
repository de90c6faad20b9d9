import FabricSurvey.Store.Lemmas
import FabricSurvey.Validation

/-!
# Claims of loopback addresses

A node claims the addresses of its loopback one after the other, and each claim either enters it into
an index or is noted as a collision on both nodes. All claims of one node are described here at once:
as one change of each index, and as the list of notes that they make.
-/

namespace FabricSurvey

open Std (ExtTreeMap)

namespace Index

def claimEach (index : Index) (addresses : List String) (owner : String) : Index :=
  addresses.foldl (fun index address => index.claim address owner) index

theorem getElem?_claim_or (index : Index) (address owner key : String) :
    (index.claim address owner)[key]? =
      index[key]?.or (if address = key then some owner else none) := by
  rw [getElem?_claim]
  by_cases ha : address = key
  · subst ha
    cases hk : index[address]? with
    | none =>
        have hn : address ∉ index := by simp [ExtTreeMap.mem_iff_isSome_getElem?, hk]
        rw [if_pos ⟨rfl, hn⟩, if_pos rfl, Option.none_or]
    | some holder =>
        have hm : address ∈ index := by simp [ExtTreeMap.mem_iff_isSome_getElem?, hk]
        rw [if_neg fun h => h.2 hm, Option.some_or]
  · rw [if_neg fun h => ha h.1, if_neg ha, Option.or_none]

theorem getElem?_claimEach (index : Index) (addresses : List String) (owner key : String) :
    (index.claimEach addresses owner)[key]? =
      index[key]?.or (if key ∈ addresses then some owner else none) := by
  unfold claimEach
  induction addresses generalizing index with
  | nil => simp
  | cons address addresses ih =>
      rw [List.foldl_cons, ih, getElem?_claim_or, Option.or_assoc]
      by_cases ha : address = key
      · subst ha
        simp
      · have hk : key ∈ address :: addresses ↔ key ∈ addresses := by simp [Ne.symm ha]
        simp only [if_neg ha, Option.none_or, hk]

theorem claim_of_rival {index : Index} {address owner other : String}
    (h : index.rival? address owner = some other) : index.claim address owner = index := by
  have held := (rival?_eq_some_iff.1 h).1
  ext key holder
  rw [getElem?_claim_or]
  by_cases ha : address = key
  · subst ha
    rw [held, Option.some_or]
  · rw [if_neg ha, Option.or_none]

/-- A node is no rival of itself, so its own claims do not change who its rivals are. -/
theorem rival?_claim (index : Index) (address owner key : String) :
    (index.claim address owner).rival? key owner = index.rival? key owner := by
  unfold rival?
  rw [getElem?_claim_or]
  cases index[key]? with
  | none => by_cases ha : address = key <;> simp [ha]
  | some holder => rfl

end Index

/-- A message and the name of the node that it is noted on. -/
abbrev Note := String × String

def noteAll (diagnostics : ExtTreeMap String (List String)) (notes : List Note) :
    ExtTreeMap String (List String) :=
  notes.foldl (fun diagnostics note =>
    diagnostics.alter note.1 fun noted => some (noted.getD [] ++ [note.2])) diagnostics

theorem noteAll_append (diagnostics : ExtTreeMap String (List String)) (notes more : List Note) :
    noteAll diagnostics (notes ++ more) = noteAll (noteAll diagnostics notes) more :=
  List.foldl_append

theorem mem_noteAll_iff {diagnostics : ExtTreeMap String (List String)} {notes : List Note}
    {name : String} :
    name ∈ noteAll diagnostics notes ↔ name ∈ diagnostics ∨ ∃ note ∈ notes, note.1 = name := by
  unfold noteAll
  induction notes generalizing diagnostics with
  | nil => simp
  | cons note notes ih =>
      rw [List.foldl_cons, ih]
      simp only [ExtTreeMap.mem_alter, Std.LawfulEqCmp.compare_eq_iff_eq, Option.isSome_some]
      by_cases same : note.1 = name <;> simp [same]

/-- What some notes say about a name. -/
def messagesOn (notes : List Note) (name : String) : List String :=
  (notes.filter (·.1 = name)).map (·.2)

theorem messagesOn_cons (note : Note) (notes : List Note) (name : String) :
    messagesOn (note :: notes) name =
      if note.1 = name then note.2 :: messagesOn notes name else messagesOn notes name := by
  unfold messagesOn
  by_cases same : note.1 = name <;> simp [same]

theorem length_messagesOn (notes : List Note) (name : String) :
    (messagesOn notes name).length = (notes.map Prod.fst).count name := by
  rw [messagesOn, List.length_map, ← List.countP_eq_length_filter, List.count, List.countP_map]
  rfl

/-- Notes are added behind what was noted before. A name without any of them is left alone. -/
theorem getElem?_noteAll (diagnostics : ExtTreeMap String (List String)) (notes : List Note)
    (name : String) :
    (noteAll diagnostics notes)[name]? =
      if messagesOn notes name = [] then diagnostics[name]?
      else some (diagnostics.getD name [] ++ messagesOn notes name) := by
  unfold noteAll
  induction notes generalizing diagnostics with
  | nil => simp [messagesOn]
  | cons note notes ih =>
      rw [List.foldl_cons, ih, messagesOn_cons]
      simp only [ExtTreeMap.getD_eq_getD_getElem?, ExtTreeMap.getElem?_alter,
        Std.LawfulEqCmp.compare_eq_iff_eq]
      by_cases same : note.1 = name
      · subst same
        by_cases last : messagesOn notes note.1 = [] <;> simp [last]
      · simp only [if_neg same]

theorem noteAll_congr {notes more : List Note}
    (same : ∀ name, messagesOn notes name = messagesOn more name)
    (diagnostics : ExtTreeMap String (List String)) :
    noteAll diagnostics notes = noteAll diagnostics more := by
  apply ExtTreeMap.ext_getElem?
  intro name
  rw [getElem?_noteAll, getElem?_noteAll, same]

namespace Store

def recordAll (store : Store) (notes : List Note) : Store :=
  { store with diagnostics := noteAll store.diagnostics notes }

theorem recordAll_recordAll (store : Store) (notes more : List Note) :
    (store.recordAll notes).recordAll more = store.recordAll (notes ++ more) := by
  simp only [recordAll, noteAll_append]

theorem foldl_record (store : Store) (notes : List Note) :
    notes.foldl (fun store note => store.record note.1 note.2) store = store.recordAll notes := by
  induction notes generalizing store with
  | nil => rfl
  | cons note notes ih =>
      rw [List.foldl_cons, ih]
      exact recordAll_recordAll store [note] notes

def setLoopback (store : Store) (kind : AddressKind) (index : Index) : Store :=
  match kind with
  | .ip => { store with loopbackIP := index }
  | .mac => { store with loopbackMAC := index }

theorem claimLoopback_eq (store : Store) (kind : AddressKind) (address owner : String) :
    store.claimLoopback kind address owner =
      store.setLoopback kind ((store.loopback kind).claim address owner) := by cases kind <;> rfl

@[simp] theorem setLoopback_loopback (store : Store) (kind : AddressKind) :
    store.setLoopback kind (store.loopback kind) = store := by cases kind <;> rfl

@[simp] theorem setLoopback_setLoopback (store : Store) (kind : AddressKind) (index next : Index) :
    (store.setLoopback kind index).setLoopback kind next = store.setLoopback kind next := by
  cases kind <;> rfl

@[simp] theorem loopback_setLoopback (store : Store) (kind : AddressKind) (index : Index) :
    (store.setLoopback kind index).loopback kind = index := by cases kind <;> rfl

@[simp] theorem loopback_recordAll (store : Store) (notes : List Note) (kind : AddressKind) :
    (store.recordAll notes).loopback kind = store.loopback kind := by cases kind <;> rfl

theorem setLoopback_recordAll (store : Store) (notes : List Note) (kind : AddressKind)
    (index : Index) :
    (store.recordAll notes).setLoopback kind index =
      (store.setLoopback kind index).recordAll notes := by cases kind <;> rfl

end Store

namespace Validation

/-- The notes about an address that another node may hold: one on either of them if it does. -/
def collision (kind : AddressKind) (name address : String) : Option String → List Note
  | some owner =>
    [(name, duplicateMessage kind address owner), (owner, duplicateMessage kind address name)]
  | none => []

def collisions (kind : AddressKind) (name : String) (index : Index) (address : String) : List Note :=
  collision kind name address (index.rival? address name)

theorem claim_eq (kind : AddressKind) (name : String) (store : Store) (address : String) :
    claim kind name store address =
      (store.setLoopback kind ((store.loopback kind).claim address name)).recordAll
        (collisions kind name (store.loopback kind) address) := by
  unfold claim collisions Store.loopbackRival?
  cases hr : (store.loopback kind).rival? address name with
  | none => exact store.claimLoopback_eq kind address name
  | some owner =>
      rw [Index.claim_of_rival hr, Store.setLoopback_loopback]
      rfl

/-- The claims of one node are decided by what the others held before the first of them. -/
theorem foldl_claim (kind : AddressKind) (name : String) (store : Store) (addresses : List String) :
    addresses.foldl (claim kind name) store =
      (store.setLoopback kind ((store.loopback kind).claimEach addresses name)).recordAll
        (addresses.flatMap (collisions kind name (store.loopback kind))) := by
  -- The later claims see an index in which only the node's own claims have been added.
  induction addresses generalizing store with
  | nil => exact (store.setLoopback_loopback kind).symm
  | cons address addresses ih =>
      have same : collisions kind name ((store.loopback kind).claim address name) =
          collisions kind name (store.loopback kind) := by
        funext other
        simp only [collisions, Index.rival?_claim]
      rw [List.foldl_cons, ih, claim_eq, Store.setLoopback_recordAll, Store.recordAll_recordAll]
      simp only [Store.loopback_recordAll, Store.loopback_setLoopback,
        Store.setLoopback_setLoopback, same]
      rfl

theorem claimAll_eq (name : String) (store : Store) (interface : Interface) :
    claimAll name store interface =
      ((store.setLoopback .ip (store.loopbackIP.claimEach interface.ipAddresses name)).setLoopback
        .mac (store.loopbackMAC.claimEach (macAddresses interface) name)).recordAll
          (interface.ipAddresses.flatMap (collisions .ip name store.loopbackIP) ++
            (macAddresses interface).flatMap (collisions .mac name store.loopbackMAC)) := by
  rw [claimAll, foldl_claim, foldl_claim, Store.setLoopback_recordAll, Store.recordAll_recordAll]
  rfl

end Validation

end FabricSurvey
