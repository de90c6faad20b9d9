import FabricSurvey.Proofs.Claim
import Mathlib.Data.List.Induction

/-!
# First owners of loopback addresses

Populating goes through the given names and lets each node claim the addresses of its loopback. What
it leaves behind is a function of the nodes and the names alone: the holder of an address is the first
of the names whose loopback has it, and the notes about a name depend on the names before it only.
Whatever the indices held before is gone.
-/

namespace FabricSurvey

open Std (ExtTreeMap)

namespace Validation

section Owners

variable (settings : ValidationSettings) (nodes : ExtTreeMap String Node)

def loopbackOf? (name : String) : Option Interface := nodes[name]?.bind (loopback? settings)

def has (kind : AddressKind) (address : String) (interface : Interface) : Bool :=
  match kind with
  | .ip => interface.ipAddresses.contains address
  | .mac => !address.isEmpty && interface.macAddress == address

def advertises (kind : AddressKind) (address name : String) : Bool :=
  (loopbackOf? settings nodes name).any (has kind address)

/-- The first of some names whose node has an address on its loopback. -/
def owner? (names : List String) (kind : AddressKind) (address : String) : Option String :=
  names.find? (advertises settings nodes kind address)

def lacksLoopback (name : String) : Bool :=
  nodes[name]?.any fun node => (loopback? settings node).isNone

def sharing (before : List String) (name : String) (kind : AddressKind) (address : String) :
    List Note :=
  collision kind name address ((owner? settings nodes before kind address).filter (· != name))

def entryNotes (before : List String) (name : String) : List Note :=
  match loopbackOf? settings nodes name with
  | some interface =>
    interface.ipAddresses.flatMap (sharing settings nodes before name .ip) ++
      (macAddresses interface).flatMap (sharing settings nodes before name .mac)
  | none => if lacksLoopback settings nodes name then [(name, missingMessage settings)] else []

/-- The notes that populating makes from some names, after those before them. -/
def notesAfter (before : List String) : List String → List Note
  | [] => []
  | name :: names =>
    entryNotes settings nodes before name ++ notesAfter (before ++ [name]) names

end Owners

variable {settings : ValidationSettings} {nodes : ExtTreeMap String Node}

theorem notesAfter_concat (before names : List String) (name : String) :
    notesAfter settings nodes before (names ++ [name]) =
      notesAfter settings nodes before names ++
        entryNotes settings nodes (before ++ names) name := by
  induction names generalizing before with
  | nil => simp [notesAfter]
  | cons first names ih =>
      rw [List.cons_append, notesAfter, notesAfter, ih]
      simp only [List.append_assoc, List.singleton_append]

theorem owner?_concat (names : List String) (name : String) (kind : AddressKind)
    (address : String) :
    owner? settings nodes (names ++ [name]) kind address =
      (owner? settings nodes names kind address).or
        (if advertises settings nodes kind address name then some name else none) := by
  rw [owner?, owner?, List.find?_append]
  cases ha : advertises settings nodes kind address name <;> simp [ha]

theorem owner?_eq_some {names : List String} {kind : AddressKind} {address owner : String}
    (h : owner? settings nodes names kind address = some owner) :
    owner ∈ names ∧ advertises settings nodes kind address owner :=
  ⟨List.mem_of_find?_eq_some h, List.find?_some h⟩

theorem advertises_iff {kind : AddressKind} {address name : String} :
    advertises settings nodes kind address name ↔
      ∃ interface, loopbackOf? settings nodes name = some interface ∧ has kind address interface :=
  Option.any_eq_true ..

/-- No two of the names have an address in common. -/
def Unshared (settings : ValidationSettings) (nodes : ExtTreeMap String Node)
    (names : List String) : Prop :=
  ∀ kind address, ∀ first ∈ names, ∀ second ∈ names,
    advertises settings nodes kind address first →
    advertises settings nodes kind address second → first = second

theorem Unshared.owner?_eq_some_iff {names : List String} (unshared : Unshared settings nodes names)
    {kind : AddressKind} {address owner : String} :
    owner? settings nodes names kind address = some owner ↔
      owner ∈ names ∧ advertises settings nodes kind address owner := by
  constructor
  · exact owner?_eq_some
  · rintro ⟨hm, ha⟩
    cases h : owner? settings nodes names kind address with
    | none => exact absurd ha (List.find?_eq_none.1 h owner hm)
    | some first =>
        obtain ⟨hf, hfirst⟩ := owner?_eq_some h
        rw [unshared kind address first hf owner hm hfirst ha]

theorem exists_node_of_advertises {kind : AddressKind} {address name : String}
    (h : advertises settings nodes kind address name) : ∃ node, nodes[name]? = some node := by
  obtain ⟨interface, hl, -⟩ := advertises_iff.1 h
  obtain ⟨node, hn, -⟩ := Option.bind_eq_some_iff.1 hl
  exact ⟨node, hn⟩

theorem mem_ipAddresses_iff {interface : Interface} {address : String} :
    address ∈ interface.ipAddresses ↔ has .ip address interface := by
  simp [has]

theorem mem_macAddresses_iff {interface : Interface} {address : String} :
    address ∈ macAddresses interface ↔ has .mac address interface := by
  unfold macAddresses has
  cases he : interface.macAddress.isEmpty with
  | true =>
      constructor
      · intro h
        simp at h
      · intro h
        simp only [Bool.and_eq_true, beq_iff_eq] at h
        rw [h.2] at he
        simp [he] at h
  | false =>
      have nonempty : address = interface.macAddress → address.isEmpty = false := fun h => h ▸ he
      simp only [Bool.false_eq_true, if_false, List.mem_singleton, Bool.and_eq_true, beq_iff_eq,
        Bool.not_eq_true']
      exact ⟨fun h => ⟨nonempty h, h.symm⟩, fun h => h.2.symm⟩

/-- Only the addresses that are on some loopback have to be compared. -/
theorem unshared_iff {names : List String} :
    Unshared settings nodes names ↔
      ∀ first ∈ names, ∀ second ∈ names, ∀ interface ∈ loopbackOf? settings nodes first,
        (∀ address ∈ interface.ipAddresses,
          advertises settings nodes .ip address second → first = second) ∧
        ∀ address ∈ macAddresses interface,
          advertises settings nodes .mac address second → first = second := by
  constructor
  · intro unshared first hf second hs interface hi
    constructor
    · intro address ha
      have h := advertises_iff.2 ⟨interface, hi, mem_ipAddresses_iff.1 ha⟩
      exact unshared .ip address first hf second hs h
    · intro address ha
      have h := advertises_iff.2 ⟨interface, hi, mem_macAddresses_iff.1 ha⟩
      exact unshared .mac address first hf second hs h
  · intro disjoint kind address first hf second hs ha
    obtain ⟨interface, hi, h⟩ := advertises_iff.1 ha
    obtain ⟨ip, mac⟩ := disjoint first hf second hs interface hi
    cases kind with
    | ip => exact ip address (mem_ipAddresses_iff.2 h)
    | mac => exact mac address (mem_macAddresses_iff.2 h)

instance (names : List String) : Decidable (Unshared settings nodes names) :=
  decidable_of_iff _ unshared_iff.symm

/-- What populating has come to after some names. -/
structure Entered (settings : ValidationSettings) (start : Store) (names : List String)
    (state : Store × List String) : Prop where
  nodes : state.1.nodes = start.nodes
  management : state.1.management = start.management
  loopback : ∀ kind address,
    (state.1.loopback kind)[address]? = owner? settings start.nodes names kind address
  diagnostics : state.1.diagnostics =
    noteAll start.diagnostics (notesAfter settings start.nodes [] names)
  missing : state.2 = names.filter (lacksLoopback settings start.nodes)

variable {start : Store} {names : List String} {state : Store × List String}

theorem entered_clear (settings : ValidationSettings) (start : Store) :
    Entered settings start [] (start.clearLoopbacks, []) where
  nodes := rfl
  management := rfl
  loopback kind address := by simp [owner?]
  diagnostics := rfl
  missing := rfl

/-- The claims of a name run into the first owners among the names before it. -/
theorem Entered.collisions_eq (h : Entered settings start names state) (kind : AddressKind)
    (name : String) :
    collisions kind name (state.1.loopback kind) = sharing settings start.nodes names name kind := by
  funext address
  simp only [collisions, sharing, Index.rival?, h.loopback]

theorem enter_of_loopback {name : String} {interface : Interface}
    (h : loopbackOf? settings state.1.nodes name = some interface) :
    enter settings state name = (claimAll name state.1 interface, state.2) := by
  obtain ⟨node, hn, hl⟩ := Option.bind_eq_some_iff.1 h
  simp only [enter, Store.get?, hn, hl]

theorem enter_of_no_loopback {name : String}
    (h : loopbackOf? settings state.1.nodes name = none) :
    enter settings state name =
      if lacksLoopback settings state.1.nodes name then
        (state.1.recordAll [(name, missingMessage settings)], state.2 ++ [name])
      else state := by
  unfold enter lacksLoopback Store.get?
  unfold loopbackOf? at h
  cases hn : state.1.nodes[name]? with
  | none => rfl
  | some node =>
      rw [hn, Option.bind_some] at h
      simp only [h]
      exact (if_pos (by simp [h])).symm

theorem lacksLoopback_of_loopback {name : String} {interface : Interface}
    (h : loopbackOf? settings nodes name = some interface) :
    lacksLoopback settings nodes name = false := by
  obtain ⟨node, hn, hl⟩ := Option.bind_eq_some_iff.1 h
  simp [lacksLoopback, hn, hl]

namespace Entered

theorem noteAll_concat (h : Entered settings start names state) (name : String) :
    noteAll start.diagnostics (notesAfter settings start.nodes [] (names ++ [name])) =
      noteAll state.1.diagnostics (entryNotes settings start.nodes names name) := by
  rw [notesAfter_concat, List.nil_append, noteAll_append, ← h.diagnostics]

theorem filter_concat (h : Entered settings start names state) (name : String) :
    (names ++ [name]).filter (lacksLoopback settings start.nodes) =
      state.2 ++ [name].filter (lacksLoopback settings start.nodes) := by
  rw [List.filter_append, ← h.missing]

theorem claim (h : Entered settings start names state) {name : String} {interface : Interface}
    (hl : loopbackOf? settings start.nodes name = some interface) :
    Entered settings start (names ++ [name]) (claimAll name state.1 interface, state.2) := by
  have advertised (kind : AddressKind) (address : String) :
      advertises settings start.nodes kind address name = has kind address interface := by
    rw [advertises, hl, Option.any_some]
  have ip := h.collisions_eq .ip name
  have mac := h.collisions_eq .mac name
  simp only [Store.loopback] at ip mac
  rw [claimAll_eq, ip, mac]
  refine ⟨h.nodes, h.management, fun kind address => ?_, ?_, ?_⟩
  · rw [owner?_concat, advertised, ← h.loopback, Store.loopback_recordAll]
    cases kind with
    | ip =>
        rw [if_congr mem_ipAddresses_iff.symm rfl rfl]
        exact Index.getElem?_claimEach state.1.loopbackIP interface.ipAddresses name address
    | mac =>
        rw [if_congr mem_macAddresses_iff.symm rfl rfl]
        exact Index.getElem?_claimEach state.1.loopbackMAC (macAddresses interface) name address
  · rw [h.noteAll_concat, entryNotes, hl]
    rfl
  · rw [h.filter_concat]
    simp [lacksLoopback_of_loopback hl]

/-- A name without a loopback claims nothing, and is noted if there is a node of this name. -/
theorem skip (h : Entered settings start names state) {name : String}
    (hl : loopbackOf? settings start.nodes name = none) :
    Entered settings start (names ++ [name])
      (if lacksLoopback settings start.nodes name then
        (state.1.recordAll [(name, missingMessage settings)], state.2 ++ [name])
      else state) := by
  have owners (kind : AddressKind) (address : String) :
      owner? settings start.nodes (names ++ [name]) kind address =
        owner? settings start.nodes names kind address := by
    simp [owner?_concat, advertises, hl]
  have notes := h.noteAll_concat name
  have missing := h.filter_concat name
  rw [entryNotes, hl] at notes
  cases hk : lacksLoopback settings start.nodes name with
  | false =>
      simp only [hk, Bool.false_eq_true, if_false] at notes ⊢
      refine ⟨h.nodes, h.management, fun kind address => ?_, notes.symm, ?_⟩
      · rw [owners, h.loopback]
      · rw [missing]
        simp [hk]
  | true =>
      simp only [hk, if_true] at notes ⊢
      refine ⟨h.nodes, h.management, fun kind address => ?_, notes.symm, ?_⟩
      · rw [owners, Store.loopback_recordAll, h.loopback]
      · rw [missing]
        simp [hk]

theorem enter (h : Entered settings start names state) (name : String) :
    Entered settings start (names ++ [name]) (enter settings state name) := by
  cases hl : loopbackOf? settings start.nodes name with
  | none =>
      rw [enter_of_no_loopback (h.nodes ▸ hl), h.nodes]
      exact h.skip hl
  | some interface =>
      rw [enter_of_loopback (h.nodes ▸ hl)]
      exact h.claim hl

end Entered

theorem entered_populate (settings : ValidationSettings) (start : Store) (names : List String) :
    Entered settings start names (populate settings start names) := by
  induction names using List.reverseRecOn with
  | nil => exact entered_clear settings start
  | append_singleton names name ih =>
      rw [populate, List.foldl_append]
      exact ih.enter name

end Validation

end FabricSurvey
