import FabricSurvey.Node.Identity
import FabricSurvey.Proofs.Address

/-!
# Lines of identities

The lines that are read as an identity, and how a line is divided. Colons divide a line, but they also
stand in addresses and in front of ports: behind a bracket a leading number is the port, elsewhere it is part of
the data address. A line written from an identity is therefore read back, unless the management address is
a bracketed address without a port and the data address starts with what could be one.
-/

namespace FabricSurvey.Identity

open Text

/-- What may stand behind a management address: nothing, or the data address after a colon. -/
inductive Follows : List Char → List Char → Prop
  | none : Follows [] []
  | some (data : List Char) : Follows (':' :: data) data

/-- How the text after a closing bracket divides: a number behind the first colon is the port. -/
inductive AfterBracket : List Char → List Char → List Char → Prop
  | noPort {after data : List Char} (follows : Follows after data)
      (noNumber : isPort (firstPart data) = false) : AfterBracket after [] data
  | port {port tail data : List Char} (number : isPort port = true) (follows : Follows tail data) :
      AfterBracket (':' :: (port ++ tail)) (':' :: port) data

/-- How the text after the name divides into management address and data address. -/
inductive Divided : List Char → List Char → List Char → Prop
  | bare {host tail data : List Char} (plain : (host ++ tail).head? ≠ some '[') (noColon : ':' ∉ host)
      (follows : Follows tail data)
      (address : isPort (firstPart data) = true → (IPAddress.parse? data).isSome) :
      Divided (host ++ tail) host data
  | bracketed {inner after suffix data : List Char} (ip : (IPAddress.parse? inner).isSome)
      (behind : AfterBracket after suffix data) :
      Divided ('[' :: (inner ++ ']' :: after)) ('[' :: (inner ++ ']' :: suffix)) data

theorem splitFirst?_append {separator : Char} {first : List Char} (h : separator ∉ first)
    (rest : List Char) : splitFirst? separator (first ++ separator :: rest) = some (first, rest) :=
  splitFirst?_eq_some_iff.2 ⟨rfl, h⟩

theorem exists_follows (text : List Char) :
    ∃ host tail data, text = host ++ tail ∧ ':' ∉ host ∧ Follows tail data := by
  cases found : splitFirst? ':' text with
  | none =>
      exact ⟨text, [], [], (List.append_nil text).symm, splitFirst?_eq_none_iff.1 found, .none⟩
  | some parts =>
      obtain ⟨same, noColon⟩ := splitFirst?_eq_some_iff.1 found
      exact ⟨parts.1, ':' :: parts.2, parts.2, same, noColon, .some parts.2⟩

theorem Follows.split {host tail data : List Char} (noColon : ':' ∉ host) (h : Follows tail data) :
    (splitFirst? ':' (host ++ tail)).getD (host ++ tail, []) = (host, data) := by
  cases h with
  | none => rw [List.append_nil, splitFirst?_eq_none_iff.2 noColon, Option.getD_none]
  | some => rw [splitFirst?_append noColon, Option.getD_some]

theorem Follows.firstPart {first tail data : List Char} (noColon : ':' ∉ first)
    (h : Follows tail data) : firstPart (first ++ tail) = first := by
  cases h with
  | none => rw [List.append_nil, Identity.firstPart, splitFirst?_eq_none_iff.2 noColon]
  | some => rw [Identity.firstPart, splitFirst?_append noColon]

theorem Follows.eq_or {tail data : List Char} (h : Follows tail data) :
    tail = ':' :: data ∨ tail = [] ∧ data = [] := by
  cases h with
  | none => exact .inr ⟨rfl, rfl⟩
  | some => exact .inl rfl

theorem colon_not_mem_of_number? {limit n : Nat} {text : List Char} (h : number? limit text = some n) :
    ':' ∉ text := not_mem_of_number? h (by decide) (by decide)

theorem colon_not_mem_of_isPort {port : List Char} (h : isPort port = true) : ':' ∉ port := by
  obtain ⟨n, number⟩ := Option.isSome_iff_exists.1 h
  exact colon_not_mem_of_number? number

theorem bracket_not_mem_of_parse? {inner : List Char} (h : (IPAddress.parse? inner).isSome) :
    ']' ∉ inner := by
  obtain ⟨ip, address⟩ := Option.isSome_iff_exists.1 h
  exact fun bracket => absurd (IPAddress.isLiteral_of_parse? address ']' bracket) (by decide)

theorem divideAfterBracket_follows {first tail data : List Char} (noColon : ':' ∉ first)
    (h : Follows tail data) :
    divideAfterBracket (':' :: (first ++ tail)) =
      some (if isPort first then (':' :: first, data) else ([], first ++ tail)) := by
  cases h with
  | none =>
      rw [List.append_nil, divideAfterBracket, splitFirst?_eq_none_iff.2 noColon]
      exact (apply_ite some ..).symm
  | some =>
      rw [divideAfterBracket, splitFirst?_append noColon]
      exact (apply_ite some ..).symm

theorem divideAfterBracket_eq_some_iff {after suffix data : List Char} :
    divideAfterBracket after = some (suffix, data) ↔ AfterBracket after suffix data := by
  constructor
  · intro h
    by_cases colon : after.head? = some ':'
    · obtain ⟨text, rfl⟩ := List.head?_eq_some_iff.1 colon
      obtain ⟨first, tail, data', rfl, noColon, follows⟩ := exists_follows text
      rw [divideAfterBracket_follows noColon follows] at h
      split at h
      · rename_i number
        cases h
        exact .port number follows
      · rename_i noNumber
        cases h
        refine .noPort (.some _) ?_
        rw [follows.firstPart noColon]
        exact Bool.eq_false_iff.2 noNumber
    · -- without a colon only the empty text divides
      unfold divideAfterBracket at h
      split at h
      · cases h
        exact .noPort .none rfl
      · exact absurd rfl colon
      · cases h
  · rintro (⟨follows, noNumber⟩ | ⟨number, follows⟩)
    · cases follows with
      | none => rfl
      | some =>
          obtain ⟨first, tail, _, rfl, noColon, follows⟩ := exists_follows data
          rw [follows.firstPart noColon] at noNumber
          rw [divideAfterBracket_follows noColon follows, if_neg (Bool.eq_false_iff.1 noNumber)]
    · rw [divideAfterBracket_follows (colon_not_mem_of_isPort number) follows, if_pos number]

theorem divideAddresses_bracket (inner after : List Char) (ip : (IPAddress.parse? inner).isSome) :
    divideAddresses ('[' :: (inner ++ ']' :: after)) =
      (divideAfterBracket after).map fun parts => ('[' :: (inner ++ ']' :: parts.1), parts.2) := by
  have noAddress : ¬ (IPAddress.parse? inner).isNone := by
    rw [Option.isNone_iff_eq_none]
    exact Option.isSome_iff_ne_none.1 ip
  have split := splitFirst?_append (bracket_not_mem_of_parse? ip) after
  simp only [divideAddresses, split, bind, Option.bind_some, if_neg noAddress]
  cases divideAfterBracket after <;> rfl

theorem divideAddresses_bare {text : List Char} (plain : text.head? ≠ some '[') :
    divideAddresses text =
      if isPort (firstPart ((splitFirst? ':' text).getD (text, [])).2) ∧
          (IPAddress.parse? ((splitFirst? ':' text).getD (text, [])).2).isNone then none
      else some ((splitFirst? ':' text).getD (text, [])) := by
  rw [divideAddresses]
  rintro inner rfl
  exact plain rfl

theorem divided_of_bracket {inner management data : List Char}
    (h : divideAddresses ('[' :: inner) = some (management, data)) :
    Divided ('[' :: inner) management data := by
  simp only [divideAddresses, bind, Option.bind_eq_some_iff] at h
  obtain ⟨⟨host, after⟩, found, h⟩ := h
  obtain ⟨rfl, -⟩ := splitFirst?_eq_some_iff.1 found
  split at h
  · cases h
  · rename_i address
    obtain ⟨⟨suffix, data⟩, behind, same⟩ := Option.bind_eq_some_iff.1 h
    cases same
    refine .bracketed ?_ (divideAfterBracket_eq_some_iff.1 behind)
    rw [Option.isSome_iff_ne_none, ne_eq, ← Option.isNone_iff_eq_none]
    exact address

theorem divideAddresses_eq_some_iff {text management data : List Char} :
    divideAddresses text = some (management, data) ↔ Divided text management data := by
  constructor
  · intro h
    by_cases plain : text.head? = some '['
    · obtain ⟨inner, rfl⟩ := List.head?_eq_some_iff.1 plain
      exact divided_of_bracket h
    · obtain ⟨host, tail, data', rfl, noColon, follows⟩ := exists_follows text
      rw [divideAddresses_bare plain, follows.split noColon] at h
      split at h
      · cases h
      · rename_i refused
        cases h
        refine .bare plain noColon follows fun number => ?_
        rw [Option.isSome_iff_ne_none, ne_eq, ← Option.isNone_iff_eq_none]
        exact fun noAddress => refused ⟨number, noAddress⟩
  · rintro (⟨plain, noColon, follows, address⟩ | ⟨ip, behind⟩)
    · rw [divideAddresses_bare plain, follows.split noColon, if_neg]
      rintro ⟨number, noAddress⟩
      rw [Option.isNone_iff_eq_none] at noAddress
      have := address number
      rw [noAddress] at this
      cases this
    · rw [divideAddresses_bracket _ _ ip, divideAfterBracket_eq_some_iff.2 behind]
      rfl

theorem Divided.exists_tail {text management data : List Char} (h : Divided text management data) :
    ∃ tail, text = management ++ tail ∧ Follows tail data := by
  cases h with
  | bare plain noColon follows address => exact ⟨_, rfl, follows⟩
  | bracketed ip behind =>
      cases behind with
      | noPort follows noNumber => exact ⟨_, by simp, follows⟩
      | port number follows => exact ⟨_, by simp, follows⟩

theorem Divided.management_eq_nil_iff {text management data : List Char}
    (h : Divided text management data) (ne_nil : text ≠ []) :
    management = [] ↔ text = ':' :: data := by
  constructor
  · intro blank
    obtain ⟨tail, same, follows⟩ := h.exists_tail
    rw [blank, List.nil_append] at same
    rcases follows.eq_or with colon | ⟨none, -⟩
    · exact same.trans colon
    · exact absurd (same.trans none) ne_nil
  · intro same
    cases h with
    | bare plain noColon follows address =>
        cases management with
        | nil => rfl
        | cons c host =>
            obtain ⟨rfl, -⟩ := List.cons.inj same
            exact absurd List.mem_cons_self noColon
    | bracketed ip behind => exact absurd (List.cons.inj same).1 (by decide)

/-- A line with some digits for the identifier and some text after the name, read as an identity. -/
structure IsLine (digits rest : List Char) (identity : Identity) : Prop where
  number : number? max32 digits = some identity.id.toNat
  named : identity.name.toList ≠ []
  noColon : ':' ∉ identity.name.toList
  ne_nil : rest ≠ []
  divided : Divided rest identity.managementAddress.toList identity.ipAddress.toList

theorem parse?_eq_some_iff {text : String} {identity : Identity} :
    parse? text = some identity ↔ ∃ digits rest,
      text.toList = digits ++ ':' :: (identity.name.toList ++ ':' :: rest) ∧
        IsLine digits rest identity := by
  constructor
  · intro h
    simp only [parse?, parseChars?, bind, Option.bind_eq_some_iff] at h
    obtain ⟨⟨digits, afterId⟩, splitId, ⟨name, rest⟩, splitName, n, number, h⟩ := h
    obtain ⟨whole, -⟩ := splitFirst?_eq_some_iff.1 splitId
    obtain ⟨rfl, noColon⟩ := splitFirst?_eq_some_iff.1 splitName
    split at h
    · cases h
    · rename_i nonempty
      rw [not_or] at nonempty
      obtain ⟨⟨management, data⟩, divided, same⟩ := Option.bind_eq_some_iff.1 h
      cases same
      have small : n < UInt32.size := Nat.lt_succ_of_le (number?_le number)
      refine ⟨digits, rest, ?_, ⟨?_, ?_, ?_, nonempty.2, ?_⟩⟩
      · rw [whole, String.toList_ofList]
      · rw [number, UInt32.toNat_ofNat_of_lt' small]
      · rw [String.toList_ofList]
        exact nonempty.1
      · rwa [String.toList_ofList]
      · rw [String.toList_ofList, String.toList_ofList]
        exact divideAddresses_eq_some_iff.1 divided
  · rintro ⟨digits, rest, whole, line⟩
    have splitId := splitFirst?_append (colon_not_mem_of_number? line.number)
      (identity.name.toList ++ ':' :: rest)
    have splitName := splitFirst?_append line.noColon rest
    have divided := divideAddresses_eq_some_iff.2 line.divided
    have nonempty : ¬ (identity.name.toList = [] ∨ rest = []) := by
      rw [not_or]
      exact ⟨line.named, line.ne_nil⟩
    rw [parse?, whole]
    simp only [parseChars?, splitId, splitName, line.number, if_neg nonempty, divided, bind,
      Option.bind_some, String.ofList_toList, UInt32.ofNat_toNat]
    rfl

theorem IsLine.managementAddress_eq_empty_iff {digits rest : List Char} {identity : Identity}
    (line : IsLine digits rest identity) :
    identity.managementAddress = "" ↔ rest = ':' :: identity.ipAddress.toList := by
  rw [← String.toList_eq_nil_iff]
  exact line.divided.management_eq_nil_iff line.ne_nil

theorem IsLine.rest_unique {digits rest other : List Char} {identity : Identity}
    (line : IsLine digits rest identity) {n : Nat} {otherDigits : List Char}
    (number : number? max32 otherDigits = some n)
    (same : digits ++ ':' :: (identity.name.toList ++ ':' :: rest) =
      otherDigits ++ ':' :: (identity.name.toList ++ ':' :: other)) : rest = other := by
  have here := splitFirst?_append (colon_not_mem_of_number? line.number)
    (identity.name.toList ++ ':' :: rest)
  rw [same, splitFirst?_append (colon_not_mem_of_number? number)] at here
  obtain ⟨-, tails⟩ := Prod.mk.inj (Option.some.inj here)
  exact (List.cons.inj (List.append_cancel_left tails)).2.symm

def line (identity : Identity) : String :=
  String.ofList (decimal identity.id.toNat ++ ':' :: (identity.name.toList ++ ':' ::
    (identity.managementAddress.toList ++
      if identity.ipAddress = "" then [] else ':' :: identity.ipAddress.toList)))

/-- Hosts without a colon, and IP addresses in brackets, with or without a port behind them. -/
inductive IsManagement : List Char → Prop
  | host {host : List Char} (ne_nil : host ≠ []) (plain : host.head? ≠ some '[')
      (noColon : ':' ∉ host) : IsManagement host
  | literal {inner : List Char} (ip : (IPAddress.parse? inner).isSome) :
      IsManagement ('[' :: (inner ++ [']']))
  | withPort {inner port : List Char} (ip : (IPAddress.parse? inner).isSome)
      (number : isPort port = true) : IsManagement ('[' :: (inner ++ ']' :: ':' :: port))

/-- What can be written in a line at all. -/
structure Writable (identity : Identity) : Prop where
  named : identity.name.toList ≠ []
  noColon : ':' ∉ identity.name.toList
  management : IsManagement identity.managementAddress.toList
  address : identity.ipAddress = "" ∨ (IPAddress.parse? identity.ipAddress.toList).isSome

/-- A bracketed address without a port, and a data address that starts with a number of 16 bits. -/
def LooksLikePort (identity : Identity) : Prop :=
  (∃ inner, identity.managementAddress.toList = '[' :: (inner ++ [']'])) ∧
    isPort (firstPart identity.ipAddress.toList) = true

theorem follows_of_address (address : String) :
    Follows (if address = "" then [] else ':' :: address.toList) address.toList := by
  split
  · rename_i empty
    rw [empty]
    exact .none
  · exact .some _

theorem divided_append {management tail data : List Char} (managed : IsManagement management)
    (follows : Follows tail data) (address : data = [] ∨ (IPAddress.parse? data).isSome)
    (clear : (∃ inner, management = '[' :: (inner ++ [']'])) → isPort (firstPart data) = false) :
    Divided (management ++ tail) management data := by
  cases managed with
  | host ne_nil plain noColon =>
      refine .bare ?_ noColon follows fun number => ?_
      · obtain ⟨c, host, rfl⟩ := List.exists_cons_of_ne_nil ne_nil
        exact plain
      · rcases address with rfl | address
        · cases number
        · exact address
  | literal ip =>
      have behind := AfterBracket.noPort follows (clear ⟨_, rfl⟩)
      have divided := Divided.bracketed ip behind
      rwa [List.append_cons, ← List.cons_append] at divided
  | withPort ip number =>
      have divided := Divided.bracketed ip (.port number follows)
      simpa only [List.cons_append, List.append_assoc] using divided

theorem IsManagement.ne_nil {management : List Char} (h : IsManagement management) :
    management ≠ [] := by
  cases h with
  | host ne_nil => exact ne_nil
  | literal | withPort => exact List.cons_ne_nil _ _

/-- A line is read as the identity that it was written from. -/
theorem parse?_line (identity : Identity) (writable : identity.Writable)
    (clear : ¬ identity.LooksLikePort) : parse? identity.line = some identity := by
  have address : identity.ipAddress.toList = [] ∨
      (IPAddress.parse? identity.ipAddress.toList).isSome := by
    rcases writable.address with empty | address
    · exact .inl (by rw [empty, String.toList_empty])
    · exact .inr address
  have divided := divided_append writable.management (follows_of_address identity.ipAddress) address
    fun literal => Bool.eq_false_iff.2 fun number => clear ⟨literal, number⟩
  refine parse?_eq_some_iff.2 ⟨decimal identity.id.toNat, _, String.toList_ofList, ?_⟩
  exact
    { number := number?_decimal (Nat.le_of_lt_succ identity.id.toNat_lt)
      named := writable.named
      noColon := writable.noColon
      ne_nil := List.append_ne_nil_of_left_ne_nil writable.management.ne_nil _
      divided := divided }

theorem isManagement_bracketed : IsManagement "[fd00::2]".toList := by
  have spelled : "[fd00::2]".toList = '[' :: ("fd00::2".toList ++ [']']) := by decide
  rw [spelled]
  exact .literal (by decide +kernel)

theorem parse?_line_bracketed :
    parse? "3:w:[fd00::2]:fd01::2" = some ⟨3, "w", "fd01::2", "[fd00::2]"⟩ := by
  exact parse?_line ⟨3, "w", "fd01::2", "[fd00::2]"⟩
    ⟨by decide, by decide, isManagement_bracketed, .inr (by decide +kernel)⟩
    (fun port => absurd port.2 (by decide +kernel))

/-- Not every identity survives being written: a data address that starts with decimal digits gives them
to the bracketed address in front of it. -/
theorem not_every_line_read_back :
    ¬ ∀ identity : Identity, identity.Writable → parse? identity.line = some identity := by
  intro claim
  have readBack := claim ⟨1, "a", "2001:db8::1", "[fd00::2]"⟩
    ⟨by decide, by decide, isManagement_bracketed, .inr (by decide +kernel)⟩
  have taken : parse? "1:a:[fd00::2]:2001:db8::1" = some ⟨1, "a", "db8::1", "[fd00::2]:2001"⟩ := by
    decide +kernel
  exact absurd (taken.symm.trans readBack) (by decide)

end FabricSurvey.Identity
