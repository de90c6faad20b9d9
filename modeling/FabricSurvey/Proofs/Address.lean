import FabricSurvey.Address.Socket
import FabricSurvey.Proofs.Natural

/-!
# Reading addresses

An address is read up to the first character that cannot go on with it, and what comes after that
character is not looked at. An IPv4 address has one spelling, its canonical text; an IPv6 address has
many, each of them with a colon.
-/

namespace FabricSurvey

open Text

def IsLiteral (c : Char) : Prop := (digit? 16 c).isSome ∨ c = ':' ∨ c = '.'

instance : DecidablePred IsLiteral := fun _ => inferInstanceAs (Decidable (_ ∨ _ ∨ _))

/-- Nothing comes next that could go on with an address. -/
def Stops (tail : List Char) : Prop := ∀ c ∈ tail.head?, ¬ IsLiteral c

theorem Stops.noDigit {tail : List Char} (h : Stops tail) {base : Nat} (small : base ≤ 16) :
    NoDigit base tail := by
  intro c hc
  rw [← Option.not_isSome_iff_eq_none]
  exact fun digit => h c hc (.inl (isSome_digit?_of_le small digit))

def behind {α : Type} (tail : List Char) (r : α × List Char) : α × List Char := (r.1, r.2 ++ tail)

theorem bind_behind {α β : Type} {tail : List Char} {whole part : Option (α × List Char)}
    {next : α × List Char → Option (β × List Char)} (first : whole = part.map (behind tail))
    (step : ∀ a rest, next (a, rest ++ tail) = (next (a, rest)).map (behind tail)) :
    whole.bind next = (part.bind next).map (behind tail) := by
  rw [first]
  cases part with
  | none => rfl
  | some r => exact step r.1 r.2

/-- Some characters of an address come first, and then the rest. -/
def Reads (text rest : List Char) : Prop := ∃ used, text = used ++ rest ∧ ∀ c ∈ used, IsLiteral c

theorem Reads.refl (text : List Char) : Reads text text :=
  ⟨[], rfl, fun _ hc => absurd hc List.not_mem_nil⟩

theorem Reads.trans {text middle rest : List Char} (h : Reads text middle) (h' : Reads middle rest) :
    Reads text rest := by
  obtain ⟨used, rfl, literal⟩ := h
  obtain ⟨more, rfl, literal'⟩ := h'
  refine ⟨used ++ more, (List.append_assoc ..).symm, fun c hc => ?_⟩
  rcases List.mem_append.1 hc with hc | hc
  · exact literal c hc
  · exact literal' c hc

theorem Reads.cons {c : Char} (h : IsLiteral c) (text : List Char) : Reads (c :: text) text :=
  ⟨[c], rfl, fun d hd => by rwa [List.mem_singleton.1 hd]⟩

theorem reads_takeDigits {base : Nat} (small : base ≤ 16) (text : List Char) :
    Reads text (takeDigits base text).2 := by
  obtain ⟨used, same, digits⟩ := takeDigits_spec base text
  exact ⟨used, same, fun c hc => .inl (isSome_digit?_of_le small (digits c hc))⟩

namespace IPv4

variable {tail : List Char}

theorem takeOctet?_append (stops : Stops tail) (text : List Char) :
    takeOctet? (text ++ tail) = (takeOctet? text).map (behind tail) := by
  rw [takeOctet?, takeOctet?, takeDigits_append (stops.noDigit (by decide))]
  rcases takeDigits 10 text with ⟨_ | ⟨first, more⟩, rest⟩
  · rfl
  · dsimp only
    split <;> rfl

theorem takeDotted?_of_ne {c : Char} (h : c ≠ '.') (text : List Char) :
    takeDotted? (c :: text) = none := by
  rw [takeDotted?]
  rintro rest same
  exact h (List.cons.inj same).1

theorem takeDotted?_append (stops : Stops tail) (text : List Char) :
    takeDotted? (text ++ tail) = (takeDotted? text).map (behind tail) := by
  cases text with
  | nil =>
      cases tail with
      | nil => rfl
      | cons c tail =>
          have other : c ≠ '.' := fun dot => stops c rfl (.inr (.inr dot))
          rw [List.nil_append, takeDotted?_of_ne other]
          rfl
  | cons c text =>
      by_cases dot : c = '.'
      · subst dot
        exact takeOctet?_append stops text
      · rw [List.cons_append, takeDotted?_of_ne dot, takeDotted?_of_ne dot]
        rfl

theorem take?_append (stops : Stops tail) (text : List Char) :
    take? (text ++ tail) = (take? text).map (behind tail) :=
  bind_behind (takeOctet?_append stops text) fun _ text =>
    bind_behind (takeDotted?_append stops text) fun _ text =>
      bind_behind (takeDotted?_append stops text) fun _ text =>
        bind_behind (takeDotted?_append stops text) fun _ _ => rfl

theorem takeOctet?_eq_some {text rest : List Char} {octet : UInt8}
    (h : takeOctet? text = some (octet, rest)) : text = decimal octet.toNat ++ rest := by
  rw [takeOctet?] at h
  rcases found : takeDigits 10 text with ⟨_ | ⟨first, more⟩, left⟩
  · rw [found] at h
    cases h
  · rw [found] at h
    dsimp only at h
    split at h
    · rename_i canonical
      obtain ⟨rfl, rfl⟩ := Prod.mk.inj (Option.some.inj h)
      rw [UInt8.toNat_ofNat', Nat.mod_eq_of_lt canonical.2.2]
      exact eq_decimal_append found canonical.2.1
    · cases h

theorem takeDotted?_eq_some {text rest : List Char} {octet : UInt8}
    (h : takeDotted? text = some (octet, rest)) : text = '.' :: (decimal octet.toNat ++ rest) := by
  cases text with
  | nil => cases h
  | cons c text =>
      by_cases dot : c = '.'
      · subst dot
        exact congrArg ('.' :: ·) (takeOctet?_eq_some h)
      · rw [takeDotted?_of_ne dot] at h
        cases h

/-- An address is only read from its canonical text. -/
theorem eq_chars_append {text rest : List Char} {ip : IPv4} (h : take? text = some (ip, rest)) :
    text = ip.chars ++ rest := by
  simp only [take?, bind, Option.bind_eq_some_iff, Prod.exists] at h
  obtain ⟨a, afterA, ha, b, afterB, hb, c, afterC, hc, d, afterD, hd, same⟩ := h
  obtain ⟨rfl, rfl⟩ := Prod.mk.inj (Option.some.inj same)
  rw [takeOctet?_eq_some ha, takeDotted?_eq_some hb, takeDotted?_eq_some hc, takeDotted?_eq_some hd]
  simp [chars]

theorem isLiteral_of_mem_decimal {n : Nat} {c : Char} (hc : c ∈ decimal n) : IsLiteral c := by
  have digit := digit?_ten_eq_some_iff.2 ⟨isDigit_of_mem_decimal c hc, rfl⟩
  exact .inl (isSome_digit?_of_le (by decide) (Option.isSome_of_eq_some digit))

theorem isLiteral_of_mem_chars {ip : IPv4} : ∀ c ∈ ip.chars, IsLiteral c := by
  intro c hc
  simp only [chars, List.mem_append, List.mem_cons] at hc
  rcases hc with ((hc | hc | hc) | hc | hc) | hc | hc
  · exact isLiteral_of_mem_decimal hc
  · exact .inr (.inr hc)
  · exact isLiteral_of_mem_decimal hc
  · exact .inr (.inr hc)
  · exact isLiteral_of_mem_decimal hc
  · exact .inr (.inr hc)
  · exact isLiteral_of_mem_decimal hc

theorem reads_take? {text rest : List Char} {ip : IPv4} (h : take? text = some (ip, rest)) :
    Reads text rest :=
  ⟨ip.chars, eq_chars_append h, isLiteral_of_mem_chars⟩

end IPv4

namespace IPv6

variable {tail : List Char}

theorem takeGroup?_append (stops : Stops tail) (text : List Char) :
    takeGroup? (text ++ tail) = (takeGroup? text).map (behind tail) := by
  rw [takeGroup?, takeGroup?, takeDigits_append (stops.noDigit (by decide))]
  dsimp only
  split <;> rfl

theorem takeSeparator?_of_ne {c : Char} (h : c ≠ ':') (text : List Char) :
    takeSeparator? false (c :: text) = none := by
  rw [takeSeparator?, if_neg Bool.false_ne_true]
  rintro rest same
  exact h (List.cons.inj same).1

theorem takeSeparator?_append (stops : Stops tail) (first : Bool) (text : List Char) :
    takeSeparator? first (text ++ tail) = (takeSeparator? first text).map (· ++ tail) := by
  cases first with
  | true => rfl
  | false =>
      cases text with
      | nil =>
          cases tail with
          | nil => rfl
          | cons c tail =>
              have other : c ≠ ':' := fun colon => stops c rfl (.inr (.inl colon))
              rw [List.nil_append, takeSeparator?_of_ne other]
              rfl
      | cons c text =>
          by_cases colon : c = ':'
          · subst colon
            rfl
          · rw [List.cons_append, takeSeparator?_of_ne colon, takeSeparator?_of_ne colon]
            rfl

def Groups.behind (tail : List Char) (g : Groups) : Groups := { g with rest := g.rest ++ tail }

theorem takeGroups_append (stops : Stops tail) (first : Bool) (room : Nat) (text : List Char) :
    takeGroups first room (text ++ tail) = (takeGroups first room text).behind tail := by
  induction room generalizing first text with
  | zero => rfl
  | succ room ih =>
      -- a round takes a separator, then an embedded address or else a group
      have separator := takeSeparator?_append stops first text
      have embedded : (if room = 0 then none
            else (takeSeparator? first (text ++ tail)).bind IPv4.take?) =
          (if room = 0 then none else (takeSeparator? first text).bind IPv4.take?).map
            (FabricSurvey.behind tail) := by
        split
        · rfl
        · rw [separator, Option.bind_map, Option.map_bind]
          congr 1
          funext text
          exact IPv4.take?_append stops text
      have group : (takeSeparator? first (text ++ tail)).bind takeGroup? =
          ((takeSeparator? first text).bind takeGroup?).map (FabricSurvey.behind tail) := by
        rw [separator, Option.bind_map, Option.map_bind]
        congr 1
        funext text
        exact takeGroup?_append stops text
      rw [takeGroups, takeGroups, embedded, group]
      rcases (if room = 0 then none else (takeSeparator? first text).bind IPv4.take?) with _ | ⟨ip, rest⟩
      · rcases (takeSeparator? first text).bind takeGroup? with _ | ⟨group, rest⟩
        · rfl
        · simp only [Option.map_none, Option.map_some, FabricSurvey.behind, ih]
          rfl
      · rfl

/-- The two ways to read an address: all of its groups are there, or a double colon stands for some. -/
inductive Taken (text : List Char) (ip : IPv6) (rest : List Char) : Prop
  | full (groups : (takeGroups true 8 text).groups = ip.groups)
      (left : (takeGroups true 8 text).rest = rest)
  | compressed {after : List Char} (short : (takeGroups true 8 text).groups.length ≠ 8)
      (plain : (takeGroups true 8 text).embedded = false)
      (double : (takeGroups true 8 text).rest = ':' :: ':' :: after)
      (groups : (takeGroups true 8 text).groups ++
        List.replicate (8 - (takeGroups true 8 text).groups.length -
          (takeGroups true (7 - (takeGroups true 8 text).groups.length) after).groups.length) 0 ++
        (takeGroups true (7 - (takeGroups true 8 text).groups.length) after).groups = ip.groups)
      (left : (takeGroups true (7 - (takeGroups true 8 text).groups.length) after).rest = rest)

theorem eq_of_groups {ip other : IPv6} (h : ip.groups = other.groups) : ip = other := by
  cases ip
  cases other
  cases h
  rfl

theorem take?_eq_some_iff {text rest : List Char} {ip : IPv6} :
    take? text = some (ip, rest) ↔ Taken text ip rest := by
  rw [take?]
  dsimp only
  split
  · rename_i full
    rw [Option.some.injEq, Prod.mk.injEq]
    constructor
    · rintro ⟨rfl, rfl⟩
      exact .full rfl rfl
    · rintro (⟨groups, left⟩ | ⟨short, -⟩)
      · exact ⟨eq_of_groups groups, left⟩
      · exact absurd full short
  · rename_i short
    split
    · rename_i embedded
      constructor
      · exact fun h => nomatch h
      · rintro (⟨groups, -⟩ | ⟨-, plain, -⟩)
        · exact absurd (groups ▸ ip.length_groups) short
        · exact absurd embedded (by rw [plain]; exact Bool.false_ne_true)
    · rename_i plain
      split
      · rename_i after double
        rw [Option.some.injEq, Prod.mk.injEq]
        constructor
        · rintro ⟨rfl, rfl⟩
          exact .compressed short (Bool.eq_false_iff.2 plain) double rfl rfl
        · rintro (⟨groups, -⟩ | ⟨-, -, double', groups, left⟩)
          · exact absurd (groups ▸ ip.length_groups) short
          · rw [double] at double'
            cases double'
            exact ⟨eq_of_groups groups, left⟩
      · rename_i single
        constructor
        · exact fun h => nomatch h
        · rintro (⟨groups, -⟩ | ⟨-, -, double, -⟩)
          · exact absurd (groups ▸ ip.length_groups) short
          · exact absurd double (single _)

theorem double_of_append (stops : Stops tail) {rest after : List Char}
    (h : rest ++ tail = ':' :: ':' :: after) :
    ∃ before, rest = ':' :: ':' :: before ∧ after = before ++ tail := by
  have noColon : ∀ others, tail ≠ ':' :: others := by
    rintro others rfl
    exact stops ':' rfl (.inr (.inl rfl))
  match rest, h with
  | [], h => exact absurd h (noColon _)
  | [_], h => exact absurd (List.cons.inj h).2 (noColon _)
  | _ :: _ :: before, h =>
      cases h
      exact ⟨before, rfl, rfl⟩

theorem take?_append (stops : Stops tail) (text : List Char) :
    take? (text ++ tail) = (take? text).map (FabricSurvey.behind tail) := by
  ext ⟨ip, left⟩
  rw [Option.map_eq_some_iff, take?_eq_some_iff]
  have head := takeGroups_append stops true 8 text
  constructor
  · rintro (⟨groups, rfl⟩ | ⟨short, plain, double, groups, rfl⟩)
    · rw [head] at groups ⊢
      exact ⟨_, take?_eq_some_iff.2 (.full groups rfl), rfl⟩
    · rw [head] at short plain double groups ⊢
      obtain ⟨before, double', rfl⟩ := double_of_append stops double
      rw [takeGroups_append stops] at groups ⊢
      exact ⟨_, take?_eq_some_iff.2 (.compressed short plain double' groups rfl), rfl⟩
  · rintro ⟨⟨other, rest⟩, taken, same⟩
    obtain ⟨rfl, rfl⟩ := Prod.mk.inj same
    rcases take?_eq_some_iff.1 taken with ⟨groups, rfl⟩ | @⟨before, short, plain, double, groups, rfl⟩
    · refine .full ?_ ?_ <;> rw [head]
      · exact groups
      · rfl
    · have tailGroups := takeGroups_append stops true (7 - (takeGroups true 8 text).groups.length) before
      refine @Taken.compressed _ _ _ (before ++ tail) ?_ ?_ ?_ ?_ ?_ <;> rw [head]
      · exact short
      · exact plain
      · exact congrArg (· ++ tail) double
      · simp only [Groups.behind, tailGroups]
        exact groups
      · simp only [Groups.behind, tailGroups]

theorem reads_takeSeparator? {first : Bool} {text rest : List Char}
    (h : takeSeparator? first text = some rest) : Reads text rest := by
  unfold takeSeparator? at h
  split at h
  · cases h
    exact .refl text
  · split at h
    · cases h
      exact .cons (.inr (.inl rfl)) _
    · cases h

theorem reads_takeGroup? {text rest : List Char} {group : UInt16}
    (h : takeGroup? text = some (group, rest)) : Reads text rest := by
  rw [takeGroup?] at h
  dsimp only at h
  split at h
  · cases h
  · cases h
    exact reads_takeDigits (by decide) text

theorem reads_takeGroups (first : Bool) (room : Nat) (text : List Char) :
    Reads text (takeGroups first room text).rest := by
  induction room generalizing first text with
  | zero => exact .refl text
  | succ room ih =>
      rw [takeGroups]
      split
      · rename_i ip rest found
        split at found
        · cases found
        · obtain ⟨middle, separator, taken⟩ := Option.bind_eq_some_iff.1 found
          exact (reads_takeSeparator? separator).trans (IPv4.reads_take? taken)
      · split
        · exact .refl text
        · rename_i group rest found
          obtain ⟨middle, separator, taken⟩ := Option.bind_eq_some_iff.1 found
          exact ((reads_takeSeparator? separator).trans (reads_takeGroup? taken)).trans (ih false rest)

theorem reads_take? {text rest : List Char} {ip : IPv6} (h : take? text = some (ip, rest)) :
    Reads text rest := by
  have head := reads_takeGroups true 8 text
  rcases take?_eq_some_iff.1 h with ⟨-, rfl⟩ | ⟨-, -, double, -, rfl⟩
  · exact head
  · rw [double] at head
    have colon : IsLiteral ':' := .inr (.inl rfl)
    exact ((head.trans (.cons colon _)).trans (.cons colon _)).trans (reads_takeGroups ..)

/-- In front of an IPv4 address there are two groups, which are neither all eight nor followed by more. -/
theorem take?_of_v4 {text rest : List Char} {ip : IPv4} (h : IPv4.take? text = some (ip, rest)) :
    take? text = none := by
  have head : takeGroups true 8 text = ⟨ip.groups, true, rest⟩ := by
    have found : (takeSeparator? true text).bind IPv4.take? = some (ip, rest) := h
    rw [takeGroups, if_neg (by decide), found]
  rw [Option.eq_none_iff_forall_ne_some]
  rintro ⟨other, left⟩ taken
  rcases take?_eq_some_iff.1 taken with ⟨groups, -⟩ | ⟨-, plain, -⟩
  · rw [head] at groups
    have eight := other.length_groups
    rw [← groups] at eight
    cases eight
  · rw [head] at plain
    cases plain

theorem count_le_of_reads {text rest : List Char} (h : Reads text rest) :
    rest.count ':' ≤ text.count ':' := by
  obtain ⟨used, rfl, -⟩ := h
  rw [List.count_append]
  exact Nat.le_add_left ..

/-- Every group but the first has a colon in front, unless it is the second one of an embedded
address. -/
theorem length_takeGroups_le_count (first : Bool) (room : Nat) (text : List Char) :
    (takeGroups first room text).groups.length + (takeGroups first room text).rest.count ':' ≤
      text.count ':' + first.toNat + (takeGroups first room text).embedded.toNat := by
  have separated : ∀ {first text rest}, takeSeparator? first text = some rest →
      rest.count ':' + 1 ≤ text.count ':' + first.toNat := by
    intro first text rest h
    unfold takeSeparator? at h
    split at h
    · rename_i isFirst
      cases h
      simp only [isFirst, Bool.toNat_true, Nat.le_refl]
    · split at h
      · cases h
        rw [List.count_cons_self]
        exact Nat.le_add_right ..
      · cases h
  induction room generalizing first text with
  | zero => exact Nat.le_add_right_of_le (by simp [takeGroups])
  | succ room ih =>
      rw [takeGroups]
      split
      · rename_i ip rest found
        split at found
        · cases found
        · obtain ⟨middle, separator, taken⟩ := Option.bind_eq_some_iff.1 found
          have fewer := count_le_of_reads (IPv4.reads_take? taken)
          have := separated separator
          simp only [IPv4.groups, List.length_cons, List.length_nil, Bool.toNat_true]
          omega
      · split
        · simp
        · rename_i group rest found
          obtain ⟨middle, separator, taken⟩ := Option.bind_eq_some_iff.1 found
          have fewer := count_le_of_reads (reads_takeGroup? taken)
          have := separated separator
          have more := ih false rest
          simp only [List.length_cons, Bool.toNat_false] at more ⊢
          omega

/-- No address has fewer than two colons. -/
theorem two_le_count_of_take? {text rest : List Char} {ip : IPv6} (h : take? text = some (ip, rest)) :
    2 ≤ text.count ':' := by
  rcases take?_eq_some_iff.1 h with ⟨groups, -⟩ | ⟨-, -, double, -⟩
  · have few := length_takeGroups_le_count true 8 text
    have embedded := Bool.toNat_le (takeGroups true 8 text).embedded
    rw [groups, ip.length_groups, Bool.toNat_true] at few
    omega
  · have fewer := count_le_of_reads (reads_takeGroups true 8 text)
    rw [double, List.count_cons_self, List.count_cons_self] at fewer
    omega

theorem colon_mem_of_take? {text rest : List Char} {ip : IPv6} (h : take? text = some (ip, rest)) :
    ':' ∈ text :=
  List.count_pos_iff.1 (Nat.lt_of_succ_lt (two_le_count_of_take? h))

end IPv6

namespace IPAddress

theorem parse?_eq_v4_iff {text : List Char} {ip : IPv4} :
    parse? text = some (.v4 ip) ↔ IPv4.take? text = some (ip, []) := by
  rcases found : IPv4.take? text with _ | ⟨other, _ | ⟨c, rest⟩⟩
  · rcases other : IPv6.take? text with _ | ⟨ip6, _ | ⟨c, rest⟩⟩ <;> simp [parse?, found, other]
  · simp [parse?, found]
  · simp [parse?, found]

theorem parse?_eq_v6_iff {text : List Char} {ip : IPv6} :
    parse? text = some (.v6 ip) ↔ IPv6.take? text = some (ip, []) := by
  rcases found : IPv4.take? text with _ | ⟨other, rest⟩
  · rcases other : IPv6.take? text with _ | ⟨ip6, _ | ⟨c, rest⟩⟩ <;> simp [parse?, found, other]
  · have none := IPv6.take?_of_v4 found
    cases rest <;> simp [parse?, found, none]

/-- Addresses are written with digits, colons and dots. -/
theorem isLiteral_of_parse? {text : List Char} {ip : IPAddress} (h : parse? text = some ip) :
    ∀ c ∈ text, IsLiteral c := by
  have reads : Reads text [] := by
    cases ip with
    | v4 ip => exact IPv4.reads_take? (parse?_eq_v4_iff.1 h)
    | v6 ip => exact IPv6.reads_take? (parse?_eq_v6_iff.1 h)
  obtain ⟨used, same, literal⟩ := reads
  rwa [same, List.append_nil]

/-- An IPv4 address has one spelling only. -/
theorem eq_chars_of_parse? {text : List Char} {ip : IPv4} (h : parse? text = some (.v4 ip)) :
    text = ip.chars := by
  have same := IPv4.eq_chars_append (parse?_eq_v4_iff.1 h)
  rwa [List.append_nil] at same

/-- A text without a colon is an address only in canonical form, of version 4. -/
theorem eq_chars_of_not_mem {text : List Char} {ip : IPAddress} (h : parse? text = some ip)
    (noColon : ':' ∉ text) : ∃ ip4, ip = .v4 ip4 ∧ text = ip4.chars := by
  cases ip with
  | v4 ip4 => exact ⟨ip4, rfl, eq_chars_of_parse? h⟩
  | v6 ip6 => exact absurd (IPv6.colon_mem_of_take? (parse?_eq_v6_iff.1 h)) noColon

end IPAddress

end FabricSurvey
