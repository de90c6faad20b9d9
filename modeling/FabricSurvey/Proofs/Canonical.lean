import FabricSurvey.Proofs.Address

/-!
# Canonical texts of addresses

Every address is read back from its canonical text: an IPv4 address from its octets, an IPv6 address from
its groups, whether a run of zeros among them is compressed or the last two are shown as an IPv4 address,
and a socket address with its scope and port.
-/

namespace FabricSurvey

open Text

namespace IPv4

variable {tail : List Char}

theorem takeOctet?_decimal (stop : NoDigit 10 tail) (octet : UInt8) :
    takeOctet? (decimal octet.toNat ++ tail) = some (octet, tail) := by
  have small : octet.toNat < 256 := octet.toNat_lt
  obtain ⟨digits, taken, writes⟩ := takeDigits_decimal octet.toNat
  have length : digits.length ≤ 3 := by
    have same := length_takeDigits (congrArg Prod.snd taken)
    rw [taken] at same
    rw [same, decimal, Nat.length_toDigits_le_iff (by decide) (by decide)]
    omega
  rw [takeOctet?, takeDigits_append stop, taken]
  cases digits with
  | nil => exact absurd rfl writes.ne_nil
  | cons first more =>
      have canonical : first ≠ 0 ∨ more = [] := by
        refine Decidable.or_iff_not_imp_left.2 fun zero => ?_
        rw [Decidable.not_not] at zero
        -- a leading zero is the only digit of the number zero
        have none : octet.toNat = 0 := writes.canonical (congrArg some zero)
        rw [none, decimal, Nat.toDigits_zero] at taken
        exact (List.cons.inj (Prod.mk.inj taken).1).2.symm
      dsimp only
      rw [writes.value, if_pos ⟨length, canonical, small⟩, UInt8.ofNat_toNat, List.nil_append]

theorem noDigit_dot (text : List Char) : NoDigit 10 ('.' :: text) :=
  noDigit_cons (by decide) (by decide) text

theorem take?_chars (stop : NoDigit 10 tail) (ip : IPv4) : take? (ip.chars ++ tail) = some (ip, tail) := by
  have dotted : ∀ {rest : List Char} (octet : UInt8), NoDigit 10 rest →
      takeDotted? ('.' :: (decimal octet.toNat ++ rest)) = some (octet, rest) :=
    fun octet stop => takeOctet?_decimal stop octet
  simp only [chars, List.append_assoc, List.cons_append]
  rw [take?, takeOctet?_decimal (noDigit_dot _)]
  simp only [bind, Option.bind_some, dotted _ (noDigit_dot _), dotted _ stop]
  rfl

end IPv4

theorem noDigit_colon {base : Nat} (small : base ≤ 16) (text : List Char) :
    NoDigit base (':' :: text) :=
  noDigit_cons small (by decide) text

namespace IPv6

/-- What may stand behind a group. -/
inductive BehindGroup : List Char → Prop
  | nothing : BehindGroup []
  | colon (text : List Char) : BehindGroup (':' :: text)

theorem BehindGroup.noDigit {base : Nat} {text : List Char} (small : base ≤ 16) (h : BehindGroup text) :
    NoDigit base text := by
  cases h with
  | nothing => exact noDigit_nil base
  | colon text => exact noDigit_colon small text

theorem isSome_digit?_of_mem_hexadecimal {n : Nat} : ∀ c ∈ hexadecimal n, (digit? 16 c).isSome := by
  obtain ⟨digits, taken, -⟩ := takeDigits_hexadecimal n
  obtain ⟨used, same, isDigit⟩ := takeDigits_spec 16 (hexadecimal n)
  rw [taken, List.append_nil] at same
  rwa [same]

theorem takeGroup?_hexadecimal {text : List Char} (behind : BehindGroup text) (group : UInt16) :
    takeGroup? (hexadecimal group.toNat ++ text) = some (group, text) := by
  have small : group.toNat < 16 ^ 4 := group.toNat_lt
  obtain ⟨digits, taken, writes⟩ := takeDigits_hexadecimal group.toNat
  have length : digits.length ≤ 4 := by
    have same := length_takeDigits (congrArg Prod.snd taken)
    rw [taken] at same
    rwa [same, hexadecimal, Nat.length_toDigits_le_iff (by decide) (by decide)]
  have accepted : ¬ (digits.isEmpty ∨ 4 < digits.length) := by
    rw [List.isEmpty_iff, not_or, Nat.not_lt]
    exact ⟨writes.ne_nil, length⟩
  rw [takeGroup?, takeDigits_append (behind.noDigit (by decide)), taken]
  dsimp only
  rw [if_neg accepted, writes.value, UInt16.ofNat_toNat, List.nil_append]

theorem take?_v4_hexadecimal {text : List Char} (behind : BehindGroup text) (n : Nat) :
    IPv4.take? (hexadecimal n ++ text) = none := by
  rw [Option.eq_none_iff_forall_ne_some]
  rintro ⟨ip, rest⟩ taken
  have same := IPv4.eq_chars_append taken
  simp only [IPv4.chars, List.append_assoc, List.cons_append] at same
  -- the dot behind the first octet would have to be a hexadecimal digit or what comes behind the group
  rcases List.append_eq_append_iff.1 same with ⟨more, octet, left⟩ | ⟨more, digits, left⟩
  · cases behind with
    | nothing => simp at left
    | colon text =>
        cases more with
        | nil => simp at left
        | cons c more =>
            obtain ⟨rfl, -⟩ := List.cons.inj left
            have colon : ':' ∈ decimal ip.a.toNat := by simp [octet]
            exact absurd (isDigit_of_mem_decimal _ colon) (by decide)
  · cases more with
    | nil => cases behind <;> simp at left
    | cons c more =>
        obtain ⟨rfl, -⟩ := List.cons.inj left
        have dot : '.' ∈ hexadecimal n := by simp [digits]
        exact absurd (isSome_digit?_of_mem_hexadecimal _ dot) (by decide)

/-- Where groups end: at the end of the text, or at a double colon. -/
inductive EndsGroups : List Char → Prop
  | nothing : EndsGroups []
  | double (text : List Char) : EndsGroups (':' :: ':' :: text)

theorem takeGroups_of_ends {text : List Char} (ends : EndsGroups text) (first : Bool) (room : Nat) :
    takeGroups first room text = ⟨[], false, text⟩ := by
  cases room with
  | zero => rfl
  | succ room =>
      cases ends with
      | nothing => cases first <;> cases room <;> rfl
      | double text => cases first <;> cases room <;> rfl

/-- A group with something other than an embedded address in front of it. -/
theorem takeGroups_succ {first : Bool} {text more : List Char} (room : Nat) (group : UInt16)
    (separator : takeSeparator? first text = some (hexadecimal group.toNat ++ more))
    (behind : BehindGroup more) :
    takeGroups first (room + 1) text =
      ⟨group :: (takeGroups false room more).groups, (takeGroups false room more).embedded,
        (takeGroups false room more).rest⟩ := by
  have noV4 : (if room = 0 then none else (takeSeparator? first text).bind IPv4.take?) = none := by
    rw [separator, Option.bind_some, take?_v4_hexadecimal behind, ite_self]
  rw [takeGroups, noV4, separator, Option.bind_some, takeGroup?_hexadecimal behind]

/-- Groups, each of them with a colon in front. -/
def colonGroups : List UInt16 → List Char
  | [] => []
  | group :: groups => ':' :: (hexadecimal group.toNat ++ colonGroups groups)

theorem joinGroups_cons (group : UInt16) (groups : List UInt16) :
    joinGroups (group :: groups) = hexadecimal group.toNat ++ colonGroups groups := by
  induction groups generalizing group with
  | nil => exact (List.append_nil _).symm
  | cons next groups ih =>
      rw [joinGroups, ih next, colonGroups]
      exact List.cons_ne_nil _ _

theorem behindGroup_colonGroups {text : List Char} (ends : EndsGroups text) (groups : List UInt16) :
    BehindGroup (colonGroups groups ++ text) := by
  cases groups with
  | nil =>
      cases ends with
      | nothing => exact .nothing
      | double text => exact .colon _
  | cons => exact .colon _

theorem takeGroups_colonGroups {text : List Char} (ends : EndsGroups text) {groups : List UInt16}
    {room : Nat} (fits : groups.length ≤ room) :
    takeGroups false room (colonGroups groups ++ text) = ⟨groups, false, text⟩ := by
  induction groups generalizing room with
  | nil => exact takeGroups_of_ends ends false room
  | cons group groups ih =>
      obtain ⟨room, rfl⟩ := Nat.exists_eq_add_one_of_ne_zero (Nat.ne_zero_of_lt fits)
      have separator : takeSeparator? false (colonGroups (group :: groups) ++ text) =
          some (hexadecimal group.toNat ++ (colonGroups groups ++ text)) := by
        rw [← List.append_assoc]
        rfl
      rw [takeGroups_succ room group separator (behindGroup_colonGroups ends groups),
        ih (Nat.le_of_succ_le_succ fits)]

theorem takeGroups_joinGroups {text : List Char} (ends : EndsGroups text) {groups : List UInt16}
    {room : Nat} (fits : groups.length ≤ room) :
    takeGroups true room (joinGroups groups ++ text) = ⟨groups, false, text⟩ := by
  cases groups with
  | nil => exact takeGroups_of_ends ends true room
  | cons group groups =>
      obtain ⟨room, rfl⟩ := Nat.exists_eq_add_one_of_ne_zero (Nat.ne_zero_of_lt fits)
      have separator : takeSeparator? true (joinGroups (group :: groups) ++ text) =
          some (hexadecimal group.toNat ++ (colonGroups groups ++ text)) := by
        rw [joinGroups_cons, List.append_assoc]
        rfl
      rw [takeGroups_succ room group separator (behindGroup_colonGroups ends groups),
        takeGroups_colonGroups ends (Nat.le_of_succ_le_succ fits)]

theorem take_zeroRun (groups : List UInt16) :
    groups.take (zeroRun groups) = List.replicate (zeroRun groups) 0 := by
  have taken : groups.take (zeroRun groups) = groups.takeWhile (· == 0) :=
    (List.prefix_iff_eq_take.1 (List.takeWhile_prefix _)).symm
  rw [taken, List.eq_replicate_iff]
  exact ⟨rfl, fun group hg => by simpa using List.all_eq_true.1 List.all_takeWhile group hg⟩

/-- A place in some groups and a number of zeros that stand there. -/
structure ZerosAt (groups : List UInt16) (run : Nat × Nat) : Prop where
  zeros : (groups.drop run.1).take run.2 = List.replicate run.2 0
  inside : run.1 + run.2 ≤ groups.length

theorem zerosAt_longestZeros (groups : List UInt16) : ZerosAt groups (longestZeros groups) := by
  induction groups with
  | nil => exact ⟨rfl, Nat.le_refl 0⟩
  | cons group groups ih =>
      unfold longestZeros
      extract_lets here later
      split
      · refine ⟨take_zeroRun _, ?_⟩
        rw [Nat.zero_add]
        exact (List.takeWhile_prefix _).length_le
      · refine ⟨ih.zeros, ?_⟩
        have inside : later.1 + later.2 ≤ groups.length := ih.inside
        simp only [List.length_cons]
        omega

theorem ZerosAt.split {groups : List UInt16} {run : Nat × Nat} (h : ZerosAt groups run) :
    groups.take run.1 ++ List.replicate run.2 0 ++ groups.drop (run.1 + run.2) = groups := by
  rw [← h.zeros, List.append_assoc, ← List.drop_drop, List.take_append_drop, List.take_append_drop]

theorem take?_joinGroups (ip : IPv6) : take? (joinGroups ip.groups) = some (ip, []) := by
  have head := takeGroups_joinGroups .nothing (Nat.le_of_eq ip.length_groups)
  rw [List.append_nil] at head
  refine take?_eq_some_iff.2 (.full ?_ ?_) <;> rw [head]

/-- Groups that fall into two parts with zeros between them are read with a double colon for the zeros. -/
theorem take?_double {ip : IPv6} {front back : List UInt16} {zeros : Nat} {text : List Char}
    {embedded : Bool} (positive : 0 < zeros)
    (groups : front ++ List.replicate zeros 0 ++ back = ip.groups)
    (taken : takeGroups true (7 - front.length) text = ⟨back, embedded, []⟩) :
    take? (joinGroups front ++ ':' :: ':' :: text) = some (ip, []) := by
  have eight : front.length + zeros + back.length = 8 := by
    rw [← ip.length_groups, ← groups, List.length_append, List.length_append, List.length_replicate]
  have head : takeGroups true 8 (joinGroups front ++ ':' :: ':' :: text) =
      ⟨front, false, ':' :: ':' :: text⟩ := takeGroups_joinGroups (.double text) (by omega)
  have between : 8 - front.length - back.length = zeros := by omega
  refine take?_eq_some_iff.2 (@Taken.compressed _ _ _ text ?_ ?_ ?_ ?_ ?_) <;> rw [head] <;> dsimp only
  · omega
  · rw [taken, between, groups]
  · rw [taken]

theorem take?_groupChars (ip : IPv6) : take? ip.groupChars = some (ip, []) := by
  have zerosAt := zerosAt_longestZeros ip.groups
  rw [groupChars]
  generalize longestZeros ip.groups = run at zerosAt ⊢
  obtain ⟨start, length⟩ := run
  dsimp only
  split
  · rename_i long
    have inside := zerosAt.inside
    rw [ip.length_groups] at inside
    have front : (ip.groups.take start).length = start := by
      rw [List.length_take, ip.length_groups]
      omega
    have fits : (ip.groups.drop (start + length)).length ≤ 7 - start := by
      rw [List.length_drop, ip.length_groups]
      omega
    have back := takeGroups_joinGroups .nothing fits
    rw [List.append_nil, ← congrArg (7 - ·) front] at back
    exact take?_double (Nat.lt_of_succ_lt long) zerosAt.split back
  · exact take?_joinGroups ip

theorem takeGroups_embedded (group : UInt16) (room : Nat) (ip : IPv4) :
    takeGroups true (room + 3) (hexadecimal group.toNat ++ ':' :: ip.chars) =
      ⟨group :: ip.groups, true, []⟩ := by
  have read := IPv4.take?_chars (noDigit_nil 10) ip
  rw [List.append_nil] at read
  have embedded : takeGroups false (room + 2) (':' :: ip.chars) = ⟨ip.groups, true, []⟩ := by
    have found : (takeSeparator? false (':' :: ip.chars)).bind IPv4.take? = some (ip, []) := read
    rw [takeGroups, if_neg (Nat.succ_ne_zero room), found]
  rw [takeGroups_succ (room + 2) group rfl (.colon _), embedded]

def lowAddress (g h : UInt16) : IPv4 :=
  ⟨UInt8.ofNat (g.toNat / 256), UInt8.ofNat (g.toNat % 256),
    UInt8.ofNat (h.toNat / 256), UInt8.ofNat (h.toNat % 256)⟩

theorem groups_lowAddress (g h : UInt16) : (lowAddress g h).groups = [g, h] := by
  have halves : ∀ n : UInt16,
      UInt16.ofNat ((UInt8.ofNat (n.toNat / 256)).toNat * 256 + (UInt8.ofNat (n.toNat % 256)).toNat) =
        n := by
    intro n
    have small : n.toNat < 65536 := n.toNat_lt
    rw [UInt8.toNat_ofNat', UInt8.toNat_ofNat', Nat.mod_eq_of_lt (by omega : n.toNat / 256 < 2 ^ 8),
      Nat.mod_mod, Nat.mul_comm, Nat.div_add_mod, UInt16.ofNat_toNat]
  rw [lowAddress, IPv4.groups, halves, halves]

/-- An address is read back from its canonical text. -/
theorem take?_chars (ip : IPv6) : take? ip.chars = some (ip, []) := by
  unfold chars
  split
  · rename_i g h mapped
    have text : "::ffff:".toList ++ (lowAddress g h).chars =
        joinGroups [] ++ ':' :: ':' :: (hexadecimal (0xFFFF : UInt16).toNat ++ ':' ::
          (lowAddress g h).chars) := rfl
    have taken := takeGroups_embedded 0xFFFF 4 (lowAddress g h)
    rw [groups_lowAddress] at taken
    have groups : [] ++ List.replicate 5 0 ++ [0xFFFF, g, h] = ip.groups := mapped.symm
    exact (congrArg take? text).trans (take?_double (by decide) groups taken)
  · exact take?_groupChars ip

end IPv6

theorem IPAddress.parse?_chars (ip : IPAddress) : parse? ip.chars = some ip := by
  cases ip with
  | v4 ip =>
      have read := IPv4.take?_chars (noDigit_nil 10) ip
      rw [List.append_nil] at read
      exact parse?_eq_v4_iff.2 read
  | v6 ip => exact parse?_eq_v6_iff.2 (IPv6.take?_chars ip)

namespace SocketAddress

theorem portAtEnd?_decimal (port : UInt16) : portAtEnd? (':' :: decimal port.toNat) = some port := by
  rw [portAtEnd?, takeNumber?_decimal (Nat.le_of_lt_succ port.toNat_lt)]
  exact congrArg some UInt16.ofNat_toNat

theorem takeScope_chars (scope : UInt32) (text : List Char) :
    takeScope ((if scope = 0 then [] else '%' :: decimal scope.toNat) ++ ']' :: text) =
      (scope, ']' :: text) := by
  split
  · rename_i zero
    rw [zero]
    rfl
  · have stop : NoDigit 10 (']' :: text) := noDigit_cons (by decide) (by decide) text
    rw [List.cons_append, takeScope,
      takeNumber?_decimal_append stop (Nat.le_of_lt_succ scope.toNat_lt)]
    exact congrArg (·, ']' :: text) UInt32.ofNat_toNat

/-- A socket address is read back from its canonical text. -/
theorem parse?_chars (socket : SocketAddress) : parse? socket.chars = some socket := by
  cases socket with
  | v4 ip port =>
      have read := IPv4.take?_chars (noDigit_colon (by decide) (decimal port.toNat)) ip
      have found : parseV4? (SocketAddress.v4 ip port).chars = some (.v4 ip port) := by
        simp only [parseV4?, chars, read, bind, Option.bind_some, portAtEnd?_decimal]
        rfl
      rw [parse?, found, Option.some_or]
  | v6 ip scope port =>
      have stops : Stops ((if scope = 0 then [] else '%' :: decimal scope.toNat) ++ ']' :: ':' ::
          decimal port.toNat) := by
        intro c hc
        split at hc <;> obtain rfl := Option.some.inj hc <;> decide
      have read := IPv6.take?_append stops ip.chars
      rw [IPv6.take?_chars, Option.map_some, behind, List.nil_append] at read
      have found : parseV6? (SocketAddress.v6 ip scope port).chars = some (.v6 ip scope port) := by
        simp only [parseV6?, chars, List.cons_append, List.append_assoc, read, bind, Option.bind_some,
          takeScope_chars, portAtEnd?_decimal]
        rfl
      rw [parse?, found]
      rfl

end SocketAddress

end FabricSurvey
