import FabricSurvey.Proofs.Canonical
import FabricSurvey.Proofs.Dialling

/-!
# Spellings of an agent's address

An IP address may be spelled in many ways, and any of its spellings may stand in brackets, with or without
a port behind them. All of them are dialled as the canonical text of the address. A canonical text is left
as it is, and so is a host name with a port, so that an authority which has a port never changes again.
-/

namespace FabricSurvey

open Text

theorem IPv4.colon_not_mem_chars (ip : IPv4) : ':' ∉ ip.chars := by
  have digits : ∀ n, ':' ∉ decimal n := fun n colon => absurd (isDigit_of_mem_decimal _ colon) (by decide)
  simp [chars, digits]

/-- One colon is too many for an address of version 4 and not enough for one of version 6. -/
theorem IPAddress.parse?_eq_none_of_count {text : List Char} (one : text.count ':' = 1) :
    parse? text = none := by
  rw [Option.eq_none_iff_forall_ne_some]
  rintro (ip | ip) address
  · have colon : ':' ∈ text := List.count_pos_iff.1 (by omega)
    rw [eq_chars_of_parse? address] at colon
    exact ip.colon_not_mem_chars colon
  · have two := IPv6.two_le_count_of_take? (parse?_eq_v6_iff.1 address)
    omega

theorem count_colon_named {host digits : List Char} {q : Nat} (noColon : ':' ∉ host)
    (number : number? max16 digits = some q) : (host ++ ':' :: digits).count ':' = 1 := by
  rw [List.count_append, List.count_eq_zero.2 noColon, List.count_cons_self,
    List.count_eq_zero.2 (Identity.colon_not_mem_of_number? number)]

theorem unbracket_eq_or (text : List Char) :
    unbracket text = text ∨ text = '[' :: (unbracket text ++ [']']) := by
  unfold unbracket
  split
  · split
    · rename_i host found
      obtain ⟨rfl, -⟩ := splitLast?_eq_some_iff.1 found
      exact .inr rfl
    · exact .inl rfl
  · exact .inl rfl

theorem unbracket_named {host digits : List Char} {q : Nat}
    (number : number? max16 digits = some q) :
    unbracket (host ++ ':' :: digits) = host ++ ':' :: digits := by
  rcases unbracket_eq_or (host ++ ':' :: digits) with same | bracketed
  · exact same
  · -- the last character would be a bracket, and it belongs to the port
    have last := congrArg List.getLast? bracketed
    rw [List.getLast?_append, Option.or_of_isSome (by simp), ← List.cons_append,
      List.getLast?_concat] at last
    have bracket := List.mem_of_getLast? last
    rcases List.mem_cons.1 bracket with colon | bracket
    · exact absurd colon (by decide)
    · exact absurd bracket (not_mem_of_number? number (by decide) (by decide))

theorem SocketAddress.parse?_of_address {text : List Char} {ip : IPAddress}
    (h : IPAddress.parse? text = some ip) : parse? text = none := by
  have noV4 : parseV4? text = none := by
    rw [parseV4?]
    cases ip with
    | v4 ip =>
        rw [IPAddress.parse?_eq_v4_iff.1 h]
        rfl
    | v6 ip =>
        have missing : IPv4.take? text = none := by
          rw [Option.eq_none_iff_forall_ne_some]
          rintro ⟨ip4, rest⟩ taken
          have none := IPv6.take?_of_v4 taken
          rw [IPAddress.parse?_eq_v6_iff.1 h] at none
          cases none
        rw [missing]
        rfl
  rw [parse?, noV4, parseV6?_of_plain (plain_of_parse? h), Option.none_or]

theorem authority_of_address {text : List Char} {ip : IPAddress}
    (h : IPAddress.parse? text = some ip) (port : UInt16) :
    authority text port = (SocketAddress.of ip port).chars := by
  rw [authority, SocketAddress.parse?_of_address h]
  simp only [unbracket_of_plain (plain_of_parse? h), h]

theorem authority_of_explicitPort? {address dialled : List Char}
    (noSocket : SocketAddress.parse? address = none)
    (noAddress : IPAddress.parse? (unbracket address) = none)
    (explicit : explicitPort? address = some dialled) (port : UInt16) :
    authority address port = dialled := by
  rw [authority, noSocket]
  simp only [noAddress, explicit, Option.getD_some]

theorem authority_v4_withPort (ip : IPv4) {digits : List Char} {q : Nat}
    (number : number? max16 digits = some q) (port : UInt16) :
    authority (ip.chars ++ ':' :: digits) port = (SocketAddress.v4 ip (UInt16.ofNat q)).chars := by
  have taken := IPv4.take?_chars (noDigit_colon (by decide) digits) ip
  have address : IPAddress.parse? ip.chars = some (.v4 ip) := IPAddress.parse?_chars (.v4 ip)
  have plain : (ip.chars ++ ':' :: digits).head? ≠ some '[' := by
    rw [List.head?_append]
    have plain := plain_of_parse? address
    cases found : ip.chars with
    | nil => simp
    | cons c text => simpa [found] using plain
  have socket : SocketAddress.parse? (ip.chars ++ ':' :: digits) =
      (SocketAddress.portAtEnd? (':' :: digits)).map (.v4 ip) := by
    rw [SocketAddress.parse?, SocketAddress.parseV6?_of_plain plain, Option.or_none]
    simp only [SocketAddress.parseV4?, taken, bind, Option.bind_some]
    cases SocketAddress.portAtEnd? (':' :: digits) <;> rfl
  rcases SocketAddress.portAtEnd?_of_number? number with none | found
  · refine authority_of_explicitPort? (by rw [socket, none]; rfl) ?_ ?_ port
    · rw [unbracket_named number]
      exact IPAddress.parse?_eq_none_of_count (count_colon_named ip.colon_not_mem_chars number)
    · have bare := unbracket_of_plain (plain_of_parse? address)
      exact explicitPort?_address number (by rw [bare, address])
  · rw [authority, socket, found, Option.map_some]

/-- However an IP address is spelled, bare or in brackets, it is dialled as its canonical text, with the
port behind it or else with the one of all agents. A bare address is never cut into host and port, and an
IPv4 address loses its brackets. -/
theorem authority_of_spelling {spelling digits : List Char} {ip : IPAddress} {explicit : UInt16}
    (address : IPAddress.parse? spelling = some ip)
    (number : number? max16 digits = some explicit.toNat) (port : UInt16) :
    authority spelling port = (SocketAddress.of ip port).chars ∧
      authority ('[' :: (spelling ++ [']'])) port = (SocketAddress.of ip port).chars ∧
      authority ('[' :: (spelling ++ ']' :: ':' :: digits)) port =
        (SocketAddress.of ip explicit).chars ∧
      ∀ ip4, ip = .v4 ip4 →
        authority (spelling ++ ':' :: digits) port = (SocketAddress.of ip explicit).chars ∧
          (SocketAddress.of ip port).chars = ip4.chars ++ ':' :: decimal port.toNat := by
  have same : UInt16.ofNat explicit.toNat = explicit := UInt16.ofNat_toNat
  refine ⟨authority_of_address address port, authority_literal address port, ?_, ?_⟩
  · rw [authority_withPort address number, same]
  · rintro ip4 rfl
    rw [IPAddress.eq_chars_of_parse? address, authority_v4_withPort ip4 number, same]
    exact ⟨rfl, rfl⟩

theorem authority_of_spelling_signed :
    (authority "FD00::1:8080".toList 9999 = "[fd00::1:8080]:9999".toList ∧
      authority "[FD00::1:8080]".toList 9999 = "[fd00::1:8080]:9999".toList ∧
      authority "[FD00::1:8080]:+080".toList 9999 = "[fd00::1:8080]:80".toList) ∧
    authority "[10.0.0.1]".toList 9999 = "10.0.0.1:9999".toList ∧
      authority "10.0.0.1:+080".toList 9999 = "10.0.0.1:80".toList := by
  have number : number? max16 "+080".toList = some (80 : UInt16).toNat := by decide
  constructor
  · have address : IPAddress.parse? "FD00::1:8080".toList =
        some (.v6 ⟨[0xFD00, 0, 0, 0, 0, 0, 1, 0x8080], rfl⟩) := by decide +kernel
    obtain ⟨bare, literal, withPort, -⟩ := authority_of_spelling address number 9999
    exact ⟨bare.trans (by decide +kernel), literal.trans (by decide +kernel),
      withPort.trans (by decide +kernel)⟩
  · have address : IPAddress.parse? "10.0.0.1".toList = some (.v4 ⟨10, 0, 0, 1⟩) := by decide +kernel
    obtain ⟨-, literal, -, v4⟩ := authority_of_spelling address number 9999
    exact ⟨literal.trans (by decide +kernel), (v4 _ rfl).1.trans (by decide +kernel)⟩

/-- The addresses of which it is clear whether they have a port: socket addresses, IP addresses that may
stand in brackets, and hosts without a colon, with or without a port behind them. -/
inductive PortClear : List Char → Prop
  | socket {address : List Char} (h : (SocketAddress.parse? address).isSome) : PortClear address
  | literal {address : List Char} (h : (IPAddress.parse? (unbracket address)).isSome) :
      PortClear address
  | host {address : List Char} (noColon : ':' ∉ address) : PortClear address
  | withPort {host digits : List Char} (noColon : ':' ∉ host)
      (number : (number? max16 digits).isSome) : PortClear (host ++ ':' :: digits)

/-- What is dialled as it is written: the canonical text of a socket address, or a host name with a
port. -/
inductive Settled : List Char → Prop
  | socket (socket : SocketAddress) : Settled socket.chars
  | named {host digits : List Char} {q : Nat} (noColon : ':' ∉ host)
      (number : number? max16 digits = some q)
      (noAddress : IPAddress.parse? (unbracket host) = none) : Settled (host ++ ':' :: digits)

theorem explicitPort?_named {host digits : List Char} {q : Nat} (noColon : ':' ∉ host)
    (number : number? max16 digits = some q)
    (noAddress : IPAddress.parse? (unbracket host) = none) :
    explicitPort? (host ++ ':' :: digits) = some (host ++ ':' :: digits) := by
  simp only [explicitPort?, splitLast?_withPort number, number, bind, Option.bind_some, noAddress,
    if_neg noColon]
  rfl

theorem SocketAddress.two_le_count_of_parseV6? {text : List Char} {socket : SocketAddress}
    (h : parseV6? text = some socket) : 2 ≤ text.count ':' := by
  unfold parseV6? at h
  split at h
  · simp only [bind, Option.bind_eq_some_iff, Prod.exists] at h
    obtain ⟨ip, rest, taken, -⟩ := h
    rw [List.count_cons_of_ne (by decide)]
    exact IPv6.two_le_count_of_take? taken
  · cases h

theorem SocketAddress.parse?_named {host digits : List Char} {q : Nat} (noColon : ':' ∉ host)
    (number : number? max16 digits = some q)
    (noAddress : IPAddress.parse? (unbracket host) = none) : parse? (host ++ ':' :: digits) = none := by
  have noV4 : parseV4? (host ++ ':' :: digits) = none := by
    rw [Option.eq_none_iff_forall_ne_some]
    intro socket found
    obtain ⟨ip, tail, same⟩ := exists_of_parseV4? found
    -- the first colon of all ends both the host and the address
    have address := splitFirst?_eq_some_iff.2 ⟨same, ip.colon_not_mem_chars⟩
    rw [Identity.splitFirst?_append noColon] at address
    obtain ⟨rfl, -⟩ := Prod.mk.inj (Option.some.inj address)
    have whole : IPAddress.parse? ip.chars = some (.v4 ip) := IPAddress.parse?_chars (.v4 ip)
    rw [unbracket_of_plain (plain_of_parse? whole), whole] at noAddress
    cases noAddress
  have noV6 : parseV6? (host ++ ':' :: digits) = none := by
    rw [Option.eq_none_iff_forall_ne_some]
    intro socket found
    have one := count_colon_named noColon number
    have two := two_le_count_of_parseV6? found
    omega
  rw [parse?, noV4, noV6, Option.none_or]

theorem Settled.authority_eq {address : List Char} (h : Settled address) (port : UInt16) :
    authority address port = address := by
  cases h with
  | socket socket => rw [authority, SocketAddress.parse?_chars]
  | named noColon number noAddress =>
      refine authority_of_explicitPort? (SocketAddress.parse?_named noColon number noAddress) ?_
        (explicitPort?_named noColon number noAddress) port
      rw [unbracket_named number]
      exact IPAddress.parse?_eq_none_of_count (count_colon_named noColon number)

theorem PortClear.settled_authority {address : List Char} (h : PortClear address) (port : UInt16) :
    Settled (authority address port) := by
  rw [authority]
  cases noSocket : SocketAddress.parse? address with
  | some socket => exact .socket socket
  | none =>
      cases noAddress : IPAddress.parse? (unbracket address) with
      | some ip => exact .socket (.of ip port)
      | none =>
          cases h with
          | socket h =>
              rw [noSocket] at h
              cases h
          | literal h =>
              rw [noAddress] at h
              cases h
          | host noColon =>
              dsimp only
              rw [explicitPort?_of_not_mem noColon, Option.getD_none]
              exact .named noColon (number?_decimal (Nat.le_of_lt_succ port.toNat_lt)) noAddress
          | @withPort host digits noColon number =>
              obtain ⟨q, number⟩ := Option.isSome_iff_exists.1 number
              dsimp only
              cases found : IPAddress.parse? (unbracket host) with
              | none =>
                  rw [explicitPort?_named noColon number found, Option.getD_some]
                  exact .named noColon number found
              | some ip =>
                  rw [explicitPort?_address number found, Option.getD_some]
                  exact .socket _

/-- Once an authority has a port it keeps it: dialling it at another port changes nothing. -/
theorem authority_authority {address : List Char} (h : PortClear address) (p q : UInt16) :
    authority (authority address p) q = authority address p :=
  (h.settled_authority p).authority_eq q

/-- A host name keeps its port as it is written, and a scope stays with its address. -/
theorem authority_authority_signed :
    authority (authority "worker-1:+080".toList 9999) 1 = "worker-1:+080".toList ∧
      authority (authority "[FE80::1%3]:080".toList 9999) 1 = "[fe80::1%3]:80".toList := by
  have named : PortClear ("worker-1".toList ++ ':' :: "+080".toList) :=
    .withPort (by decide) (by decide)
  have inScope : PortClear "[FE80::1%3]:080".toList := .socket (by decide +kernel)
  exact ⟨(authority_authority named 9999 1).trans (by decide +kernel),
    (authority_authority inScope 9999 1).trans (by decide +kernel)⟩

end FabricSurvey
