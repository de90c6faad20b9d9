import FabricSurvey.Proofs.Line
import FabricSurvey.Settings

/-!
# Dialling

What the management address of an identity is dialled as. Behind brackets the reader of lines and the
builder of URLs agree which port there is, also where they read it by different rules; without brackets
there is none, and every agent is dialled at the port of the settings.
-/

namespace FabricSurvey

open Text

theorem stops_bracket (text : List Char) : Stops (']' :: text) := by
  intro c hc
  obtain rfl := Option.some.inj hc
  decide

/-- No IP address starts with a bracket. -/
theorem plain_of_parse? {text : List Char} {ip : IPAddress} (h : IPAddress.parse? text = some ip) :
    text.head? ≠ some '[' := by
  intro bracket
  exact absurd (IPAddress.isLiteral_of_parse? h '[' (List.mem_of_mem_head? bracket)) (by decide)

theorem unbracket_of_plain {text : List Char} (plain : text.head? ≠ some '[') :
    unbracket text = text := by
  rw [unbracket]
  rintro inner rfl
  exact plain rfl

theorem SocketAddress.parseV6?_of_plain {text : List Char} (plain : text.head? ≠ some '[') :
    parseV6? text = none := by
  rw [parseV6?]
  rintro inner rfl
  exact plain rfl

theorem parse?_bracket (text : List Char) : IPAddress.parse? ('[' :: text) = none := by
  rw [Option.eq_none_iff_forall_ne_some]
  exact fun ip address => plain_of_parse? address rfl

theorem unbracket_bracketed (inner : List Char) : unbracket ('[' :: (inner ++ [']'])) = inner := by
  have split : splitLast? ']' (inner ++ [']']) = some (inner, []) :=
    splitLast?_eq_some_iff.2 ⟨rfl, List.not_mem_nil⟩
  rw [unbracket, split]

theorem unbracket_withPort {port : List Char} (h : ']' ∉ port) (inner : List Char) :
    unbracket ('[' :: (inner ++ ']' :: ':' :: port)) = '[' :: (inner ++ ']' :: ':' :: port) := by
  have split : splitLast? ']' (inner ++ ']' :: ':' :: port) = some (inner, ':' :: port) :=
    splitLast?_eq_some_iff.2 ⟨rfl, by simpa using h⟩
  rw [unbracket, split]

namespace SocketAddress

theorem parseV4?_bracket (text : List Char) : parseV4? ('[' :: text) = none := rfl

theorem exists_of_parseV4? {text : List Char} {socket : SocketAddress} (h : parseV4? text = some socket) :
    ∃ (ip : IPv4) (tail : List Char), text = ip.chars ++ ':' :: tail := by
  simp only [parseV4?, bind, Option.bind_eq_some_iff, Prod.exists] at h
  obtain ⟨ip, rest, taken, port, found, -⟩ := h
  unfold portAtEnd? at found
  split at found
  · exact ⟨ip, _, IPv4.eq_chars_append taken⟩
  · cases found

theorem parse?_bracketed {inner : List Char} {ip : IPAddress} (h : IPAddress.parse? inner = some ip)
    (suffix : List Char) :
    parse? ('[' :: (inner ++ ']' :: suffix)) = none ∨
      parse? ('[' :: (inner ++ ']' :: suffix)) = (portAtEnd? suffix).map (SocketAddress.of ip) := by
  have whole : IPv6.take? (inner ++ ']' :: suffix) = (IPv6.take? inner).map (behind (']' :: suffix)) :=
    IPv6.take?_append (stops_bracket suffix) inner
  rw [parse?, parseV4?_bracket, Option.none_or, parseV6?, whole]
  cases ip with
  | v4 ip4 =>
      have none := IPv6.take?_of_v4 (IPAddress.parse?_eq_v4_iff.1 h)
      rw [none]
      exact .inl rfl
  | v6 ip6 =>
      rw [IPAddress.parse?_eq_v6_iff.1 h]
      right
      change (portAtEnd? suffix).bind (fun port => some (SocketAddress.v6 ip6 0 port)) = _
      cases portAtEnd? suffix <;> rfl

theorem portAtEnd?_of_number? {port : List Char} {q : Nat} (h : number? max16 port = some q) :
    portAtEnd? (':' :: port) = none ∨ portAtEnd? (':' :: port) = some (UInt16.ofNat q) := by
  have signless := number?_eq_some_iff.1 h
  unfold unsigned at signless
  split at signless
  · exact .inl rfl
  · right
    rw [portAtEnd?, signless]

end SocketAddress

theorem explicitPort?_of_not_mem {address : List Char} (noColon : ':' ∉ address) :
    explicitPort? address = none := by
  rw [explicitPort?, splitLast?_eq_none_iff.2 noColon]
  rfl

theorem splitLast?_withPort {digits : List Char} {q : Nat} (number : number? max16 digits = some q)
    (host : List Char) : splitLast? ':' (host ++ ':' :: digits) = some (host, digits) :=
  splitLast?_eq_some_iff.2 ⟨rfl, Identity.colon_not_mem_of_number? number⟩

theorem explicitPort?_address {host digits : List Char} {q : Nat} {ip : IPAddress}
    (number : number? max16 digits = some q) (address : IPAddress.parse? (unbracket host) = some ip) :
    explicitPort? (host ++ ':' :: digits) = some (SocketAddress.of ip (UInt16.ofNat q)).chars := by
  simp only [explicitPort?, splitLast?_withPort number, number, bind, Option.bind_some, address]
  rfl

theorem authority_literal {inner : List Char} {ip : IPAddress} (h : IPAddress.parse? inner = some ip)
    (port : UInt16) : authority ('[' :: (inner ++ [']'])) port = (SocketAddress.of ip port).chars := by
  have noSocket : SocketAddress.parse? ('[' :: (inner ++ [']'])) = none := by
    rcases SocketAddress.parse?_bracketed h [] with none | none
    · exact none
    · exact none
  rw [authority, noSocket]
  simp only [unbracket_bracketed, h]

theorem authority_withPort {inner digits : List Char} {ip : IPAddress} {q : Nat}
    (h : IPAddress.parse? inner = some ip) (number : number? max16 digits = some q) (port : UInt16) :
    authority ('[' :: (inner ++ ']' :: ':' :: digits)) port =
      (SocketAddress.of ip (UInt16.ofNat q)).chars := by
  have noBracket : ']' ∉ digits := not_mem_of_number? number (by decide) (by decide)
  have explicit : explicitPort? ('[' :: (inner ++ ']' :: ':' :: digits)) =
      some (SocketAddress.of ip (UInt16.ofNat q)).chars := by
    have whole : '[' :: (inner ++ ']' :: ':' :: digits) = '[' :: (inner ++ [']']) ++ ':' :: digits := by
      simp
    rw [whole]
    exact explicitPort?_address number (by rw [unbracket_bracketed, h])
  have socket : SocketAddress.parse? ('[' :: (inner ++ ']' :: ':' :: digits)) = none ∨
      SocketAddress.parse? ('[' :: (inner ++ ']' :: ':' :: digits)) =
        some (SocketAddress.of ip (UInt16.ofNat q)) := by
    -- an address of version 4 or a plus makes it no socket address; the last colon finds the port then
    rcases SocketAddress.parse?_bracketed h (':' :: digits) with none | found
    · exact .inl none
    · rw [found]
      rcases SocketAddress.portAtEnd?_of_number? number with none | port
      · exact .inl (by rw [none]; rfl)
      · exact .inr (by rw [port]; rfl)
  rcases socket with none | found
  · rw [authority, none]
    simp only [unbracket_withPort noBracket, parse?_bracket, explicit, Option.getD_some]
  · rw [authority, found]

/-- Without a colon and a bracket there is no port in an address, and an IP address is in canonical form
already. -/
theorem authority_bare {host : List Char} (noColon : ':' ∉ host) (plain : host.head? ≠ some '[')
    (port : UInt16) : authority host port = host ++ ':' :: decimal port.toNat := by
  have noV4 : SocketAddress.parseV4? host = none := by
    rw [Option.eq_none_iff_forall_ne_some]
    intro socket found
    obtain ⟨ip, tail, rfl⟩ := SocketAddress.exists_of_parseV4? found
    exact noColon (List.mem_append_right _ List.mem_cons_self)
  rw [authority, SocketAddress.parse?, noV4, SocketAddress.parseV6?_of_plain plain, Option.none_or]
  simp only [unbracket_of_plain plain, explicitPort?_of_not_mem noColon, Option.getD_none]
  split
  · rename_i ip address
    obtain ⟨ip4, rfl, same⟩ := IPAddress.eq_chars_of_not_mem address noColon
    rw [same]
    rfl
  · rfl

/-- The port behind a closing bracket, or else another one. -/
def KeptPort (suffix : List Char) (port other : UInt16) : Prop :=
  suffix = [] ∧ port = other ∨
    ∃ digits, suffix = ':' :: digits ∧ number? max16 digits = some port.toNat

/-- What an agent is dialled as whose management address was divided from some text. If that text starts
with a bracket there is an IP address in it, dialled at the port that was kept; else nothing in the
management address is a port. -/
inductive Dials (agentPort : UInt16) : List Char → List Char → List Char → Prop
  | bracketed {inner after suffix : List Char} {ip : IPAddress} {port : UInt16}
      (address : IPAddress.parse? inner = some ip) (kept : KeptPort suffix port agentPort) :
      Dials agentPort ('[' :: (inner ++ ']' :: after)) ('[' :: (inner ++ ']' :: suffix))
        (SocketAddress.of ip port).chars
  | bare {text host : List Char} (plain : text.head? ≠ some '[') (noColon : ':' ∉ host) :
      Dials agentPort text host (host ++ ':' :: decimal agentPort.toNat)

theorem authority_bracketed {inner suffix after data : List Char} {ip : IPAddress}
    (h : IPAddress.parse? inner = some ip) (behind : Identity.AfterBracket after suffix data)
    (agentPort : UInt16) :
    ∃ port, KeptPort suffix port agentPort ∧
      authority ('[' :: (inner ++ ']' :: suffix)) agentPort = (SocketAddress.of ip port).chars := by
  cases behind with
  | noPort => exact ⟨agentPort, .inl ⟨rfl, rfl⟩, authority_literal h agentPort⟩
  | @port digits _ _ number =>
      obtain ⟨n, number⟩ := Option.isSome_iff_exists.1 number
      have small : n < UInt16.size := Nat.lt_succ_of_le (number?_le number)
      refine ⟨UInt16.ofNat n, .inr ⟨digits, rfl, ?_⟩, authority_withPort h number agentPort⟩
      rw [number, UInt16.toNat_ofNat_of_lt' small]

theorem dials_authority {text management data : List Char}
    (h : Identity.Divided text management data) (agentPort : UInt16) :
    Dials agentPort text management (authority management agentPort) := by
  cases h with
  | @bare _ tail _ plain noColon =>
      have plainHost : management.head? ≠ some '[' := by
        cases management with
        | nil => exact fun none => nomatch none
        | cons => exact plain
      rw [authority_bare noColon plainHost]
      exact .bare plain noColon
  | bracketed ip behind =>
      obtain ⟨ip, address⟩ := Option.isSome_iff_exists.1 ip
      obtain ⟨port, kept, dialled⟩ := authority_bracketed address behind agentPort
      rw [dialled]
      exact .bracketed address kept

/-- The reader of lines and the builder of URLs agree on the port: whatever line is accepted, its agent is
dialled at the port that the management address kept behind brackets, or else at that of the settings. -/
theorem Identity.dialled_at_kept_port {text : String} {identity : Identity}
    (accepted : Identity.parse? text = some identity) (settings : CollectionSettings)
    (category : Category) :
    ∃ digits rest dialled, text.toList = digits ++ ':' :: (identity.name.toList ++ ':' :: rest) ∧
      ':' ∉ digits ∧ ':' ∉ identity.name.toList ∧
      Dials settings.agentPort rest identity.managementAddress.toList dialled ∧
      settings.endpoint identity.managementAddress category =
        settings.scheme ++ "://" ++ String.ofList dialled ++ settings.path category := by
  obtain ⟨digits, rest, whole, line⟩ := Identity.parse?_eq_some_iff.1 accepted
  have noColon := Identity.colon_not_mem_of_number? line.number
  have dials := dials_authority line.divided settings.agentPort
  exact ⟨digits, rest, _, whole, noColon, line.noColon, dials, rfl⟩

/-- A port with a plus in front is kept, and dialled without it. -/
theorem Identity.dialled_at_kept_port_signed :
    ∃ digits rest dialled, "1:n:[10.0.0.1]:+080".toList = digits ++ ':' :: ("n".toList ++ ':' :: rest) ∧
      ':' ∉ digits ∧ ':' ∉ "n".toList ∧ Dials 9999 rest "[10.0.0.1]:+080".toList dialled ∧
      CollectionSettings.endpoint {} "[10.0.0.1]:+080" .liveness =
        "http" ++ "://" ++ String.ofList dialled ++ Category.liveness.defaultPath := by
  have accepted : Identity.parse? "1:n:[10.0.0.1]:+080" = some ⟨1, "n", "", "[10.0.0.1]:+080"⟩ := by
    decide +kernel
  exact Identity.dialled_at_kept_port accepted {} .liveness

end FabricSurvey
