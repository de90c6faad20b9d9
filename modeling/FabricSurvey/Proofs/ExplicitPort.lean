import FabricSurvey.Proofs.Hosts
import FabricSurvey.Proofs.Spelling

/-!
# Explicit ports

A management address without brackets may carry a port behind a host name or an IPv4 address. Every text
that a number of sixteen bits is read from counts as a port, also one with a plus in front. Behind an IP
address the port is written anew, in decimal digits. Behind a host name it stays as it was written, and
with a plus in it there is no URL.
-/

namespace FabricSurvey

open Text

namespace Url

/-- Nothing in the text ends a host, opens a bracket or comes from credentials. -/
def Bare (text : List Char) : Prop := ∀ c ∈ text, c ∉ ":/?#\\@[".toList

theorem takeHost_bare {scheme host : List Char} (bare : Bare host) (text : List Char) :
    takeHost scheme false (host ++ ':' :: text) = (host, ':' :: text) := by
  induction host with
  | nil => simp [takeHost]
  | cons c host ih =>
      have ordinary := bare c List.mem_cons_self
      simp only [String.reduceToList, List.mem_cons, List.not_mem_nil, or_false, not_or] at ordinary
      have noBracket : (c == '[') = false := by simp [ordinary]
      have read := ih fun d hd => bare d (List.mem_cons_of_mem c hd)
      simp [takeHost, endsAuthority, ordinary, noBracket, read]

theorem exists_takePort? {scheme host port tail : List Char} {url : Url}
    (lookedUp : looksUp scheme = true) (bare : Bare host) (noAt : '@' ∉ port)
    (h : withAuthority? scheme (host ++ ':' :: (port ++ '/' :: tail)) = some url) :
    ∃ rest, takePort? scheme (':' :: (port ++ '/' :: tail)) = some (url.port, rest) ∧
      url.scheme = scheme := by
  have noCredentials : takeCredentials? scheme (host ++ ':' :: (port ++ '/' :: tail)) =
      some (⟨[], []⟩, host ++ ':' :: (port ++ '/' :: tail)) := by
    have noAt : '@' ∉ host ++ ':' :: port := by
      simpa [noAt] using fun sign => bare '@' sign (by decide)
    have whole : host ++ ':' :: (port ++ '/' :: tail) = host ++ ':' :: port ++ '/' :: tail := by simp
    rw [whole, takeCredentials?_of_not_mem noAt]
  simp only [withAuthority?, noCredentials, takeHost_bare bare, lookedUp, bind, Option.bind_some,
    if_true] at h
  obtain ⟨name, -, h⟩ := Option.bind_eq_some_iff.1 h
  split at h
  · cases h
  · obtain ⟨⟨taken, rest⟩, found, made⟩ := Option.bind_eq_some_iff.1 h
    obtain rfl := Option.some.inj made
    exact ⟨rest, found, rfl⟩

theorem takePort?_plus (scheme text : List Char) : takePort? scheme (':' :: '+' :: text) = none := by
  simp [takePort?, takeDigits, digit?]

theorem dialled_of_takePort? {scheme digits tail rest : List Char} {q : Nat} {port : Option Nat}
    (number : number? max16 digits = some q)
    (h : takePort? scheme (':' :: (digits ++ '/' :: tail)) = some (port, rest)) :
    digits.head? ≠ some '+' ∧ (port.or (usualPort? scheme)).getD 0 = q := by
  have noPlus : digits.head? ≠ some '+' := by
    intro plus
    obtain ⟨more, rfl⟩ := List.head?_eq_some_iff.1 plus
    rw [List.cons_append, takePort?_plus] at h
    cases h
  refine ⟨noPlus, ?_⟩
  have stop : NoDigit 10 ('/' :: tail) := noDigit_cons (by decide) (by decide) tail
  have taken := number?_eq_some_iff.1 number
  rw [unsigned_of_head? noPlus] at taken
  obtain ⟨some_digits, value⟩ := digits_of_takeNumber? taken
  have fits := number?_le number
  have nonempty : (takeDigits 10 digits).1.isEmpty = false := List.isEmpty_eq_false_iff.2 some_digits
  rw [takePort?, takeDigits_append stop, (takeNumber?_eq_some taken).1] at h
  simp only [value, nonempty, Nat.not_lt.2 fits, Bool.false_or, decide_false] at h
  split at h
  · cases h
  · split at h
    · rename_i usual
      obtain ⟨rfl, -⟩ := Prod.mk.inj (Option.some.inj h)
      rw [Option.none_or, beq_iff_eq.1 usual, Option.getD_some]
    · obtain ⟨rfl, -⟩ := Prod.mk.inj (Option.some.inj h)
      rfl

theorem bare_chars (ip : IPv4) : Bare ip.chars := by
  have literals : ∀ c ∈ ":/?#\\@[".toList, IsLiteral c → c = ':' := by simp [IsLiteral, digit?]
  intro c hc reserved
  have address : IPAddress.parse? ip.chars = some (.v4 ip) := IPAddress.parse?_chars (.v4 ip)
  obtain rfl := literals c reserved (IPAddress.isLiteral_of_parse? address c hc)
  exact ip.colon_not_mem_chars hc

theorem withoutBreaks_of_number? {digits : List Char} {q : Nat}
    (number : number? max16 digits = some q) : withoutBreaks digits = digits := by
  refine List.filter_eq_self.2 fun c hc => ?_
  have noBreak : ∀ c ∈ "\t\n\r".toList, c ≠ '+' ∧ digit? 10 c = none := by simp [digit?]
  have ordinary : c ∉ "\t\n\r".toList := fun isBreak =>
    not_mem_of_number? number (noBreak c isBreak).1 (noBreak c isBreak).2 hc
  simpa [isBreak, and_assoc] using ordinary

theorem dialled_of_parse? {host digits tail : List Char} {q : Nat} {url : Url} (bare : Bare host)
    (number : number? max16 digits = some q)
    (h : parse? ("http://".toList ++ host ++ ':' :: digits ++ '/' :: tail) = some url) :
    digits.head? ≠ some '+' ∧ url.dialledPort = q := by
  have noSlash : ∀ c ∈ host, isSlash c = false := by
    intro c hc
    have ordinary := bare c hc
    simp only [String.reduceToList, List.mem_cons, List.not_mem_nil, or_false, not_or] at ordinary
    simp [isSlash, ordinary]
  obtain ⟨kept, read⟩ := exists_parse?_http noSlash digits tail
  rw [read, withoutBreaks_of_number? number] at h
  have bare : Bare (withoutBreaks host) := fun c hc => bare c (List.mem_filter.1 hc).1
  have noAt : '@' ∉ digits := not_mem_of_number? number (by decide) (by decide)
  obtain ⟨rest, taken, scheme⟩ := exists_takePort? (by decide) bare noAt h
  obtain ⟨noPlus, dialled⟩ := dialled_of_takePort? number taken
  rw [dialledPort, scheme]
  exact ⟨noPlus, dialled⟩

end Url

theorem authority_explicit {host digits : List Char} {q : Nat} (noColon : ':' ∉ host)
    (number : number? max16 digits = some q) (port : UInt16) :
    (∃ ip : IPv4, IPAddress.parse? (unbracket host) = some (.v4 ip) ∧
      authority (host ++ ':' :: digits) port = ip.chars ++ ':' :: decimal q) ∨
    (IPAddress.parse? (unbracket host) = none ∧
      authority (host ++ ':' :: digits) port = host ++ ':' :: digits) := by
  have small : q < UInt16.size := Nat.lt_succ_of_le (number?_le number)
  cases address : IPAddress.parse? (unbracket host) with
  | none => exact .inr ⟨rfl, (Settled.named noColon number address).authority_eq port⟩
  | some ip =>
      left
      have noColon : ':' ∉ unbracket host := by
        rcases unbracket_eq_or host with same | bracketed
        · rwa [same]
        · exact fun colon => noColon (by rw [bracketed]; simp [colon])
      obtain ⟨ip, rfl, same⟩ := IPAddress.eq_chars_of_not_mem address noColon
      have dialled : (SocketAddress.of (.v4 ip) (UInt16.ofNat q)).chars = ip.chars ++ ':' :: decimal q := by
        rw [SocketAddress.of, SocketAddress.chars, UInt16.toNat_ofNat_of_lt' small]
      refine ⟨ip, rfl, ?_⟩
      rw [← dialled]
      rcases unbracket_eq_or host with bare | bracketed
      · rw [← bare, same]
        exact authority_v4_withPort ip number port
      · have read := authority_withPort address number port
        rw [bracketed]
        simpa using read

theorem Network.exists_parse?_of_sendable {url : String} {sent : Url} (h : sendable url = .ok sent) :
    ∃ parsed, Url.parse? url.toList = some parsed ∧ sent.dialledPort = parsed.dialledPort := by
  unfold sendable at h
  split at h
  · cases h
  · rename_i parsed found
    refine ⟨parsed, found, ?_⟩
    dsimp only at h
    split at h
    · obtain rfl := Except.ok.inj h
      unfold Url.withoutCredentials
      split <;> rfl
    · cases h

theorem CollectionSettings.exists_endpoint {settings : CollectionSettings} {category : Category}
    {address dialled : List Char} (scheme : settings.scheme = "http")
    (slash : (settings.path category).toList.head? = some '/')
    (h : authority address settings.agentPort = dialled) :
    ∃ tail, (settings.endpoint (String.ofList address) category).toList =
      "http://".toList ++ dialled ++ '/' :: tail := by
  obtain ⟨tail, path⟩ := List.head?_eq_some_iff.1 slash
  refine ⟨tail, ?_⟩
  rw [endpoint, String.toList_ofList, h, scheme]
  simp [path]

theorem CollectionSettings.asked_at_explicit_port {settings : CollectionSettings} {category : Category}
    {host digits : List Char} {q : Nat} (noColon : ':' ∉ host)
    (number : number? max16 digits = some q) (scheme : settings.scheme = "http")
    (slash : (settings.path category).toList.head? = some '/')
    (named : (IPAddress.parse? (unbracket host)).isSome ∨ Url.Bare host) :
    let url := settings.endpoint (String.ofList (host ++ ':' :: digits)) category
    (∀ sent, Network.sendable url = .ok sent → sent.dialledPort = q) ∧
      (IPAddress.parse? (unbracket host) = none → digits.head? = some '+' →
        ∀ network : Network, network.fetch url category = .failed builderReason) := by
  intro url
  obtain ⟨front, written, dialled, bare, value, kept⟩ : ∃ front written,
      authority (host ++ ':' :: digits) settings.agentPort = front ++ ':' :: written ∧
        Url.Bare front ∧ number? max16 written = some q ∧
        (IPAddress.parse? (unbracket host) = none → written = digits) := by
    rcases authority_explicit noColon number settings.agentPort with
      ⟨ip, address, dialled⟩ | ⟨noAddress, dialled⟩
    · have value : number? max16 (decimal q) = some q := number?_decimal (number?_le number)
      exact ⟨ip.chars, decimal q, dialled, Url.bare_chars ip, value, by simp [address]⟩
    · exact ⟨host, digits, dialled, by simpa [noAddress] using named, number, fun _ => rfl⟩
  obtain ⟨tail, whole⟩ := exists_endpoint scheme slash dialled
  have read (parsed : Url) (found : Url.parse? url.toList = some parsed) :
      written.head? ≠ some '+' ∧ parsed.dialledPort = q := by
    rw [whole, ← List.append_assoc] at found
    exact Url.dialled_of_parse? bare value found
  refine ⟨fun sent sendable => ?_, fun noAddress plus network => ?_⟩
  · obtain ⟨parsed, found, same⟩ := Network.exists_parse?_of_sendable sendable
    rw [same]
    exact (read parsed found).2
  · have none : Url.parse? url.toList = none := by
      rw [Option.eq_none_iff_forall_ne_some]
      intro parsed found
      exact (read parsed found).1 (by rw [kept noAddress, plus])
    rw [Network.fetch, Network.sendable, none]
    rfl

/-- A port that is read from a text ends the authority with the same value, in decimal digits unless it
stands with a plus behind a host name. An agent that is asked is asked at that port, and one whose port
has kept its plus is not asked at all, whatever the network. -/
theorem explicit_port_dialled_unless_signed {host digits : List Char} {q : Nat}
    (noColon : ':' ∉ host) (number : number? max16 digits = some q) :
    (∀ port, ∃ front written, authority (host ++ ':' :: digits) port = front ++ ':' :: written ∧
      written ≠ [] ∧ number? max16 written = some q ∧
      ((∀ c ∈ written, c.isDigit) ↔
        (IPAddress.parse? (unbracket host)).isSome ∨ digits.head? ≠ some '+')) ∧
    ∀ (settings : CollectionSettings) (category : Category), settings.scheme = "http" →
      (settings.path category).toList.head? = some '/' →
      (IPAddress.parse? (unbracket host)).isSome ∨ Url.Bare host →
      let url := settings.endpoint (String.ofList (host ++ ':' :: digits)) category
      (∀ sent, Network.sendable url = .ok sent → sent.dialledPort = q) ∧
        (IPAddress.parse? (unbracket host) = none → digits.head? = some '+' →
          ∀ network : Network, network.fetch url category = .failed builderReason) := by
  refine ⟨fun port => ?_, fun settings category =>
    CollectionSettings.asked_at_explicit_port noColon number⟩
  rcases authority_explicit noColon number port with ⟨ip, address, dialled⟩ | ⟨noAddress, dialled⟩
  · refine ⟨ip.chars, decimal q, dialled, Nat.toDigits_ne_nil, ?_, ?_⟩
    · exact number?_decimal (number?_le number)
    · have digits := isDigit_of_mem_decimal (n := q)
      simpa [address] using digits
  · refine ⟨host, digits, dialled, ?_, number, ?_⟩
    · rintro rfl
      cases number
    · simpa [noAddress] using all_isDigit_iff_of_number? number

/-- Behind a host name a port with leading zeros is dialled as it stands, one with a plus not at all. -/
theorem explicit_port_dialled_unless_signed_named :
    (∃ front written, authority "worker-1:0080".toList 9999 = front ++ ':' :: written ∧
      written ≠ [] ∧ (∀ c ∈ written, c.isDigit) ∧ number? max16 written = some 80) ∧
    (∀ sent, Network.sendable (CollectionSettings.endpoint {} "worker-1:0080" .liveness) = .ok sent →
      sent.dialledPort = 80) ∧
    ∀ network : Network, network.fetch (CollectionSettings.endpoint {} "worker-1:+80" .liveness)
      .liveness = .failed builderReason := by
  have noColon : ':' ∉ "worker-1".toList := by decide
  have bare : Url.Bare "worker-1".toList := by simp [Url.Bare]
  have noAddress : IPAddress.parse? (unbracket "worker-1".toList) = none := by decide +kernel
  have slash : (CollectionSettings.path {} .liveness).toList.head? = some '/' := by decide +kernel
  have zeros : number? max16 "0080".toList = some 80 := by decide
  have signed : number? max16 "+80".toList = some 80 := by decide
  obtain ⟨dialled, asked⟩ := explicit_port_dialled_unless_signed noColon zeros
  refine ⟨?_, (asked {} .liveness rfl slash (.inr bare)).1, ?_⟩
  · obtain ⟨front, written, dialled, nonempty, value, inDigits⟩ := dialled 9999
    exact ⟨front, written, dialled, nonempty, inDigits.2 (.inr (by decide)), value⟩
  · obtain ⟨-, asked⟩ := explicit_port_dialled_unless_signed noColon signed
    exact (asked {} .liveness rfl slash (.inr bare)).2 noAddress rfl

/-- So it is not true that an authority always ends with the digits of the port. -/
theorem not_every_explicit_port_in_digits :
    ¬ ∀ (host digits : List Char) (q : Nat) (port : UInt16), ':' ∉ host →
      number? max16 digits = some q → ∃ front written,
        authority (host ++ ':' :: digits) port = front ++ ':' :: written ∧ written ≠ [] ∧
          (∀ c ∈ written, c.isDigit) ∧ number? max16 written = some q := by
  intro claim
  obtain ⟨front, written, dialled, -, inDigits, value⟩ :=
    claim "worker-1".toList "+80".toList 80 9999 (by decide) (by decide)
  have split : splitLast? ':' (authority "worker-1:+80".toList 9999) =
      some ("worker-1".toList, "+80".toList) := by decide +kernel
  have last := splitLast?_withPort value front
  rw [← dialled] at last
  obtain ⟨-, rfl⟩ := Prod.mk.inj (Option.some.inj (split.symm.trans last))
  exact absurd (inDigits '+' (by decide)) (by decide)

end FabricSurvey
