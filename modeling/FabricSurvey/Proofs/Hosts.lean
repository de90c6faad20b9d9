import FabricSurvey.Collection.Network
import FabricSurvey.Proofs.Dialling

/-!
# Hosts of agents

What stands in front of the port in the URL of an agent. There is something exactly if there is a
management address, and a line is also read as an identity without one: only the text after the name must
not be empty, and a colon in front of the data address is enough for that. The agent of such an identity is
never asked anything.
-/

namespace FabricSurvey

open Text

theorem SocketAddress.exists_host (socket : SocketAddress) :
    ∃ host, host ≠ [] ∧ socket.chars = host ++ ':' :: decimal socket.port.toNat := by
  cases socket with
  | v4 ip port =>
      refine ⟨ip.chars, ?_, rfl⟩
      rw [IPv4.chars]
      simp
  | v6 ip scope port =>
      exact ⟨'[' :: ip.chars ++ (if scope = 0 then [] else '%' :: decimal scope.toNat) ++ [']'],
        by simp, by simp [chars, SocketAddress.port]⟩

theorem Dials.exists_host {agentPort : UInt16} {text management dialled : List Char}
    (h : Dials agentPort text management dialled) :
    ∃ (host : List Char) (port : UInt16), dialled = host ++ ':' :: decimal port.toNat ∧
      (host = [] ↔ management = []) := by
  cases h with
  | @bracketed _ _ _ ip port address kept =>
      obtain ⟨host, ne_nil, dialled⟩ := (SocketAddress.of ip port).exists_host
      exact ⟨host, _, dialled, by simp [ne_nil]⟩
  | bare plain noColon => exact ⟨management, agentPort, rfl, Iff.rfl⟩

namespace Url

/-- Of a text that starts with no blank, only what stands behind its last character that is none is
trimmed. -/
theorem exists_trimmed {first last : Char} (middle tail : List Char) (hfirst : 0x20 < first.toNat)
    (hlast : 0x20 < last.toNat) :
    ∃ kept, trimmed (first :: (middle ++ last :: tail)) = first :: (middle ++ last :: kept) := by
  have fromBehind : (first :: (middle ++ last :: tail)).reverse =
      tail.reverse ++ last :: (first :: middle).reverse := by simp
  rw [trimmed, List.dropWhile_cons_of_neg (by simpa using hfirst), fromBehind, List.dropWhile_append]
  split
  · rw [List.dropWhile_cons_of_neg (by simpa using hlast)]
    exact ⟨[], by simp⟩
  · exact ⟨(tail.reverse.dropWhile (·.toNat ≤ 0x20)).reverse, by simp⟩

theorem mem_of_mem_takeWhile {p : Char → Bool} {c stop : Char} {front tail : List Char}
    (stops : p stop = false) (h : c ∈ (front ++ stop :: tail).takeWhile p) : c ∈ front := by
  rw [List.takeWhile_append, List.takeWhile_cons_of_neg (Bool.eq_false_iff.1 stops),
    List.append_nil] at h
  split at h
  · exact h
  · exact (List.takeWhile_prefix p).subset h

theorem takeCredentials?_of_not_mem {scheme front : List Char} (noAt : '@' ∉ front)
    (tail : List Char) :
    takeCredentials? scheme (front ++ '/' :: tail) = some (⟨[], []⟩, front ++ '/' :: tail) := by
  have none : splitLast? '@' ((front ++ '/' :: tail).takeWhile
      fun c => !endsAuthority scheme c) = none :=
    splitLast?_eq_none_iff.2 fun sign => noAt (mem_of_mem_takeWhile rfl sign)
  simp only [takeCredentials?, none]

theorem withAuthority?_hostless {scheme port : List Char} (lookedUp : looksUp scheme = true)
    (noAt : '@' ∉ port) (tail : List Char) :
    withAuthority? scheme (':' :: (port ++ '/' :: tail)) = none := by
  have noCredentials : takeCredentials? scheme (':' :: (port ++ '/' :: tail)) =
      some (⟨[], []⟩, ':' :: (port ++ '/' :: tail)) := by
    have noAt : '@' ∉ ':' :: port := by simp [noAt]
    exact takeCredentials?_of_not_mem noAt tail
  have noHost : takeHost scheme false (':' :: (port ++ '/' :: tail)) =
      ([], ':' :: (port ++ '/' :: tail)) := by
    simp [takeHost]
  have nameless : Host.parse? [] = none := by decide +kernel
  simp only [withAuthority?, noCredentials, noHost, lookedUp, nameless, bind, Option.bind_some,
    if_true, Option.bind_none]

/-- What is read behind the scheme of a URL with a port. Breaks in it count for nothing, and blanks only
behind the start of the path. -/
theorem exists_parse?_http {host : List Char} (noSlash : ∀ c ∈ host, isSlash c = false)
    (port tail : List Char) :
    ∃ kept, parse? ("http://".toList ++ host ++ ':' :: port ++ '/' :: tail) =
      withAuthority? "http".toList
        (withoutBreaks host ++ ':' :: (withoutBreaks port ++ '/' :: kept)) := by
  obtain ⟨kept, trim⟩ := exists_trimmed ("ttp://".toList ++ host ++ ':' :: port) tail
    (by decide : 0x20 < 'h'.toNat) (by decide : 0x20 < '/'.toNat)
  refine ⟨withoutBreaks kept, ?_⟩
  have scheme : takeScheme? ("http".toList ++ ':' :: ("//".toList ++ host ++ ':' :: port ++ '/' :: kept)) =
      some ("http".toList, "//".toList ++ host ++ ':' :: port ++ '/' :: kept) := by
    have noColon : ':' ∉ "http".toList := by decide
    rw [takeScheme?, Identity.splitFirst?_append noColon]
    rfl
  have noSlash : ∀ c ∈ withoutBreaks host, isSlash c = false :=
    fun c hc => noSlash c (List.mem_filter.1 hc).1
  have authority : (withoutBreaks ("//".toList ++ host ++ ':' :: port ++ '/' :: kept)).dropWhile isSlash =
      withoutBreaks host ++ ':' :: (withoutBreaks port ++ '/' :: withoutBreaks kept) := by
    have parts : withoutBreaks ("//".toList ++ host ++ ':' :: port ++ '/' :: kept) =
        "//".toList ++ (withoutBreaks host ++ ':' :: (withoutBreaks port ++ '/' :: withoutBreaks kept)) := by
      simp [withoutBreaks, isBreak]
    rw [parts]
    change (withoutBreaks host ++ _).dropWhile isSlash = _
    cases found : withoutBreaks host with
    | nil => rfl
    | cons c text =>
        rw [found] at noSlash
        rw [List.cons_append, List.dropWhile_cons_of_neg (by simp [noSlash c List.mem_cons_self])]
  change parse? ('h' :: ("ttp://".toList ++ host ++ ':' :: port ++ '/' :: tail)) = _
  rw [parse?, trim]
  change (takeScheme? ("http".toList ++ ':' :: ("//".toList ++ host ++ ':' :: port ++ '/' :: kept))).bind _ = _
  rw [scheme, Option.bind_some]
  dsimp only
  rw [if_neg (by decide), authority, if_pos (by decide)]

theorem parse?_hostless {port : List Char} (noAt : '@' ∉ port) (tail : List Char) :
    parse? ("http://:".toList ++ port ++ '/' :: tail) = none := by
  have noSlash : ∀ c ∈ ([] : List Char), isSlash c = false := nofun
  obtain ⟨kept, read⟩ := exists_parse?_http noSlash port tail
  have noAt : '@' ∉ withoutBreaks port := fun sign => noAt (List.mem_filter.1 sign).1
  have hostless := withAuthority?_hostless (by decide : looksUp "http".toList = true) noAt kept
  exact read.trans hostless

end Url

theorem CollectionSettings.endpoint_hostless {settings : CollectionSettings} {category : Category}
    (scheme : settings.scheme = "http")
    (slash : (settings.path category).toList.head? = some '/') :
    Url.parse? (settings.endpoint "" category).toList = none := by
  obtain ⟨tail, path⟩ := List.head?_eq_some_iff.1 slash
  have noAt : '@' ∉ decimal settings.agentPort.toNat :=
    fun sign => absurd (isDigit_of_mem_decimal _ sign) (by decide)
  have bare : authority "".toList settings.agentPort = ':' :: decimal settings.agentPort.toNat :=
    authority_bare List.not_mem_nil nofun settings.agentPort
  have whole : (settings.endpoint "" category).toList =
      "http://:".toList ++ decimal settings.agentPort.toNat ++ '/' :: tail := by
    rw [endpoint, bare, scheme]
    simp [path]
  rw [whole, Url.parse?_hostless noAt]

/-- Every identity that is read has a name, but it may be without a management address: exactly if two
colons follow the name. In the URLs of its agent there is nothing in front of the port then, and the agent
is never asked, whatever the network. `host` is the text in front of the port, which need not be the host
of a URL: the management address may be `/` or `?`, and what is made of these is no URL either. -/
theorem Identity.hosted_iff_managed {text : String} {identity : Identity}
    (accepted : Identity.parse? text = some identity) :
    identity.name ≠ "" ∧
    (identity.managementAddress = "" ↔ ∃ digits, number? max32 digits.toList = some identity.id.toNat ∧
      text = digits ++ ":" ++ identity.name ++ "::" ++ identity.ipAddress) ∧
    ∀ (settings : CollectionSettings) (category : Category),
      (∃ (host : String) (port : UInt16), settings.endpoint identity.managementAddress category =
          settings.scheme ++ "://" ++ host ++ ":" ++ String.ofList (decimal port.toNat) ++
            settings.path category ∧
        (host = "" ↔ identity.managementAddress = "")) ∧
      (identity.managementAddress = "" → settings.scheme = "http" →
        (settings.path category).toList.head? = some '/' → ∀ network : Network,
          network.fetch (settings.endpoint identity.managementAddress category) category =
            .failed builderReason) := by
  obtain ⟨digits, rest, whole, line⟩ := Identity.parse?_eq_some_iff.1 accepted
  refine ⟨?_, ?_, fun settings category => ⟨?_, ?_⟩⟩
  · exact fun empty => line.named (String.toList_eq_nil_iff.2 empty)
  · rw [line.managementAddress_eq_empty_iff]
    constructor
    · rintro rfl
      refine ⟨String.ofList digits, ?_, ?_⟩
      · rw [String.toList_ofList]
        exact line.number
      · rw [← String.toList_inj, whole]
        simp
    · rintro ⟨otherDigits, number, same⟩
      refine line.rest_unique number ?_
      rw [← whole, same]
      simp
  · obtain ⟨host, port, dialled, hostless⟩ :=
      (dials_authority line.divided settings.agentPort).exists_host
    refine ⟨String.ofList host, port, ?_, ?_⟩
    · rw [CollectionSettings.endpoint, dialled, ← String.toList_inj]
      simp
    · rw [← String.toList_eq_nil_iff, String.toList_ofList, hostless, String.toList_eq_nil_iff]
  · intro blank scheme slash network
    rw [blank, Network.fetch, Network.sendable, CollectionSettings.endpoint_hostless scheme slash]
    rfl

theorem Identity.parse?_unmanaged :
    Identity.parse? "1:n::10.0.0.1" = some ⟨1, "n", "10.0.0.1", ""⟩ := by decide +kernel

/-- A line with a data address only is read, and its agent never asked. -/
theorem Identity.hosted_iff_managed_blank :
    CollectionSettings.endpoint {} "" .liveness = "http://:9999/liveness" ∧
      ∀ network : Network, network.fetch "http://:9999/liveness" .liveness = .failed builderReason := by
  have url : CollectionSettings.endpoint {} "" .liveness = "http://:9999/liveness" := by decide +kernel
  obtain ⟨-, -, polled⟩ := Identity.hosted_iff_managed Identity.parse?_unmanaged
  refine ⟨url, fun network => ?_⟩
  rw [← url]
  exact (polled {} .liveness).2 rfl rfl (by decide +kernel) network

theorem Identity.not_every_identity_managed :
    ¬ ∀ text identity, Identity.parse? text = some identity →
      identity.name ≠ "" ∧ identity.managementAddress ≠ "" := by
  intro claim
  exact (claim _ _ Identity.parse?_unmanaged).2 rfl

end FabricSurvey
