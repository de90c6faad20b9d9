import FabricSurvey.Address.IP
import FabricSurvey.Text.Split

/-!
# Socket addresses and authorities

An IP address of either version with a port, version 6 in brackets and possibly with a scope.

The authority is the host and the port of an agent's URL. A management address that carries a port
keeps it; any other one gets the port that all agents share. An IP address is put into its canonical
form, whether or not it was written in brackets.
-/

namespace FabricSurvey

open Text

inductive IPAddress where
  | v4 (ip : IPv4)
  | v6 (ip : IPv6)
  deriving DecidableEq, Repr

namespace IPAddress

def parse? (text : List Char) : Option IPAddress :=
  match IPv4.take? text with
  | some (ip, []) => some (.v4 ip)
  | some _ => none
  | none =>
    match IPv6.take? text with
    | some (ip, []) => some (.v6 ip)
    | _ => none

def chars : IPAddress → List Char
  | .v4 ip => ip.chars
  | .v6 ip => ip.chars

end IPAddress

inductive SocketAddress where
  | v4 (ip : IPv4) (port : UInt16)
  | v6 (ip : IPv6) (scope : UInt32) (port : UInt16)
  deriving DecidableEq, Repr

namespace SocketAddress

def of (ip : IPAddress) (port : UInt16) : SocketAddress :=
  match ip with
  | .v4 ip => .v4 ip port
  | .v6 ip => .v6 ip 0 port

def port : SocketAddress → UInt16
  | .v4 _ port => port
  | .v6 _ _ port => port

/-- The port at the end of a text, after its colon. -/
def portAtEnd? : List Char → Option UInt16
  | ':' :: text =>
    match takeNumber? 10 max16 text with
    | some (port, []) => some (UInt16.ofNat port)
    | _ => none
  | _ => none

/-- The scope in front of a text, zero where there is none. -/
def takeScope (text : List Char) : UInt32 × List Char :=
  match text with
  | '%' :: digits =>
    match takeNumber? 10 max32 digits with
    | some (scope, rest) => (UInt32.ofNat scope, rest)
    | none => (0, text)
  | _ => (0, text)

def parseV4? (text : List Char) : Option SocketAddress := do
  let (ip, rest) ← IPv4.take? text
  return .v4 ip (← portAtEnd? rest)

def parseV6? : List Char → Option SocketAddress
  | '[' :: text => do
    let (ip, rest) ← IPv6.take? text
    let (scope, rest) := takeScope rest
    match rest with
    | ']' :: rest => return .v6 ip scope (← portAtEnd? rest)
    | _ => none
  | _ => none

def parse? (text : List Char) : Option SocketAddress := (parseV4? text).or (parseV6? text)

def chars : SocketAddress → List Char
  | .v4 ip port => ip.chars ++ ':' :: decimal port.toNat
  | .v6 ip scope port =>
    '[' :: ip.chars ++ (if scope = 0 then [] else '%' :: decimal scope.toNat) ++ ']' :: ':' ::
      decimal port.toNat

end SocketAddress

/-- A text without the one pair of brackets around it. -/
def unbracket (text : List Char) : List Char :=
  match text with
  | '[' :: inner =>
    match splitLast? ']' inner with
    | some (host, []) => host
    | _ => text
  | _ => text

/-- What a text that ends in a colon and a port is dialled as: an IP address, in brackets or not, or a
host name without a colon of its own. -/
def explicitPort? (address : List Char) : Option (List Char) := do
  let (host, port) ← splitLast? ':' address
  let port ← number? max16 port
  match IPAddress.parse? (unbracket host) with
  | some ip => return (SocketAddress.of ip (UInt16.ofNat port)).chars
  | none => if ':' ∈ host then none else return address

/-- The host and port at which the agent of a management address is polled. -/
def authority (address : List Char) (port : UInt16) : List Char :=
  match SocketAddress.parse? address with
  | some socket => socket.chars
  | none =>
    match IPAddress.parse? (unbracket address) with
    | some ip => (SocketAddress.of ip port).chars
    | none => (explicitPort? address).getD (address ++ ':' :: decimal port.toNat)

end FabricSurvey
