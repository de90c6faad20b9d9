import FabricSurvey.Json.Shaped

/-!
# Nodes

A cluster member and everything collected about it: what its agent says of itself, the interfaces of
its data plane, bridge domains and forwarding entries, counters, and what it has learned by ARP. The
categories are filled independently of each other; what could not be fetched is empty.

An agent serves its ARP table as a list or as a table with text keys. Either is read only after the
whole text has been found to be sound JSON, and a text that is neither gives one error that does not
say why.
-/

namespace FabricSurvey

open Json
open Std (ExtTreeMap)

structure Identity where
  id : UInt32
  name : String
  /-- The data-plane address, which may be unknown. -/
  ipAddress : String
  /-- The address at which the node's agent is polled. -/
  managementAddress : String
  deriving DecidableEq, Repr

instance : Shaped Identity where
  shape := .record "NodeIdentity" <|
    .cons "id" .required .word <|
    .cons "name" .required .text <|
    .cons "ip_address" .defaulted .text <|
    .cons "management_ip_address" .required .text .nil
  ofData := fun (id, name, ip, management, ()) => ⟨id, name, ip, management⟩
  toData i := (i.id, i.name, i.ipAddress, i.managementAddress, ())
  ofData_toData _ := rfl
  toData_ofData _ := rfl

structure Liveness where
  buildVersion : String
  buildDate : String
  state : UInt32
  startTime : UInt32
  lastChange : UInt32
  lastUpdate : UInt32
  commitHash : String
  deriving DecidableEq, Repr

instance : Shaped Liveness where
  shape := .record "NodeLiveness" <|
    .cons "build_version" .defaulted .text <|
    .cons "build_date" .defaulted .text <|
    .cons "state" .defaulted .word <|
    .cons "start_time" .defaulted .word <|
    .cons "last_change" .defaulted .word <|
    .cons "last_update" .defaulted .word <|
    .cons "commit_hash" .defaulted .text .nil
  ofData := fun (version, date, state, start, change, update, hash, ()) =>
    ⟨version, date, state, start, change, update, hash⟩
  toData l := (l.buildVersion, l.buildDate, l.state, l.startTime, l.lastChange, l.lastUpdate,
    l.commitHash, ())
  ofData_toData _ := rfl
  toData_ofData _ := rfl

/-- The endpoints and the network identifier of a VXLAN tunnel. -/
structure Tunnel where
  source : String
  destination : String
  network : UInt32
  deriving DecidableEq, Repr

structure Tap where
  version : UInt32
  hostName : String
  deriving DecidableEq, Repr

structure Interface where
  /-- The index that the interface goes by on its node. -/
  index : UInt32
  internalName : String
  name : String
  kind : UInt32
  enabled : Bool
  macAddress : String
  mtu : UInt32
  tunnel : Option Tunnel
  /-- Addresses with their prefix length, such as `192.168.30.1/24`. -/
  ipAddresses : List String
  tap : Option Tap
  deriving DecidableEq, Repr

instance : Shaped Tunnel where
  shape := .record "Vxlan" <|
    .cons "src_address" .defaulted .text <|
    .cons "dst_address" .defaulted .text <|
    .cons "vni" .defaulted .word .nil
  ofData := fun (source, destination, network, ()) => ⟨source, destination, network⟩
  toData t := (t.source, t.destination, t.network, ())
  ofData_toData _ := rfl
  toData_ofData _ := rfl

instance : Shaped Tap where
  shape := .record "Tap" <|
    .cons "version" .defaulted .word <|
    .cons "host_if_name" .defaulted .text .nil
  ofData := fun (version, hostName, ()) => ⟨version, hostName⟩
  toData t := (t.version, t.hostName, ())
  ofData_toData _ := rfl
  toData_ofData _ := rfl

instance : Shaped Interface where
  shape := .record "NodeInterface" <|
    .cons "if_index" .defaulted .word <|
    .cons "vpp_internal_name" .defaulted .text <|
    .cons "name" .defaulted .text <|
    .cons "type" .defaulted .word <|
    .cons "enabled" .defaulted .flag <|
    .cons "phys_address" .defaulted .text <|
    .cons "mtu" .defaulted .word <|
    .cons "vxlan" .omitted (Shaped.shape (Option Tunnel)) <|
    .cons "ip_addresses" .defaulted (Shaped.shape (List String)) <|
    .cons "tap" .omitted (Shaped.shape (Option Tap)) .nil
  ofData := fun (index, internalName, name, kind, enabled, mac, mtu, tunnel, ips, tap, ()) =>
    ⟨index, internalName, name, kind, enabled, mac, mtu, Shaped.ofData tunnel, Shaped.ofData ips,
      Shaped.ofData tap⟩
  toData i := (i.index, i.internalName, i.name, i.kind, i.enabled, i.macAddress, i.mtu,
    Shaped.toData i.tunnel, Shaped.toData i.ipAddresses, Shaped.toData i.tap, ())
  ofData_toData i := by simp only [Shaped.ofData_toData]
  toData_ofData i := by simp only [Shaped.toData_ofData]

def findInterface (interfaces : List Interface) (index : UInt32) : Option Interface :=
  interfaces.find? (·.index == index)

/-- The first interface with an internal name. -/
def findInternal (interfaces : List Interface) (name : String) : Option Interface :=
  interfaces.find? (·.internalName == name)

structure BridgeMember where
  interfaceIndex : UInt32
  deriving DecidableEq, Repr

structure BridgeDomain where
  /-- The index that the bridge domain goes by on its node. -/
  index : UInt32
  members : List BridgeMember
  name : String
  forwards : Bool
  deriving DecidableEq, Repr

/-- An entry of a node's layer-2 forwarding table. -/
structure L2Entry where
  bridgeDomain : UInt32
  outgoingInterface : UInt32
  macAddress : String
  isStatic : Bool
  isBridgedVirtual : Bool
  deriving DecidableEq, Repr

instance : Shaped BridgeMember where
  shape := .record "BridgeDomainInterface" <| .cons "sw_if_index" .defaulted .word .nil
  ofData := fun (index, ()) => ⟨index⟩
  toData m := (m.interfaceIndex, ())
  ofData_toData _ := rfl
  toData_ofData _ := rfl

instance : Shaped BridgeDomain where
  shape := .record "NodeBridgeDomain" <|
    .cons "bd_index" .defaulted .word <|
    .cons "interfaces" .defaulted (Shaped.shape (List BridgeMember)) <|
    .cons "name" .defaulted .text <|
    .cons "forward" .defaulted .flag .nil
  ofData := fun (index, members, name, forwards, ()) =>
    ⟨index, Shaped.ofData members, name, forwards⟩
  toData d := (d.index, Shaped.toData d.members, d.name, d.forwards, ())
  ofData_toData d := by simp only [Shaped.ofData_toData]
  toData_ofData d := by simp only [Shaped.toData_ofData]

instance : Shaped L2Entry where
  shape := .record "NodeL2Fib" <|
    .cons "bridge_domain_idx" .defaulted .word <|
    .cons "outgoing_interface_sw_if_idx" .defaulted .word <|
    .cons "phys_address" .defaulted .text <|
    .cons "static_config" .defaulted .flag <|
    .cons "bridged_virtual_interface" .defaulted .flag .nil
  ofData := fun (domain, outgoing, mac, isStatic, isBridgedVirtual, ()) =>
    ⟨domain, outgoing, mac, isStatic, isBridgedVirtual⟩
  toData e := (e.bridgeDomain, e.outgoingInterface, e.macAddress, e.isStatic, e.isBridgedVirtual, ())
  ofData_toData _ := rfl
  toData_ofData _ := rfl

/-- How often a graph node of the data plane saw something, and what it was. -/
structure Counter where
  nodeName : String
  count : Int64
  reason : String
  deriving DecidableEq, Repr

structure CommandOutput where
  command : String
  counters : List Counter
  deriving DecidableEq, Repr

structure Telemetry where
  command : String
  outputs : List CommandOutput
  deriving DecidableEq, Repr

instance : Shaped Counter where
  shape := .record "TelemetryOutputEntry" <|
    .cons "node_name" .defaulted .text <|
    .cons "count" .defaulted .count <|
    .cons "reason" .defaulted .text .nil
  ofData := fun (nodeName, count, reason, ()) => ⟨nodeName, count, reason⟩
  toData c := (c.nodeName, c.count, c.reason, ())
  ofData_toData _ := rfl
  toData_ofData _ := rfl

instance : Shaped CommandOutput where
  shape := .record "TelemetryOutput" <|
    .cons "command" .defaulted .text <|
    .cons "output" .defaulted (Shaped.shape (List Counter)) .nil
  ofData := fun (command, counters, ()) => ⟨command, Shaped.ofData counters⟩
  toData o := (o.command, Shaped.toData o.counters, ())
  ofData_toData o := by simp only [Shaped.ofData_toData]
  toData_ofData o := by simp only [Shaped.toData_ofData]

instance : Shaped Telemetry where
  shape := .record "NodeTelemetry" <|
    .cons "command" .defaulted .text <|
    .cons "output" .defaulted (Shaped.shape (List CommandOutput)) .nil
  ofData := fun (command, outputs, ()) => ⟨command, Shaped.ofData outputs⟩
  toData t := (t.command, Shaped.toData t.outputs, ())
  ofData_toData t := by simp only [Shaped.ofData_toData]
  toData_ofData t := by simp only [Shaped.toData_ofData]

/-- What a node has learned on an interface: the hardware address behind an IP address. -/
structure ArpEntry where
  interfaceIndex : UInt32
  ipAddress : String
  macAddress : String
  isStatic : Bool
  deriving DecidableEq, Repr

instance : Shaped ArpEntry where
  shape := .record "NodeIpArp" <|
    .cons "interface" .defaulted .word <|
    .cons "IPAddress" .defaulted .text <|
    .cons "MacAddress" .defaulted .text <|
    .cons "Static" .defaulted .flag .nil
  ofData := fun (index, ip, mac, isStatic, ()) => ⟨index, ip, mac, isStatic⟩
  toData e := (e.interfaceIndex, e.ipAddress, e.macAddress, e.isStatic, ())
  ofData_toData _ := rfl
  toData_ofData _ := rfl

inductive ArpTable where
  | list (entries : List ArpEntry)
  | keyed (entries : ExtTreeMap String ArpEntry)
  deriving DecidableEq

/-- Reads an ARP table in either form. -/
def ArpTable.decode (draft : Draft) : Except Error ArpTable := do
  faultless (draft.check Draft.maxDepth)
  match Json.decode (List ArpEntry) draft, decodeTable String ArpEntry draft with
  | .ok entries, _ => .ok (.list entries)
  | .error _, .ok entries => .ok (.keyed entries)
  | .error _, .error _ => .error (.noForm "ArpTable")

structure Node where
  id : UInt32
  name : String
  ipAddress : String
  managementAddress : String
  liveness : Option Liveness
  /-- In ascending order of their indices. -/
  interfaces : List Interface
  /-- In ascending order of their indices. -/
  bridgeDomains : List BridgeDomain
  /-- In the order of the keys they were served under. -/
  l2Entries : List L2Entry
  /-- In the order of the keys they were served under. -/
  telemetry : List Telemetry
  arpEntries : List ArpEntry
  deriving DecidableEq, Repr

instance : Shaped Node where
  shape := .record "Node" <|
    .cons "id" .required .word <|
    .cons "name" .required .text <|
    .cons "ip_address" .required .text <|
    .cons "management_ip_address" .required .text <|
    .cons "liveness" .required (Shaped.shape (Option Liveness)) <|
    .cons "interfaces" .required (Shaped.shape (List Interface)) <|
    .cons "bridge_domains" .required (Shaped.shape (List BridgeDomain)) <|
    .cons "l2_fibs" .required (Shaped.shape (List L2Entry)) <|
    .cons "telemetry" .required (Shaped.shape (List Telemetry)) <|
    .cons "ip_arps" .required (Shaped.shape (List ArpEntry)) .nil
  ofData := fun (id, name, ip, management, liveness, interfaces, domains, l2, telemetry, arps, ()) =>
    ⟨id, name, ip, management, Shaped.ofData liveness, Shaped.ofData interfaces,
      Shaped.ofData domains, Shaped.ofData l2, Shaped.ofData telemetry, Shaped.ofData arps⟩
  toData n := (n.id, n.name, n.ipAddress, n.managementAddress, Shaped.toData n.liveness,
    Shaped.toData n.interfaces, Shaped.toData n.bridgeDomains, Shaped.toData n.l2Entries,
    Shaped.toData n.telemetry, Shaped.toData n.arpEntries, ())
  ofData_toData n := by simp only [Shaped.ofData_toData]
  toData_ofData n := by simp only [Shaped.toData_ofData]

namespace Node

def ofIdentity (identity : Identity) : Node :=
  { id := identity.id
    name := identity.name
    ipAddress := identity.ipAddress
    managementAddress := identity.managementAddress
    liveness := none
    interfaces := []
    bridgeDomains := []
    l2Entries := []
    telemetry := []
    arpEntries := [] }

def interface? (node : Node) (index : UInt32) : Option Interface :=
  findInterface node.interfaces index

def internal? (node : Node) (name : String) : Option Interface :=
  findInternal node.interfaces name

end Node

end FabricSurvey
