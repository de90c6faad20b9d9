import FabricSurvey.Address.Socket
import FabricSurvey.Json.Shaped

/-!
# Categories and settings

An agent serves the state of its node in six categories, each under a path of its own. The settings
say how agents are reached and which categories are asked of them, and what the loopback check looks
for. Times are in milliseconds.
-/

namespace FabricSurvey

open Json

/-- One kind of state that an agent serves, in the order in which categories are listed. -/
inductive Category where
  | liveness
  | interfaces
  | bridgeDomains
  | l2Entries
  | telemetry
  | arp
  deriving DecidableEq, Repr, Inhabited

namespace Category

def all : List Category := [.liveness, .interfaces, .bridgeDomains, .l2Entries, .telemetry, .arp]

theorem mem_all (c : Category) : c ∈ all := by cases c <;> decide

/-- The categories collected unless told otherwise. -/
def standard : List Category := [.liveness, .interfaces, .bridgeDomains, .l2Entries, .arp]

def name : Category → String
  | .liveness => "liveness"
  | .interfaces => "interfaces"
  | .bridgeDomains => "bridge_domains"
  | .l2Entries => "l2_fibs"
  | .telemetry => "telemetry"
  | .arp => "ip_arp"

def defaultPath : Category → String
  | .liveness => "/liveness"
  | .interfaces => "/interfaces"
  | .bridgeDomains => "/bridgedomains"
  | .l2Entries => "/l2fibs"
  | .telemetry => "/telemetry"
  | .arp => "/arp"

def rank : Category → Nat
  | .liveness => 0
  | .interfaces => 1
  | .bridgeDomains => 2
  | .l2Entries => 3
  | .telemetry => 4
  | .arp => 5

def ofName? (name : String) : Option Category := all.find? (·.name == name)

theorem ofName?_name (c : Category) : ofName? c.name = some c := by cases c <;> decide

def named (name : String) : Except Error Category :=
  match ofName? name with
  | some category => .ok category
  | none => .error (.unknownVariant name (all.map Category.name))

/-- The category of an object whose opening brace has been seen: its only key is the name of the
category, and its value there is null. What is no quoted key is malformed, whatever value it begins. -/
def readObject (text : Bytes) : Except Error (Category × Bytes) :=
  match skipBlanks text with
  | Byte.quote :: text => do
    let (name, rest) ← readText text
    let category ← named name
    match skipBlanks rest with
    | Byte.colon :: rest =>
      let (value, rest) := Draft.read rest
      match value with
      | .null =>
        match skipBlanks rest with
        | Byte.closeBrace :: rest => .ok (category, rest)
        | rest => .error (.fault (.before rest))
      | value => mismatch value .unit
    | rest => .error (.fault (.before rest))
  | text => .error (.fault (.before text))

/-- The category in front of a text, written as its name or as an object. -/
def read (text : Bytes) : Except Error (Category × Bytes) :=
  match skipBlanks text with
  | Byte.quote :: text => do
    let (name, rest) ← readText text
    .ok (← named name, rest)
  | Byte.openBrace :: text => readObject text
  | text => .error (.fault (.before text))

def parse (text : Bytes) : Except Error Category := do
  let (category, rest) ← read text
  endWhole rest
  .ok category

end Category

structure CollectionSettings where
  scheme : String := "http"
  /-- The port of every agent whose management address carries none. -/
  agentPort : UInt16 := 9999
  requestTimeout : Nat := 10000
  /-- How long one pass waits for reports. -/
  collectTimeout : Nat := 30000
  categories : List Category := Category.standard
  /-- Paths that differ from the usual ones. -/
  paths : List (Category × String) := []
  deriving DecidableEq, Repr

namespace CollectionSettings

/-- Adds telemetry to the categories, unless it is among them. -/
def withTelemetry (settings : CollectionSettings) : CollectionSettings :=
  if .telemetry ∈ settings.categories then settings
  else { settings with categories := settings.categories ++ [.telemetry] }

/-- Serves a category under another path. -/
def withPath (settings : CollectionSettings) (category : Category) (path : String) :
    CollectionSettings :=
  { settings with paths := (category, path) :: settings.paths }

def path (settings : CollectionSettings) (category : Category) : String :=
  (settings.paths.lookup category).getD category.defaultPath

def sortedCategories (settings : CollectionSettings) : List Category :=
  settings.categories.mergeSort fun a b => a.rank ≤ b.rank

/-- The URL of a category on the node with a management address. -/
def endpoint (settings : CollectionSettings) (managementAddress : String) (category : Category) :
    String :=
  settings.scheme ++ "://" ++
    String.ofList (authority managementAddress.toList settings.agentPort) ++ settings.path category

@[simp] theorem path_withPath (settings : CollectionSettings) (category : Category) (path : String) :
    (settings.withPath category path).path category = path := by
  simp [withPath, CollectionSettings.path]

theorem mem_categories_withTelemetry (settings : CollectionSettings) :
    .telemetry ∈ settings.withTelemetry.categories := by
  unfold withTelemetry
  split
  · assumption
  · simp

end CollectionSettings

structure ValidationSettings where
  /-- The internal name of the interface that a node is known by. -/
  loopbackName : String := "loop0"
  /-- The mask length of the loopback addresses that ARP entries are compared with. -/
  maskLength : UInt8 := 24
  deriving DecidableEq, Repr

end FabricSurvey
