import FabricSurvey.Address.Url
import FabricSurvey.Collection.Payload
import FabricSurvey.Settings

/-!
# The network between here and the agents

One request is made for every node and every category. What becomes of it depends on the network: on
whether an agent listens where the URL leads, and on what it does with the path it is asked for.
Nothing here takes time; a request that hangs ends with the request timeout, and whether its report
is still waited for is a question of the two timeouts alone.
-/

namespace FabricSurvey

/-- What an agent does with a path it is asked for. -/
inductive Route where
  | answer (status : Nat) (body : Json.Bytes)
  | close
  | hang
  /-- The answer ends before its body does. -/
  | truncate
  deriving DecidableEq, Repr, Inhabited

/-- An agent, by the address it listens on and what it does with each path. -/
structure Agent where
  address : String
  routes : List (String × Route)
  deriving DecidableEq, Repr

/-- The agents that listen, all on one port. -/
structure Network where
  port : UInt16
  agents : List Agent
  deriving DecidableEq, Repr

/-- One fetch to be made. -/
structure Request where
  node : String
  category : Category
  url : String
  deriving DecidableEq, Repr

/-- The fetches that have been started, and their number. -/
structure Dispatch where
  requests : List Request
  dispatched : Nat
  deriving DecidableEq, Repr

namespace CollectionSettings

def request (settings : CollectionSettings) (node : Node) (category : Category) : Request :=
  ⟨node.name, category, settings.endpoint node.managementAddress category⟩

def start (settings : CollectionSettings) (node : Node) (started : Dispatch) (category : Category) :
    Dispatch :=
  ⟨started.requests ++ [settings.request node category], started.dispatched + 1⟩

/-- Starts the fetches of one pass, node by node. -/
def collect (settings : CollectionSettings) (nodes : List Node) : Dispatch :=
  nodes.foldl (fun started node => settings.categories.foldl (settings.start node) started) ⟨[], 0⟩

/-- The requests of one pass: every category of every node. -/
def requests (settings : CollectionSettings) (nodes : List Node) : List Request :=
  nodes.flatMap fun node => settings.categories.map (settings.request node)

theorem requests_cons (settings : CollectionSettings) (node : Node) (nodes : List Node) :
    settings.requests (node :: nodes) =
      settings.categories.map (settings.request node) ++ settings.requests nodes := rfl

theorem length_requests (settings : CollectionSettings) (nodes : List Node) :
    (settings.requests nodes).length = settings.categories.length * nodes.length := by
  induction nodes with
  | nil => rfl
  | cons node nodes ih =>
      rw [requests_cons, List.length_append, List.length_map, ih, List.length_cons, Nat.mul_succ,
        Nat.add_comm]

theorem foldl_start (settings : CollectionSettings) (node : Node) (categories : List Category)
    (started : Dispatch) :
    categories.foldl (settings.start node) started =
      ⟨started.requests ++ categories.map (settings.request node),
        started.dispatched + categories.length⟩ := by
  induction categories generalizing started with
  | nil => simp
  | cons category categories ih =>
      rw [List.foldl_cons, ih, start, List.map_cons, List.length_cons, List.append_assoc,
        Nat.add_assoc, Nat.add_comm 1]
      rfl

theorem foldl_starts (settings : CollectionSettings) (nodes : List Node) (started : Dispatch) :
    nodes.foldl (fun started node => settings.categories.foldl (settings.start node) started)
        started =
      ⟨started.requests ++ settings.requests nodes,
        started.dispatched + (settings.requests nodes).length⟩ := by
  induction nodes generalizing started with
  | nil => simp [requests]
  | cons node nodes ih =>
      rw [List.foldl_cons, foldl_start, ih, requests_cons, List.length_append, List.length_map,
        List.append_assoc, Nat.add_assoc]

/-- What has been started when all nodes have been gone through, and the count of it. -/
theorem collect_eq (settings : CollectionSettings) (nodes : List Node) :
    settings.collect nodes = ⟨settings.requests nodes, (settings.requests nodes).length⟩ := by
  rw [collect, foldl_starts, List.nil_append, Nat.zero_add]

end CollectionSettings

def builderReason : String := "builder error"

def unsupportedReason (url : Url) : String :=
  builderReason ++ " for url (" ++ String.ofList url.chars ++ ")"

def unsentReason (url : Url) : String :=
  "error sending request for url (" ++ String.ofList url.chars ++ ")"

def cutShortReason : String := "error decoding response body"

namespace Network

/-- What the network does with a URL: the route of its path on the agent that listens there. An agent
answers a path it does not have with status 404. -/
def route? (network : Network) (url : Url) : Option Route := do
  let host ← url.host
  let agent ← network.agents.find? fun agent =>
    agent.address.toList == host.chars && network.port.toNat == url.dialledPort
  return (agent.routes.lookup (String.ofList url.target)).getD (.answer 404 [])

def isSuccess (status : Nat) : Bool := 200 ≤ status && status < 300

/-- How a fetch ends, and whether it takes the whole request timeout. -/
structure Ending where
  hung : Bool
  outcome : Except FetchError Payload

def Ending.failed (reason : String) : Ending := ⟨false, .error (.transport reason)⟩

def Ending.ofRoute (url : Url) (category : Category) : Option Route → Ending
  | none => .failed (unsentReason url)
  | some .close => .failed (unsentReason url)
  | some .hang => ⟨true, .error (.transport (unsentReason url))⟩
  | some .truncate => .failed cutShortReason
  | some (.answer status body) =>
    if isSuccess status then ⟨false, Report.outcomeOfBody category body⟩
    else ⟨false, .error (.status status)⟩

def greatestLength : Nat := 65534

/-- Characters that may be in the host of a URL, but not in that of a request. -/
def unsentInHost : List Char := "\"`\x7b\x7d".toList

def isSendable (url : Url) : Bool :=
  url.isHttp && !url.location.any unsentInHost.contains && url.chars.length ≤ greatestLength

/-- The URL of a request that can be sent, or why it cannot. -/
def sendable (url : String) : Except FetchError Url :=
  match Url.parse? url.toList with
  | none => .error (.transport builderReason)
  | some url =>
    let url := url.withoutCredentials
    if isSendable url then .ok url else .error (.transport (unsupportedReason url))

/-- How the fetch of a category ends. -/
def fetch (network : Network) (url : String) (category : Category) : Ending :=
  match sendable url with
  | .error cause => ⟨false, .error cause⟩
  | .ok url => .ofRoute url category (network.route? url)

/-- The reports of some requests, in the order of the requests. Those of hanging requests come only
if hanging is waited for. -/
def reports (network : Network) (waits : Bool) (requests : List Request) : List Report :=
  requests.filterMap fun request =>
    let ending := network.fetch request.url request.category
    if ending.hung && !waits then none else some ⟨request.node, request.category, ending.outcome⟩

end Network

end FabricSurvey
