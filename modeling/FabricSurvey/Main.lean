import FabricSurvey.Collection.Response
import FabricSurvey.CommandLine
import Std.Async.DNS
import Std.Async.Signal
import Std.Async.TCP
import Std.Async.Timer
import Std.Sync.Channel
import Std.Time.Format

/-!
# The program

Surveys the nodes named on the command line over the network and prints each survey as JSON. Only
waiting, receiving and printing happen here: what is asked, what an answer means and what is printed
is decided by the other modules.
-/

namespace FabricSurvey.Program

open Std.Async
open Std (CloseableChannel)
open Std.Time (DateTime Timestamp)

def timerAt (deadline : Nat) : Async Sleep := do
  let now ← IO.monoMsNow
  -- longer than any program runs, and still within the range of a timer
  Sleep.mk (Std.Time.Millisecond.Offset.ofNat (min (deadline - now) 0x10000000000))

def waitUntil {α : Type} (deadline : Nat) (event : Selector α) : Async (Option α) := do
  Selectable.one #[
    .case event fun value => pure (some value),
    .case (← timerAt deadline).selector fun _ => pure none]

def addressesOf (host : Host) : Async (Array Std.Net.IPAddr) :=
  match host with
  | .ip (.v4 ip) => return ((Std.Net.IPv4Addr.ofString (String.ofList ip.chars)).map .v4).toArray
  | .ip (.v6 ip) => return ((Std.Net.IPv6Addr.ofString (String.ofList ip.chars)).map .v6).toArray
  | .named name => DNS.getAddrInfo (String.ofList name) ""

def socketAddress (ip : Std.Net.IPAddr) (port : UInt16) : Std.Net.SocketAddress :=
  match ip with
  | .v4 addr => .v4 { addr, port }
  | .v6 addr => .v6 { addr, port }

partial def receive (client : TCP.Socket.Client) (deadline : Nat) (received : Json.Bytes) :
    Async Route := do
  match ← waitUntil deadline (client.recvSelector 65536) with
  | none => return .hang
  | some none => return Response.atClose received
  | some (some bytes) =>
    let received := received ++ bytes.toList
    match Response.answer? received with
    | some route => return route
    | none => receive client deadline received

def ask (url : Url) (deadline : Nat) : Async Route := do
  -- no other scheme than this is spoken on a plain connection
  if url.scheme != "http".toList then return .close
  try
    let some host := url.host | return .close
    let some ip := (← addressesOf host)[0]? | return .close
    let client ← TCP.Socket.Client.mk
    client.connect (socketAddress ip (UInt16.ofNat url.dialledPort))
    client.send url.request.toUTF8
    receive client deadline []
  catch _ => return .close

def fetch (settings : CollectionSettings) (request : Request) : Async Report := do
  let outcome ← match Network.sendable request.url with
    | .error cause => pure (.error cause)
    | .ok url =>
      let deadline := (← IO.monoMsNow) + settings.requestTimeout
      let route ← Async.race (ask url deadline) do
        (← timerAt deadline).wait
        return .hang
      pure (Network.Ending.ofRoute url request.category (some route)).outcome
  return ⟨request.node, request.category, outcome⟩

/-- Takes reports from a channel until some number of them has arrived or the time is over. -/
def gather (channel : CloseableChannel Report) (deadline : Nat) : Nat → Async (List Report)
  | 0 => return []
  | missing + 1 => do
    match ← waitUntil deadline channel.recvSelector with
    | some (some report) => return report :: (← gather channel deadline missing)
    | _ => return []

/-- The reports of one pass that arrive in time, in the order in which they arrive. -/
def collect (settings : CollectionSettings) (store : Store) : Async (List Report) := do
  let channel ← CloseableChannel.new
  let deadline := (← IO.monoMsNow) + settings.collectTimeout
  for request in (settings.collect store.all).requests do
    background do
      let report ← fetch settings request
      discard <| channel.send report
  gather channel deadline (Pass.expected settings.categories store.size)

def stamp : IO Stamp := do
  let random ← IO.getRandomBytes 16
  let time := DateTime.ofTimestampWithZone (← Timestamp.now) .UTC
  return {
    runId := Stamp.randomId random.toList
    collectedAt := time.format "uuuu-MM-dd'T'HH:mm:ss.SSSSSSSSS'Z'" }

def survey (options : CommandLine.Options) (store : Store) : Async (Store × Survey) := do
  let reports ← collect options.collection store
  let (store, survey) := Survey.run options.collection options.validation store reports
  IO.println (CommandLine.surveyText options (← stamp) survey)
  (← IO.getStdout).flush
  return (store, survey)

/-- Sends word on a channel when a signal to end arrives. -/
def watch (ended : CloseableChannel Unit) (signal : Signal) : Async Unit := do
  let waiter ← Signal.Waiter.mk signal false
  let arrival ← waiter.wait
  background do
    discard <| await arrival
    discard <| ended.send ()

/-- Surveys a store at every tick, until word comes that the program is to end. -/
partial def surveyAll (options : CommandLine.Options) (ended : CloseableChannel Unit)
    (period tick : Nat) (store : Store) : Async Unit := do
  match ← waitUntil tick ended.recvSelector with
  | some _ => return
  | none =>
    let (store, _) ← survey options store
    surveyAll options ended period (tick + period) store

/-- The number of an error, which some calls give with its sign turned. -/
def errorNumber (code : UInt32) : UInt32 := if code < 0x80000000 then code else 0 - code

def fileError : IO.Error → FileError
  | .noFileOrDirectory .. => .notFound
  | .permissionDenied .. => .notPermitted
  | .inappropriateType _ code _ => if errorNumber code = 21 then .isDirectory else .notDirectory
  | .invalidArgument _ code text =>
    if errorNumber code = 36 then .nameTooLong else .other text
  | error => .other (toString error)

def contentOf (path : String) : Async (Except FileError Json.Bytes) := do
  try
    return .ok (← IO.FS.readBinFile path).toList
  catch error => return .error (fileError error)

def run (options : CommandLine.Options) : Async UInt32 := do
  let content ← options.nodesFile.mapM contentOf
  match options.store content with
  | .error error =>
    IO.eprint (CommandLine.errorText error)
    return 1
  | .ok store =>
    if options.outlastsClock ((← IO.monoMsNow) / 1000) then
      IO.eprint CommandLine.untimedText
      return CommandLine.untimedExitCode
    match options.interval with
    | none =>
      let (_, survey) ← survey options store
      return CommandLine.exitCode options survey
    | some seconds =>
      let ended ← CloseableChannel.new
      watch ended .sigint
      watch ended .sigterm
      surveyAll options ended (max 1 seconds * 1000) (← IO.monoMsNow) store
      return 0

end FabricSurvey.Program

def main (args : List String) : IO UInt32 := do
  match FabricSurvey.CommandLine.parse args with
  | .help =>
    IO.print FabricSurvey.CommandLine.usage
    return 0
  | .version =>
    IO.println FabricSurvey.CommandLine.versionLine
    return 0
  | .refused =>
    IO.eprint FabricSurvey.CommandLine.usage
    return 2
  | .survey options => (FabricSurvey.Program.run options).block
