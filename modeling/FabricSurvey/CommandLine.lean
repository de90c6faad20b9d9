import FabricSurvey.Node.Identity
import FabricSurvey.Survey

/-!
# The command line

The words of a command line are read from left to right, and the first word that decides the matter
does so: a request for help or for the version, or a word that cannot be accepted. An option takes its
value after an equals sign or as the next word, which then may not look like an option. No option but
the one for nodes is given twice.
-/

namespace FabricSurvey.CommandLine

open Text

/-- What a survey is asked for. Times are in seconds. -/
structure Options where
  nodes : List Identity := []
  nodesFile : Option String := none
  agentPort : UInt16 := 9999
  scheme : String := "http"
  requestTimeout : Nat := 10
  collectTimeout : Nat := 30
  telemetry : Bool := false
  loopbackName : String := "loop0"
  maskLength : UInt8 := 24
  /-- Seconds from one survey to the next, if there is to be more than one. -/
  interval : Option Nat := none
  pretty : Bool := false
  deriving DecidableEq, Repr

/-- The words that begin with two dashes. -/
inductive Name where
  | node
  | nodesFile
  | agentPort
  | scheme
  | requestTimeout
  | collectTimeout
  | telemetry
  | loopbackName
  | maskLength
  | interval
  | pretty
  | help
  | version
  deriving DecidableEq, Repr

namespace Name

def all : List Name :=
  [.node, .nodesFile, .agentPort, .scheme, .requestTimeout, .collectTimeout, .telemetry,
    .loopbackName, .maskLength, .interval, .pretty, .help, .version]

def word : Name → String
  | .node => "node"
  | .nodesFile => "nodes-file"
  | .agentPort => "agent-port"
  | .scheme => "scheme"
  | .requestTimeout => "request-timeout"
  | .collectTimeout => "collect-timeout"
  | .telemetry => "telemetry"
  | .loopbackName => "loopback-name"
  | .maskLength => "arp-prefix-len"
  | .interval => "interval"
  | .pretty => "pretty"
  | .help => "help"
  | .version => "version"

def ofWord? (word : String) : Option Name := all.find? (·.word == word)

def takesValue : Name → Bool
  | .telemetry | .pretty | .help | .version => false
  | _ => true

end Name

/-- What a command line asks for. -/
inductive Command where
  | help
  | version
  | survey (options : Options)
  | refused
  deriving DecidableEq, Repr

/-- A number of at most `limit` for which a minus sign is read before the bounds are looked at: minus
zero is zero. -/
def boundedNumber? (limit : Nat) (text : List Char) : Option Nat :=
  match text with
  | '-' :: digits => (number? 0 digits).filter fun _ => digits.head? != some '+'
  | text => number? limit text

def Options.set? (options : Options) (name : Name) (value : String) : Option Options :=
  match name with
  | .node => do
    let identity ← Identity.parse? value
    return { options with nodes := options.nodes ++ [identity] }
  | .nodesFile => if value.isEmpty then none else some { options with nodesFile := some value }
  | .agentPort => do
    let port ← boundedNumber? max16 value.toList
    return { options with agentPort := UInt16.ofNat port }
  | .scheme => some { options with scheme := value }
  | .requestTimeout => do
    return { options with requestTimeout := ← number? max64 value.toList }
  | .collectTimeout => do
    return { options with collectTimeout := ← number? max64 value.toList }
  | .loopbackName => some { options with loopbackName := value }
  | .maskLength => do
    let length ← boundedNumber? 255 value.toList
    return { options with maskLength := UInt8.ofNat length }
  | .interval => do
    return { options with interval := some (← number? max64 value.toList) }
  | _ => none

def Options.switch (options : Options) : Name → Options
  | .telemetry => { options with telemetry := true }
  | .pretty => { options with pretty := true }
  | _ => options

/-- Whether a word looks like an option, so that it is no value of the one before it. -/
def looksLikeOption (word : String) : Bool :=
  match word.toList with
  | '-' :: _ :: _ => true
  | _ => false

inductive Word where
  /-- A name, and its value if one is written after an equals sign. -/
  | named (name : Name) (value : Option String)
  /-- Nothing but values after this. -/
  | escape
  | stray
  deriving DecidableEq, Repr

/-- Reads a word that is not the value of an option. -/
def Word.of (word : String) : Word :=
  match word.toList with
  | ['-', '-'] => .escape
  | '-' :: '-' :: body =>
    let (name, value) := match splitFirst? '=' body with
      | some (name, value) => (name, some (String.ofList value))
      | none => (body, none)
    match Name.ofWord? (String.ofList name) with
    | some name => .named name value
    | none => .stray
  | '-' :: 'h' :: _ => .named .help none
  | '-' :: 'V' :: _ => .named .version none
  | _ => .stray

def isTaken (seen : List Name) (name : Name) : Bool := name != .node && seen.contains name

/-- Reads the words that are left, after some names have been seen. -/
def read (options : Options) (seen : List Name) : List String → Command
  | [] => .survey options
  | word :: words =>
    match Word.of word with
    | .stray => .refused
    | .escape => if words.isEmpty then .survey options else .refused
    | .named name value =>
      if name.takesValue then
        match value, words with
        | some value, words =>
          match options.set? name value with
          | some options => if isTaken seen name then .refused else read options (name :: seen) words
          | none => .refused
        | none, value :: words =>
          if looksLikeOption value || isTaken seen name then .refused
          else match options.set? name value with
            | some options => read options (name :: seen) words
            | none => .refused
        | none, [] => .refused
      else if value.isSome then .refused
      else match name with
        | .help => .help
        | .version => .version
        | name => if isTaken seen name then .refused else read (options.switch name) (name :: seen) words

def parse (words : List String) : Command := read {} [] words

namespace Options

def collection (options : Options) : CollectionSettings :=
  let settings : CollectionSettings := {
    scheme := options.scheme
    agentPort := options.agentPort
    requestTimeout := options.requestTimeout * 1000
    collectTimeout := options.collectTimeout * 1000 }
  if options.telemetry then settings.withTelemetry else settings

def validation (options : Options) : ValidationSettings :=
  { loopbackName := options.loopbackName, maskLength := options.maskLength }

def lastSecond : Nat := 0x7FFFFFFFFFFFFFFF

/-- Whether the wait for reports would last beyond all time that the clock can show, if it begins at
some second. -/
def outlastsClock (options : Options) (now : Nat) : Bool := lastSecond < now + options.collectTimeout

/-- The store to be surveyed: the nodes of the nodes file, whose content is given if there is to be
one, and then those of the command line. -/
def store (options : Options) (file : Option (Except FileError Json.Bytes)) :
    Except SurveyError Store := do
  let (seeded, _) ← match file with
    | some content => Store.empty.seedFile content
    | none => .ok (Store.empty, 0)
  let (store, _) := seeded.seed options.nodes
  if store.size = 0 then .error .noNodes else .ok store

end Options

def programName : String := "mvirt-topo"

def versionLine : String := programName ++ " 0.1.0"

def Name.valueName : Name → String
  | .node => " <id:name:management[:data]>"
  | .nodesFile => " <FILE>"
  | .agentPort => " <PORT>"
  | .scheme => " <SCHEME>"
  | .requestTimeout | .collectTimeout | .interval => " <SECONDS>"
  | .loopbackName => " <NAME>"
  | .maskLength => " <LENGTH>"
  | .telemetry | .pretty | .help | .version => ""

def usage : String :=
  "Usage: " ++ programName ++ " [OPTIONS]\n\nOptions:\n" ++
    String.join (Name.all.map fun name => "  --" ++ name.word ++ name.valueName ++ "\n")

def errorText (error : SurveyError) : String :=
  "Error: " ++ error.message ++ "\n" ++
    match error.cause? with
    | some cause => "\nCaused by:\n    " ++ cause ++ "\n"
    | none => ""

def surveyText (options : Options) (stamp : Stamp) (survey : Survey) : String :=
  if options.pretty then (survey.value stamp).pretty else (survey.value stamp).compact

/-- How the program ends when a wait would outlast the clock. -/
def untimedExitCode : UInt32 := 101

def untimedText : String := "Error: the collect timeout is beyond the end of the clock\n"

/-- How the program ends after a survey: surveys that are repeated end well in any case. -/
def exitCode (options : Options) (survey : Survey) : UInt32 :=
  if options.interval.isSome || survey.healthy then 0 else 1

end FabricSurvey.CommandLine
