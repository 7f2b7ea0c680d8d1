import EventDispatch.Command.Arguments
import EventDispatch.Command.Bookshop
import EventDispatch.Service.Setup
/-!
The command.

Purpose: the command gives one event to a router with the bookshop's handlers and prints the
acknowledgement. The event stands in a file, or comes from the standard input. Errors go to the
standard error with what caused them.

Main exports: `Surroundings`, `Output`, `Failure`, `Invocation.grammar`, `Invocation.run`.
-/

namespace EventDispatch

/-- What surrounds a command. -/
structure Surroundings where
  files : FileTree := []
  environment : Environment := []
  userDirectory : Option String := none
  input : String := ""
  /-- Identifiers that nobody has used before, by position. -/
  fresh : Nat → String

/-- What a command leaves behind. -/
structure Output where
  code : Nat
  standard : String := ""
  error : String := ""
deriving DecidableEq, Repr, Inhabited

/-- Why the command fails, with the message of the cause if that is told too. -/
structure Failure where
  message : String
  cause : Option String := none
deriving DecidableEq, Repr, Inhabited

/-- A failure as it is printed. -/
def Failure.text (f : Failure) : String :=
  let cause := match f.cause with
    | some cause => "\n\nCaused by:\n    " ++ cause
    | none => ""
  "Error: " ++ f.message ++ cause ++ "\n"

namespace Invocation

/-- What the command takes. -/
def grammar : Grammar where
  name := "switchyard-invoke"
  version := "0.1.0"
  about := "Runs one Lambda event through a Switchyard router and prints the acknowledgement"
  positional := ⟨"EVENT", "Event JSON file; reads stdin when omitted"⟩
  options := [
    { long := "config", short := some 'c', role := .value "CONFIG" true
      explanation := "Configuration file (TOML or YAML)" },
    { long := "function-name", role := .value "FUNCTION_NAME" false, usual := some "invoke-demo"
      explanation := "Function name put into the invocation context" },
    { long := "pretty", short := some 'p', explanation := "Pretty-print the acknowledgement" },
    { long := "help", short := some 'h', role := .help, explanation := "Print help" },
    { long := "version", short := some 'V', role := .version, explanation := "Print version" }]

/-- The sources of the configuration. -/
def sources (s : Surroundings) (given : Given) : Sources :=
  { Sources.ofEnvironment s.environment with
    files := s.files
    userDirectory := s.userDirectory
    file := given.value? "config" }

/-- The name of the function that events are given to. -/
def functionName (given : Given) : String := (given.value? "function-name").getD "invoke-demo"

/-- A router with the bookshop's handlers that runs. -/
def router (s : Surroundings) (given : Given) : Except Failure Router := do
  let (_, router) ← (Router.ofSources (sources s given)).mapError fun e => ⟨e.message, e.detail?⟩
  let router ← Bookshop.groups.foldlM (fun router group =>
    match router.registerGroup group with
    | (router, .ok _) => .ok router
    | (_, .error e) => .error ⟨e.message, none⟩) router
  match router.start with
  | (router, .ok _) => return router
  | (_, .error e) => throw ⟨e.message, none⟩

/-- The text of the event. -/
def eventText (s : Surroundings) (given : Given) : Except Failure String :=
  match given.positional with
  | none => .ok s.input
  | some path => (s.files.content path).mapError fun e => ⟨"reading " ++ path, some e.message⟩

/-- The event. -/
def event (s : Surroundings) (given : Given) : Except Failure Json := do
  let text ← eventText s given
  (Json.parse text).mapError fun e => ⟨"event is not valid JSON", some e.message⟩

/-- The acknowledgement of the event. -/
def acknowledgement (s : Surroundings) (given : Given) : Except Failure Acknowledgement := do
  let router ← router s given
  let event ← event s given
  let context : Context := { functionName := some (functionName given) }
  match (router.process s.fresh context event).2 with
  | some (.ok ack) => return ack
  | some (.error e) => throw ⟨e.message, none⟩
  | none => throw ⟨"the event was not acknowledged", none⟩

/-- Runs the command with what was given to it. -/
def runGiven (s : Surroundings) (given : Given) : Output :=
  match acknowledgement s given with
  | .ok ack =>
    let value := ack.toJson
    let text := if given.holds "pretty" then value.pretty else value.compact
    { code := 0, standard := text ++ "\n" }
  | .error e => { code := 1, error := e.text }

/-- The names of all files that the command may read. -/
def reach (s : Surroundings) (arguments : List String) : List String :=
  match grammar.read arguments with
  | .run given => (sources s given).reach ++ given.positional.toList
  | _ => []

/-- Whether the command takes the event from the standard input. -/
def readsInput (arguments : List String) : Bool :=
  match grammar.read arguments with
  | .run given => given.positional.isNone
  | _ => false

/-- Runs the command. -/
def run (s : Surroundings) (arguments : List String) : Output :=
  match grammar.read arguments with
  | .run given => runGiven s given
  | .help => { code := 0, standard := grammar.help }
  | .version => { code := 0, standard := grammar.versionLine }
  | .refused e => { code := 2, error := e.message }

end Invocation
end EventDispatch
