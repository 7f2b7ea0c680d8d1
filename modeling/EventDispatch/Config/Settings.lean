import EventDispatch.Config.Document
/-!
Settings of a router.

Purpose: the whole configuration: how the router logs, how its server behaves, and a section for
each adapter, which stays a document until the adapter decodes it. Every entry may be left out.

Main exports: `LogLevel`, `LogFormat`, `LogOutput`, `LogRotation`, `SpanEvents`, `LogSettings`,
`ServerSettings`, `Settings`, `Settings.decode`, `Settings.toDocument`.
-/

namespace EventDispatch

/-- How weighty a log message must be. -/
inductive LogLevel where
  | trace
  | debug
  | info
  | warn
  | error
deriving DecidableEq, Repr, Inhabited

namespace LogLevel

def name : LogLevel → String
  | .trace => "trace"
  | .debug => "debug"
  | .info => "info"
  | .warn => "warn"
  | .error => "error"

/-- The levels under their names. -/
def named : List (String × LogLevel) :=
  [("trace", .trace), ("debug", .debug), ("info", .info), ("warn", .warn), ("error", .error)]

def decode {σ : Type} [Source σ] (s : σ) : Decoded LogLevel := Decode.choice "LogLevel" named s

end LogLevel

/-- The layout of log messages. -/
inductive LogFormat where
  | compact
  | full
  | pretty
deriving DecidableEq, Repr, Inhabited

namespace LogFormat

def name : LogFormat → String
  | .compact => "compact"
  | .full => "full"
  | .pretty => "pretty"

/-- The layouts under their names. -/
def named : List (String × LogFormat) :=
  [("compact", .compact), ("full", .full), ("pretty", .pretty)]

def decode {σ : Type} [Source σ] (s : σ) : Decoded LogFormat := Decode.choice "LogFormat" named s

end LogFormat

/-- Where log messages go. -/
inductive LogOutput where
  | stdout
  | stderr
  | file
deriving DecidableEq, Repr, Inhabited

namespace LogOutput

def name : LogOutput → String
  | .stdout => "stdout"
  | .stderr => "stderr"
  | .file => "file"

/-- The outputs under their names. -/
def named : List (String × LogOutput) :=
  [("stdout", .stdout), ("stderr", .stderr), ("file", .file)]

def decode {σ : Type} [Source σ] (s : σ) : Decoded LogOutput := Decode.choice "LogOutput" named s

end LogOutput

/-- When a new log file is begun. -/
inductive LogRotation where
  | never
  | hourly
  | daily
deriving DecidableEq, Repr, Inhabited

namespace LogRotation

def name : LogRotation → String
  | .never => "never"
  | .hourly => "hourly"
  | .daily => "daily"

/-- The rotations under their names. -/
def named : List (String × LogRotation) :=
  [("never", .never), ("hourly", .hourly), ("daily", .daily)]

def decode {σ : Type} [Source σ] (s : σ) : Decoded LogRotation :=
  Decode.choice "LogRotation" named s

end LogRotation

/-- Which events in the life of a span are logged. -/
structure SpanEvents where
  new : Bool := false
  enter : Bool := false
  exit : Bool := false
  close : Bool := false
deriving DecidableEq, Repr, Inhabited

namespace SpanEvents

def shape {σ : Type} [Source σ] : Record σ SpanEvents where
  name := "SpanEventConfig"
  blank := {}
  fields := [
    .defaulted "new" Decode.bool fun x r => { r with new := x },
    .defaulted "enter" Decode.bool fun x r => { r with enter := x },
    .defaulted "exit" Decode.bool fun x r => { r with exit := x },
    .defaulted "close" Decode.bool fun x r => { r with close := x }]

def decode {σ : Type} [Source σ] (s : σ) : Decoded SpanEvents := shape.decode s

def toDocument (r : SpanEvents) : Document :=
  .ofPairs [("new", .bool r.new), ("enter", .bool r.enter), ("exit", .bool r.exit),
    ("close", .bool r.close)]

end SpanEvents

/-- How a router logs. -/
structure LogSettings where
  level : LogLevel := .info
  format : LogFormat := .compact
  output : LogOutput := .stdout
  filePath : Option String := none
  rotation : LogRotation := .never
  /-- Levels of parts of the program. -/
  filters : Fields LogLevel := []
  spanEvents : SpanEvents := {}
  threadIds : Bool := false
  fileLocation : Bool := false
deriving DecidableEq, Repr, Inhabited

namespace LogSettings

def shape {σ : Type} [Source σ] : Record σ LogSettings where
  name := "LoggingConfig"
  blank := {}
  fields := [
    .defaulted "level" LogLevel.decode fun x r => { r with level := x },
    .defaulted "format" LogFormat.decode fun x r => { r with format := x },
    .defaulted "output" LogOutput.decode fun x r => { r with output := x },
    .defaulted "file_path" (Decode.optional Decode.path) fun x r => { r with filePath := x },
    .defaulted "rotation" LogRotation.decode fun x r => { r with rotation := x },
    .defaulted "filters" (Decode.mapOf LogLevel.decode) fun x r => { r with filters := x },
    .defaulted "span_events" SpanEvents.decode fun x r => { r with spanEvents := x },
    .defaulted "thread_ids" Decode.bool fun x r => { r with threadIds := x },
    .defaulted "file_location" Decode.bool fun x r => { r with fileLocation := x }]

def decode {σ : Type} [Source σ] (s : σ) : Decoded LogSettings := shape.decode s

def toDocument (r : LogSettings) : Document :=
  .ofPairs [("level", .string r.level.name), ("format", .string r.format.name),
    ("output", .string r.output.name), ("file_path", (r.filePath.map Document.string).getD .null),
    ("rotation", .string r.rotation.name),
    ("filters", .ofPairs (r.filters.map fun (target, level) => (target, .string level.name))),
    ("span_events", r.spanEvents.toDocument), ("thread_ids", .bool r.threadIds),
    ("file_location", .bool r.fileLocation)]

end LogSettings

/-- How a server behaves. -/
structure ServerSettings where
  /-- Log the whole request when one fails. -/
  logPayloads : Bool := false
deriving DecidableEq, Repr, Inhabited

namespace ServerSettings

def shape {σ : Type} [Source σ] : Record σ ServerSettings where
  name := "ServerConfig"
  blank := {}
  fields := [.defaulted "log_payloads" Decode.bool fun x r => { r with logPayloads := x }]

def decode {σ : Type} [Source σ] (s : σ) : Decoded ServerSettings := shape.decode s

def toDocument (r : ServerSettings) : Document := .ofPairs [("log_payloads", .bool r.logPayloads)]

end ServerSettings

/-- The settings of a router. -/
structure Settings where
  logging : LogSettings := {}
  server : ServerSettings := {}
  /-- The sections of the adapters under their names. -/
  adapters : Fields Document := []
deriving Repr, Inhabited

namespace Settings

/-- The shape of settings, where `keep` takes the section of an adapter as a document. -/
def shape {σ : Type} [Source σ] (keep : σ → Document) : Record σ Settings where
  name := "SwitchyardConfig"
  blank := {}
  fields := [
    .defaulted "logging" LogSettings.decode fun x r => { r with logging := x },
    .defaulted "server" ServerSettings.decode fun x r => { r with server := x },
    .defaulted "adapters" (Decode.mapOf fun s => .ok (keep s)) fun x r => { r with adapters := x }]

/-- The settings of a configuration document. -/
def decode (d : Document) : Decoded Settings := (shape fun d => d).decode d

/-- The settings of a JSON value. -/
def ofJson (v : Json) : Decoded Settings := (shape Document.ofJson).decode v

/-- Settings as a document, in which every entry is present. -/
def toDocument (r : Settings) : Document :=
  .ofPairs [("logging", r.logging.toDocument), ("server", r.server.toDocument),
    ("adapters", .ofPairs r.adapters)]

end Settings
end EventDispatch
