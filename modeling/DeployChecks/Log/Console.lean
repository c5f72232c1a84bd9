import DeployChecks.Json.Basic
import DeployChecks.Log.Filter
import DeployChecks.Settings.Basic
import DeployChecks.Text.Lowercase
import DeployChecks.Text.Quoted

/-!
# Log/Console — records as lines

Records go to a console that is set up once, as lines of text or as JSON objects; a host program
may have set up its own before.  Main definitions: `Log.Plan`, `Log.Console`, `Console.start`,
`Console.emit`.
-/

namespace DeployChecks

namespace Log

/-- What the records of this library have as their target. -/
def libraryTarget : String := "lifecycle_tasks::logging"

/-! ## Settings -/

/-- **How the console is to be set up.** -/
structure Plan where
  /-- The name of the environment. -/
  environment : String
  /-- Which records are shown. -/
  filter : Filter
  /-- Lines are JSON objects. -/
  json : Bool
  deriving DecidableEq, Repr

/-- The filter of an environment, where none is set. -/
def environmentFilter (environment : String) : String :=
  if environment = "production" then "info"
  else if environment = "test" then "warn"
  else "debug"

/-- The text is a word of ASCII letters, in any case. -/
def isWord (word s : String) : Bool := s.toList.map Char.toLower = word.toList

/-- **The plan that variables give.** -/
def Plan.ofVariables (env : StringMap String) : Plan :=
  let environment := ((env.find? "LIFECYCLE_ENV").orElse fun _ => env.find? "APP_ENV").getD
    "development"
  let filter := ((env.find? "LOG_LEVEL").orElse fun _ => env.find? "RUST_LOG").map Text.lowercase
  ⟨environment, .read (filter.getD (environmentFilter environment)),
    (env.find? "LOG_FORMAT").any (isWord "json")⟩

/-! ## Lines -/

/-- **A line on the console.** -/
inductive Line where
  /-- A line of text. -/
  | text (s : String)
  /-- A JSON object. -/
  | object (members : List (String × Json))

/-- **How time and thread are told** on a line. -/
structure Stamp where
  /-- The time. -/
  time : String
  /-- The thread. -/
  thread : String

/-- A value in a line of text. -/
def Value.inText : Value → String
  | shown s => s
  | text s => Text.quoted s
  | bool b => if b then "true" else "false"
  | count n => toString n
  | double x => Decimal.inspection.write x

/-- A value in a JSON object. -/
def Value.inJson : Value → Json
  | shown s | text s => .string s
  | bool b => .bool b
  | count n => .nat n
  | double x => .number (.double x)

/-- The name of a level, filled up with spaces in front. -/
def Level.column (l : Level) : String :=
  String.ofList (List.replicate (5 - l.name.length) ' ') ++ l.name

/-- What a line of text says after its head. -/
def Record.body (r : Record) : String :=
  r.fields.foldl (fun s e => s ++ " " ++ e.1 ++ "=" ++ e.2.inText)
    (libraryTarget ++ ": " ++ r.message)

/-- A line without the return that may stand before its end. -/
def withoutReturn (cs : List Char) : List Char :=
  if cs.getLast? = some '\r' then cs.dropLast else cs

/-- The lines of a text. -/
def linesOf (s : String) : List Line :=
  (s.toList.splitOn '\n').map fun cs => .text (String.ofList (withoutReturn cs))

/-- A record as a JSON object. -/
def Record.object (r : Record) (stamp : Stamp) : List (String × Json) :=
  [("timestamp", .string stamp.time), ("level", .string r.level.name),
    ("fields", .object ((Record.messageName, .string r.message)
      :: r.fields.map fun e => (e.1, e.2.inJson))),
    ("target", .string libraryTarget), ("threadId", .string stamp.thread)]

/-! ## Records of the console itself -/

/-- The record that a console was set up, with what is said of sending spans. -/
def startRecord (p : Plan) (message : String) (sending : Bool) (more : List (String × Value)) :
    Record :=
  info message <|
    [("environment", .shown p.environment), ("ansi_colors", .bool false),
      ("json_output", .bool p.json), ("opentelemetry_enabled", .bool sending)] ++ more

/-- The record that the console of the host program is kept. -/
def keptRecord : Record :=
  debug "Global tracing subscriber already initialized - continuing with existing subscriber" []

/-- The record of the start of a console, with settings of telemetry or without. -/
def Plan.record (p : Plan) : Option TelemetrySettings → Record
  | none => startRecord p "Console-only logging initialized" false []
  | some s => startRecord p "Console logging with OpenTelemetry initialized" true
    [("otlp_endpoint", .shown s.otlpEndpoint), ("service_name", .shown s.serviceName)]

/-! ## The console -/

/-- **Where records go.** -/
inductive Sink where
  /-- Nowhere. -/
  | nowhere
  /-- To the console of the host program, which shows all records and neither time nor thread. -/
  | host
  /-- To the console of a plan. -/
  | planned (p : Plan)

/-- **The lines of a record.** -/
def Sink.lines (sink : Sink) (r : Record) (stamp : Stamp) : List Line :=
  match sink with
  | nowhere => []
  | host => linesOf (r.level.column ++ " " ++ r.body)
  | planned p =>
    if !p.filter.admits libraryTarget r then []
    else if p.json then [.object (r.object stamp)]
    else linesOf (stamp.time ++ " " ++ r.level.column ++ " " ++ stamp.thread ++ " " ++ r.body)

/-- **The state of the console.** -/
structure Console where
  /-- Where records go. -/
  sink : Sink
  /-- It was set up, or left to the host program. -/
  started : Bool

namespace Console

/-- The console before it is set up. -/
def new : Console := ⟨.nowhere, false⟩

/-- The host program sets up a console of its own, unless there is one. -/
def attachHost (c : Console) : Console :=
  match c.sink with
  | .nowhere => { c with sink := .host }
  | _ => c

/-- **The lines of a record** on the console. -/
def emit (c : Console) (r : Record) (stamp : Stamp) : List Line := c.sink.lines r stamp

/-- **The console is set up**, the first time that this is asked for; one that is there stays.  The
settings of telemetry are told where spans are sent. -/
def start (c : Console) (p : Plan) (telemetry : Option TelemetrySettings) (stamp : Stamp) :
    List Line × Console :=
  if c.started then ([], c)
  else
    match c.sink with
    | .nowhere =>
      let c : Console := ⟨.planned p, true⟩
      (c.emit (p.record (telemetry.filter (·.enabled))) stamp, c)
    | sink =>
      let c : Console := ⟨sink, true⟩
      (c.emit keptRecord stamp, c)

end Console

end Log

end DeployChecks
