import Findings.Command.Arguments
import Findings.Feed.Database
import Findings.Log.Filter
import Findings.Report

/-!
The command. It reads a scan context, reports its candidates from a database of descriptions and
prints the findings. The stages follow one another, and the first that fails decides how the
command ends: configuration, environment, context, path of the database, database, synthesis.
Findings are printed only when all stages have passed.
-/

namespace Findings.Command

/-- The name of the command. -/
def name : String := "vds"

/-- The version of the command. -/
def version : String := "0.1.0"

/-- What the command finds around it. -/
structure Surroundings where
  /-- What paths lead to. -/
  contents : String → Contents
  /-- What the paths of databases lead to. -/
  database : String → Database
  /-- Where a configuration is looked for that is not asked for, if there is a place for it. -/
  defaultConfig : Option String
  environment : Config.Environment
  /-- What comes in on standard input. -/
  input : List UInt8

/-- The variable of the environment that asks for a filter of the log. -/
def filterVariable : String := "RUST_LOG"

/-- Why a command fails. -/
inductive Fault where
  | error (error : Error)
  | context (error : Json.ShapeError)
  | input (message : String)
  deriving DecidableEq, Repr

/-- The report of a failure. -/
def Fault.report : Fault → String
  | error e => e.report
  | context .malformed => "Invalid scan context: not a JSON text"
  | context e => "Invalid scan context: " ++ e.message
  | input message => "I/O error: " ++ message

/-- How a command ends. -/
structure Ending where
  /-- Zero for success. -/
  status : UInt8
  /-- What is printed. -/
  output : String
  /-- What is said of a failure. -/
  complaint : Option String
  /-- The lines of the log that were written. -/
  log : List Log.Line
  /-- The log is written as JSON. -/
  logJson : Bool

/-! ## Stages -/

/-- The settings of a run: a file, then the environment, then the arguments. -/
def configure (s : Surroundings) (a : Arguments) : Except Error Config := do
  let loaded ← (match a.config with
    | some path => Config.loadFile path (s.contents path)
    | none => Config.load s.defaultConfig s.contents).mapError .config
  let (merged, outcome) := loaded.merge s.environment
  outcome.mapError .config
  return a.apply merged

/-- The path stands for standard input: it is a dash, alone or as a directory that is left for
itself. -/
def isInput (path : String) : Bool :=
  match path.toList.splitOn '/' with
  | first :: rest => first == ['-'] && rest.all fun part => part == [] || part == ['.']
  | [] => false

/-- The text of the context. -/
def readText (s : Surroundings) (path : String) : Except Fault String :=
  if isInput path then (Utf8.decode s.input).mapError fun fault => .input fault.message
  else (s.contents path).text.mapError fun message => .error (.io message (some path))

/-- The context. -/
def readContext (s : Surroundings) (path : String) : Except Fault Context := do
  let text ← readText s path
  (Json.parse (Context.read .text) text).mapError .context

/-- The cache that is configured. -/
def cacheOf (c : Config) : Option Cache :=
  if c.cacheEnabled then some { lifetime := .ofSeconds c.cacheTtl } else none

/-- The feed that is configured, with the path of its database. -/
def openFeed (s : Surroundings) (c : Config) : Except Error (String × Feed) := do
  let path ← c.feedPath.mapError .config
  match s.database path with
  | .absent => .error (.feed (.database ("feed database not found: " ++ path)))
  | .closed fault => .error (.ofDatabase fault)
  | .opened store => .ok (path, { store, cache := cacheOf c })

/-! ## Lines of the log -/

/-- The target of the lines that tell of the command. -/
def commandTarget : String := "vds"

/-- The first line. -/
def startLine : Log.Line where
  level := .info
  target := commandTarget
  message := "Starting " ++ name ++ " v" ++ version

/-- The line of a database that was opened. -/
def openedLine (path : String) : Log.Line where
  level := .debug
  target := "vds_feed::sqlite"
  message := "opened feed database"
  fields := [Log.plain "path" path]

/-- The last line of a command that passes. -/
def passLine : Log.Line where
  level := .info
  target := commandTarget
  message := "Command completed successfully"

/-- The last line of a command that fails. -/
def failLine (fault : Fault) : Log.Line where
  level := .error
  target := commandTarget
  message := "Application error: " ++ fault.report

/-! ## The command -/

/-- What the stages behind the configuration print, and the lines they write. -/
def perform (s : Surroundings) (detectedAt : String) (a : Arguments) (c : Config) :
    Except Fault String × List Log.Line :=
  match readContext s a.context with
  | .error fault => (.error fault, [])
  | .ok context =>
    match openFeed s c with
    | .error e => (.error (.error e), [])
    | .ok (path, feed) =>
      let outcome := context.synthesize feed (.still detectedAt)
      let lines := openedLine path :: Log.ofOutcome context outcome
      match outcome.result with
      | .error e => (.error (.error e), lines)
      | .ok _ => (.ok (Report.text c.output outcome.context.results), lines)

/-- How a command that fails ends. -/
def failing (fault : Fault) (log : List Log.Line) (logJson : Bool) : Ending :=
  { status := 1, output := "", complaint := some ("Error: " ++ fault.report), log, logJson }

/-- How a command ends that only prints. -/
def printing (output : String) : Ending :=
  { status := 0, output, complaint := none, log := [], logJson := false }

/-- How a command ends that is not understood. -/
def refusing (misuse : Misuse) : Ending :=
  { status := 2, output := "", complaint := some ("error: " ++ misuse.message), log := []
    logJson := false }

/-- What is printed of the arguments. -/
def helpText : String :=
  "Usage: vds [--json] [--debug] [--output plain|json] [--feed PATH] [--no-cache]\n" ++
  "           [--config PATH] CONTEXT\n\n" ++
  "Reports the vulnerability candidates of the scan context CONTEXT, a JSON document;\n" ++
  "a dash stands for standard input.\n"

/-- Runs the command with arguments that ask for a run. -/
def run (s : Surroundings) (detectedAt : String) (a : Arguments) : Ending :=
  match configure s a with
  | .error e => failing (.error e) [] false
  | .ok c =>
    let filter := Log.Filter.choose (s.environment filterVariable) c.logLevel a.detail
    let written (lines : List Log.Line) : List Log.Line := lines.filter filter.admits
    match perform s detectedAt a c with
    | (.ok output, lines) =>
      { status := 0, output, complaint := none
        log := written (startLine :: lines ++ [passLine]), logJson := c.logJson }
    | (.error fault, lines) =>
      failing fault (written (startLine :: lines ++ [failLine fault])) c.logJson

/-- Runs the command. Findings bear the time `detectedAt`. -/
def execute (s : Surroundings) (detectedAt : String) (arguments : List String) : Ending :=
  match Demand.ofArguments arguments with
  | .error misuse => refusing misuse
  | .ok .version => printing (name ++ " " ++ version ++ "\n")
  | .ok .help => printing helpText
  | .ok (.run a) => run s detectedAt a

end Findings.Command
