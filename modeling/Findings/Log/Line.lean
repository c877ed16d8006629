import Findings.Json.Basic
import Findings.Synthesis
import Findings.Text.Quoted

/-!
Lines of the log. Each has a level, a target that says which part of the program wrote it, a
message, and fields by name. Messages and what else a synthesis leaves behind are told in lines.
-/

namespace Findings.Log

/-- A line. -/
structure Line where
  level : Level
  target : String
  message : String
  /-- The fields by name. One without a value counts as a field and is not shown. -/
  fields : List (String × Option Json) := []

namespace Line

/-- The names of the fields. The message is one of them. -/
def fieldNames (l : Line) : List String := "message" :: l.fields.map Prod.fst

/-- The fields that are shown, the message first. -/
def shown (l : Line) : List (String × Json) :=
  ("message", .string l.message) :: l.fields.filterMap fun (name, value) =>
    value.map fun value => (name, value)

/-- The line as a value. -/
def toJson (l : Line) : Json :=
  .object [("level", .string l.level.capitals), ("fields", .object l.shown),
    ("target", .string l.target)]

end Line

/-! ## Fields -/

/-- A text as it is. -/
def plain (name value : String) : String × Option Json := (name, some (.string value))

/-- An optional text, its presence spelled out. -/
def spelled (name : String) (value : Option String) : String × Option Json :=
  plain name (Text.quoteOption value)

/-- A word of 64 bits. -/
def count (name : String) (n : UInt64) : String × Option Json := (name, some (.ofNat n.toNat))

/-! ## Messages -/

/-- The target of lines that tell of messages. -/
def messageTarget : String := "vds::logging"

/-- The identifier of a message is drawn by whoever writes the line. -/
def emission : String × Option Json := ("event_id", none)

/-- What is told of a failure. -/
def failureFields (f : Failure) : List (String × Option Json) :=
  [("retryable", some (.bool f.retryable)), spelled "code" f.code, plain "error" f.message,
    spelled "hint" f.hint]

/-- What is told of a scan event. -/
def scanLine : ScanEvent → String × List (String × Option Json)
  | .started agent scanner candidates => ("Response synthesis started",
    [plain "agent" agent, plain "scanner" scanner, count "candidates" candidates])
  | .emitted id severity => ("Report entry built",
    [plain "cve_id" id, plain "severity" severity])
  | .completed agent entries => ("Response synthesis completed",
    [plain "agent" agent, count "entries" entries])
  | .failed agent id failure => ("Response synthesis failed",
    [plain "agent" agent, spelled "cve_id" id] ++ failureFields failure)

/-- What is told of a feed event. -/
def feedLine : FeedEvent → String × List (String × Option Json)
  | .miss id => ("Feed lookup miss", [emission, plain "cve_id" id])
  | .hit id => ("Feed cache hit", [plain "cve_id" id])
  | .undecodable id message => ("Feed record decode failed",
    [emission, plain "cve_id" id, plain "error" message])

/-- The line of a message. What ties messages together is told of scan events alone. -/
def ofMessage (m : Message) : Line :=
  let (message, fields) := match m.event with
    | .scan event =>
      let (message, fields) := scanLine event
      (message, emission :: spelled "correlation" m.correlation :: fields)
    | .feed event => feedLine event
  { level := m.event.level, target := messageTarget, message
    fields := plain "source" m.event.source.name :: fields }

/-! ## Syntheses -/

/-- The target of lines that tell of a whole synthesis. -/
def synthesisTarget : String := "vds_scanner::builder"

/-- The target of lines that tell of one entry. -/
def entryTarget : String := "vds_scanner::entry"

/-- The line of a note on the entry of a candidate. -/
def ofNote (id : String) (n : Note) : Line :=
  let (message, fields) : String × List (String × Option Json) := match n with
    | .noCondition => ("no match condition recorded", [])
    | .noScoreVersion => ("CVSS version not found", [])
    | .unsupportedScoreVersion version =>
      ("CVSS version not supported", [plain "score_version" version])
    | .ignoredRemark => ("ignoring non-object matcher annotation", [])
  { level := .debug, target := entryTarget, message, fields := plain "cve_id" id :: fields }

/-- The line that opens a synthesis. -/
def beginning (c : Context) : Line where
  level := .debug
  target := synthesisTarget
  message := "building response details"
  fields := [plain "scanner" c.scanner.name, count "candidates" (.ofNat c.elements.size)]

/-- The line of a synthesis that failed, at a candidate unless the subject was at fault. -/
def abortion (agent : String) (candidate : Option String) (e : Error) : Line where
  level := .debug
  target := synthesisTarget
  message := "response synthesis aborted"
  fields := [plain "agent" agent, ("cve_id", candidate.map Json.string), plain "error" e.message]

/-- The candidate at which a synthesis failed, as its messages tell. -/
def failedCandidate (messages : List Message) : Option String :=
  messages.findSome? fun m =>
    match m.event with
    | .scan (.failed _ id _) => id
    | _ => none

/-- The lines of a synthesis: how it went, and then its messages. -/
def ofOutcome (c : Context) (o : Outcome) : List Line :=
  let aborted := match o.result with
    | .ok _ => []
    | .error e => [abortion c.agent.id (failedCandidate o.messages) e]
  beginning c :: o.notes.map (fun (id, note) => ofNote id note) ++ aborted ++
    o.messages.map ofMessage

end Findings.Log
