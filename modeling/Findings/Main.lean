import Findings.Command.Basic
import Findings.Event.Moment
import Std.Time.DateTime.Timestamp

/-!
The outermost layer: it gathers what the command asks for, runs it, and writes what it answers.
-/

namespace Findings.Command

/-- What a path leads to. The system tells the number of its complaint with either sign. -/
def contentsOf (path : String) : IO Contents := do
  let isNumber (told number : UInt32) : Bool := told == number || told == 0 - number
  try
    return .bytes (← IO.FS.readBinFile path).toList
  catch
    | .inappropriateType _ told _ =>
      return if isNumber told 20 then .beyondFile else .directory
    | .invalidArgument _ told _ => return if isNumber told 36 then .tooLong else .absent
    | _ => return .absent

/-- The variables of the environment that the command looks at. -/
def gatherEnvironment : IO Config.Environment := do
  let names := filterVariable :: Config.overrides.map Config.Variable.name
  let found ← names.filterMapM fun name => do
    return (← IO.getEnv name).map fun value => (name, value)
  return fun name => found.lookup name

/-- Where the configuration is looked for by default. Without a directory of the user there is no
place for it. -/
def defaultConfig : IO (Option String) := do
  let home := (← IO.getEnv "HOME").filter (· ≠ "")
  let asked := (← IO.getEnv "XDG_CONFIG_HOME").filter (·.startsWith "/")
  let place := asked.or (home.map (· ++ "/.config"))
  return place.map (· ++ "/vds/config.toml")

/-- What a run finds around it. Only paths that it asks for are followed. -/
def gather (a : Arguments) : IO Surroundings := do
  let standard ← defaultConfig
  let environment ← gatherEnvironment
  let configPath := a.config.or standard
  let configContents ← match configPath with
    | some path => contentsOf path
    | none => pure .absent
  let input ← if isInput a.context then
      pure (← (← IO.getStdin).readBinToEnd).toList
    else pure []
  let contextContents ← if isInput a.context then pure .absent else contentsOf a.context
  let partly : Surroundings := {
    contents := fun path => if some path = configPath then configContents else contextContents
    database := fun _ => .absent
    defaultConfig := standard
    environment, input }
  match (configure partly a).toOption.bind Config.databasePath with
  | none => return partly
  | some path =>
    let database := Database.ofContents (← contentsOf path)
    return { partly with database := fun _ => database }

/-- The present moment. -/
def present : IO Moment := do
  let nanoseconds := (← Std.Time.Timestamp.now).toNanosecondsSinceUnixEpoch.val
  return ⟨nanoseconds / 1000000000, (nanoseconds % 1000000000).toNat⟩

/-- A line of the log for readers. -/
def lineText (l : Log.Line) : String :=
  let fields := (l.shown.drop 1).map fun (name, value) => " " ++ name ++ "=" ++ value.compact
  l.level.capitals ++ " " ++ l.target ++ ": " ++ l.message ++ String.join fields

/-- Runs the command with what surrounds it. -/
def conduct (arguments : List String) : IO Ending := do
  let now := (← present).millisecondText
  match Demand.ofArguments arguments with
  | .ok (.run a) => return run (← gather a) now a
  | _ =>
    let nothing : Surroundings := {
      contents := fun _ => .absent
      database := fun _ => .absent
      defaultConfig := none
      environment := fun _ => none
      input := [] }
    return execute nothing now arguments

end Findings.Command

open Findings in
/-- The command. -/
def main (arguments : List String) : IO UInt32 := do
  let ending ← Command.conduct arguments
  for line in ending.log do
    IO.eprintln (if ending.logJson then line.toJson.compact else Command.lineText line)
  IO.print ending.output
  for complaint in ending.complaint do
    IO.eprintln complaint
  return ending.status.toUInt32
