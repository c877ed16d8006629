import Findings.Contents
import Findings.Error
import Findings.Number.Digits
import Findings.OutputFormat
import Findings.Toml.Document

/-!
Configuration in layers: what is built in, then a file, then the environment, then the command
line. Each layer changes the settings it names and no other.
-/

namespace Findings

namespace Config

/-! ## What is built in -/

/-- Findings are printed as values, unless something else is asked for. -/
def defaultOutput : OutputFormat := .json

def defaultMaxConnections : UInt32 := 4

def defaultCacheEnabled : Bool := true

/-- Five minutes. -/
def defaultCacheTtl : UInt64 := 300

def defaultLogLevel : String := "warn"

end Config

/-- The settings, with what is built in for them. -/
structure Config where
  /-- How findings are printed. -/
  output : OutputFormat := Config.defaultOutput
  /-- The database of descriptions. -/
  databasePath : Option String := none
  maxConnections : UInt32 := Config.defaultMaxConnections
  cacheEnabled : Bool := Config.defaultCacheEnabled
  /-- How long cached descriptions live, in seconds. -/
  cacheTtl : UInt64 := Config.defaultCacheTtl
  /-- What is logged, unless the environment says so otherwise. -/
  logLevel : String := Config.defaultLogLevel
  logJson : Bool := false
  deriving DecidableEq, Repr, Inhabited

namespace Config

/-! ## Files -/

/-- The members of a section. An array gives its items the names of the settings, and a date or a
time is a section that sets nothing. -/
def sectionMembers (names : List String) : Toml → Option (List (String × Toml))
  | .table members => if Toml.membersWithinRange members then some members else none
  | .array items => some (names.zip items)
  | .moment => some []
  | _ => none

/-- A setting that a section may leave out; it has a value of its own then. -/
def setting {α : Type} (members : List (String × Toml)) (name : String) (read : Toml → Option α)
    (default : α) : Option α :=
  match members.lookup name with
  | some v => read v
  | none => some default

/-- A text. -/
def readText : Toml → Option String
  | .string s => some s
  | _ => none

/-- A truth value. -/
def readBool : Toml → Option Bool
  | .bool b => some b
  | _ => none

/-- A natural number below a bound. -/
def readNat (bound : Nat) : Toml → Option Nat
  | .integer n => if 0 ≤ n ∧ n < bound then some n.toNat else none
  | _ => none

/-- A form of output: its name, or a table whose one key is the name and that says nothing more. -/
def readOutput : Toml → Option OutputFormat
  | .string name => OutputFormat.ofName? name
  | .table [(name, .table [])] | .table [(name, .array [])] => OutputFormat.ofName? name
  | _ => none

/-- Reads the section `general`. -/
def readGeneral (v : Toml) (c : Config) : Option Config := do
  let members ← sectionMembers ["default_output"] v
  let output ← setting members "default_output" readOutput defaultOutput
  return { c with output }

/-- Reads the section `feed`. -/
def readFeed (v : Toml) (c : Config) : Option Config := do
  let names := ["database_path", "max_connections", "cache_enabled", "cache_ttl_seconds"]
  let members ← sectionMembers names v
  if let .array [] := v then failure
  let databasePath ← setting members "database_path" (fun v => (readText v).map some) none
  let maxConnections ← setting members "max_connections"
    (fun v => (readNat (Nat.pow 2 32) v).map UInt32.ofNat) defaultMaxConnections
  let cacheEnabled ← setting members "cache_enabled" readBool defaultCacheEnabled
  let cacheTtl ← setting members "cache_ttl_seconds"
    (fun v => (readNat (Nat.pow 2 64) v).map UInt64.ofNat) defaultCacheTtl
  return { c with databasePath, maxConnections, cacheEnabled, cacheTtl }

/-- Reads the section `logging`. -/
def readLogging (v : Toml) (c : Config) : Option Config := do
  let members ← sectionMembers ["level", "json"] v
  let logLevel ← setting members "level" readText defaultLogLevel
  let logJson ← setting members "json" readBool false
  return { c with logLevel, logJson }

/-- Reads a section if the document has it. -/
def readSection (document : List (String × Toml)) (name : String)
    (read : Toml → Config → Option Config) (c : Config) : Option Config :=
  match document.lookup name with
  | some v => read v c
  | none => some c

/-- The names of the sections. -/
def sections : List String := ["general", "feed", "logging"]

/-- The configuration of a document; what the document does not set is built in. Beside its sections
a document may say anything in numbers that are not too great. -/
def ofDocument (document : List (String × Toml)) : Option Config := do
  if !Toml.membersWithinRange (document.filter fun m => !sections.contains m.1) then failure
  let c ← readSection document "general" readGeneral {}
  let c ← readSection document "feed" readFeed c
  readSection document "logging" readLogging c

/-- The configuration that a text spells. -/
def ofText? (text : String) : Option Config := do ofDocument (← Toml.ofText? text)

/-- Loads a file that is asked for by its path. -/
def loadFile (path : String) (contents : Contents) : Except ConfigError Config :=
  match contents.text with
  | .error _ => .error (.notFound path)
  | .ok text =>
    match ofText? text with
    | some c => .ok c
    | none => .error (.unparsable "the document is not a configuration")

/-- Loads the file in the place where it is looked for by default; it may be absent. -/
def loadDefault (path : String) (contents : Contents) : Except ConfigError Config :=
  if contents.isThere then loadFile path contents else .ok {}

/-- Loads the file that is looked for by default, for which there has to be a place. -/
def load (place : Option String) (contents : String → Contents) : Except ConfigError Config :=
  match place with
  | some path => loadDefault path (contents path)
  | none => .error (.notFound "config directory")

/-! ## The environment -/

/-- The variables that are set, by name. -/
abbrev Environment := String → Option String

/-- Reads a switch. -/
def switch? (word : String) : Option Bool :=
  if word = "true" ∨ word = "1" ∨ word = "yes" then some true
  else if word = "false" ∨ word = "0" ∨ word = "no" then some false
  else none

/-- Reads a word of 64 bits. -/
def word64? (s : String) : Option UInt64 := (Number.below? (Nat.pow 2 64) s.toList).map UInt64.ofNat

/-- One variable: its name, and what its value does to a configuration. -/
structure Variable where
  name : String
  /-- The configuration with the value; `none` for a value that cannot be accepted. -/
  apply : String → Config → Option Config

/-- The variables that override settings, in the order in which they are looked at. -/
def overrides : List Variable := [
  ⟨"VDS_OUTPUT", fun value c => (OutputFormat.ofName? value).map fun output =>
    { c with output }⟩,
  ⟨"VDS_FEED_PATH", fun value c => some { c with databasePath := some value }⟩,
  ⟨"VDS_FEED_CACHE", fun value c => (switch? value).map fun cacheEnabled =>
    { c with cacheEnabled }⟩,
  ⟨"VDS_FEED_CACHE_TTL", fun value c => (word64? value).map fun cacheTtl =>
    { c with cacheTtl }⟩,
  ⟨"VDS_LOG_LEVEL", fun value c => some { c with logLevel := value }⟩]

/-- Applies variables up to the first whose value cannot be accepted. -/
def mergeAll (env : Environment) : List Variable → Config → Config × Except ConfigError Unit
  | [], c => (c, .ok ())
  | v :: rest, c =>
    match env v.name with
    | none => mergeAll env rest c
    | some value =>
      match v.apply value c with
      | some c => mergeAll env rest c
      | none => (c, .error (.invalid v.name value))

/-- Applies the environment. The configuration is given also where a value cannot be accepted, as
far as it had come. -/
def merge (env : Environment) (c : Config) : Config × Except ConfigError Unit :=
  mergeAll env overrides c

/-- The path of the database, which has to be set. -/
def feedPath (c : Config) : Except ConfigError String :=
  match c.databasePath with
  | some path => .ok path
  | none => .error (.missing "feed.database_path")

end Config

end Findings
