import Findings.Config

/-!
Arguments of the command line. They are read from left to right, and the first that cannot be
accepted decides, unless help or the version was asked for before it.
-/

namespace Findings.Command

/-- What may be said of a run besides its context. -/
structure Options where
  /-- The log is written as JSON. -/
  json : Bool := false
  /-- The log tells more. -/
  detail : Bool := false
  /-- Nothing is cached. -/
  noCache : Bool := false
  output : Option OutputFormat := none
  /-- The path of the database. -/
  feed : Option String := none
  /-- The path of the configuration. -/
  config : Option String := none
  deriving DecidableEq, Repr

/-- The arguments of a run. -/
structure Arguments extends Options where
  /-- The path of the scan context; a dash stands for standard input. -/
  context : String
  deriving DecidableEq, Repr

/-- Why arguments cannot be accepted. -/
inductive Misuse where
  | unknown (argument : String)
  | repeated (option : String)
  | valueMissing (option : String)
  | valueUnexpected (option : String)
  | valueInvalid (option value : String)
  | surplus (argument : String)
  | contextMissing
  deriving DecidableEq, Repr

/-- What arguments ask for. -/
inductive Demand where
  | run (arguments : Arguments)
  | version
  | help
  deriving DecidableEq, Repr

/-- The complaint. -/
def Misuse.message : Misuse → String
  | unknown argument => "unexpected argument " ++ argument
  | repeated option => option ++ " can be given only once"
  | valueMissing option => option ++ " needs a value"
  | valueUnexpected option => option ++ " takes no value"
  | valueInvalid option value => "invalid value for " ++ option ++ ": " ++ value
  | surplus argument => "unexpected argument " ++ argument
  | contextMissing => "no scan context is given"

namespace Arguments

/-! ## Single arguments -/

/-- Switches take no value. -/
inductive Switch where
  | json
  | detail
  | noCache
  deriving DecidableEq, Repr

/-- Options take a value. -/
inductive Setting where
  | output
  | feed
  | config
  deriving DecidableEq, Repr

/-- What an argument with two dashes names. -/
inductive Named where
  | switch (switch : Switch)
  | setting (setting : Setting)
  | version
  | help
  deriving DecidableEq, Repr

/-- The names behind two dashes. -/
def names : List (String × Named) := [
  ("json", .switch .json), ("debug", .switch .detail), ("no-cache", .switch .noCache),
  ("output", .setting .output), ("feed", .setting .feed), ("config", .setting .config),
  ("version", .version), ("help", .help)]

/-- Turns a switch on, which is done once. -/
def turnOn (o : Options) (argument : String) (s : Switch) : Except Misuse Options :=
  let (given, next) := match s with
    | .json => (o.json, { o with json := true })
    | .detail => (o.detail, { o with detail := true })
    | .noCache => (o.noCache, { o with noCache := true })
  if given then .error (.repeated argument) else .ok next

/-- A path, which is not empty. -/
def path? (value : String) : Option String := if value.isEmpty then none else some value

/-- Gives an option its value, which is done once. -/
def give (o : Options) (name value : String) (s : Setting) : Except Misuse Options :=
  let (given, next) := match s with
    | .output => (o.output.isSome, (OutputFormat.ofName? value).map fun output =>
      { o with output := some output })
    | .feed => (o.feed.isSome, (path? value).map fun path => { o with feed := some path })
    | .config => (o.config.isSome, (path? value).map fun path => { o with config := some path })
  if given then .error (.repeated name)
  else match next with
    | some o => .ok o
    | none => .error (.valueInvalid name value)

/-- Takes the path of the context, which is one. -/
def take (context : Option String) (argument : String) : Except Misuse (Option String) :=
  if context.isSome then .error (.surplus argument)
  else match path? argument with
    | some path => .ok (some path)
    | none => .error .contextMissing

/-- The arguments are complete with a context. -/
def complete (context : Option String) (o : Options) : Except Misuse Demand :=
  match context with
  | some context => .ok (.run { o with context })
  | none => .error .contextMissing

/-! ## All of them -/

/-- The forms of an argument. -/
inductive Form where
  /-- Two dashes alone. -/
  | ending
  /-- Two dashes, a name, and a value behind an equals sign if there is one. -/
  | long (name : String) (value : Option String)
  /-- A dash and letters. -/
  | short (letter : Char)
  | bare
  deriving DecidableEq, Repr

/-- The form of an argument. A dash alone is bare. -/
def formOf (argument : String) : Form :=
  match argument.toList with
  | ['-', '-'] => .ending
  | '-' :: '-' :: cs =>
    let name := String.ofList (cs.takeWhile (· != '='))
    match cs.dropWhile (· != '=') with
    | [] => .long name none
    | _ :: value => .long name (some (String.ofList value))
  | '-' :: letter :: _ => .short letter
  | _ => .bare

/-- Reads what stands behind two dashes, where nothing is an option. -/
def readBare (o : Options) (context : Option String) : List String → Except Misuse Demand
  | [] => complete context o
  | argument :: rest => do readBare o (← take context argument) rest

/-- Reads arguments, after options and a context that were read before. -/
def read (o : Options) (context : Option String) : List String → Except Misuse Demand
  | [] => complete context o
  | argument :: rest =>
    match formOf argument with
    | .ending => readBare o context rest
    | .bare => do read o (← take context argument) rest
    | .short 'V' => .ok .version
    | .short 'h' => .ok .help
    | .short _ => .error (.unknown argument)
    | .long name value =>
      match names.lookup name, value with
      | none, _ => .error (.unknown argument)
      | some .version, none => .ok .version
      | some .help, none => .ok .help
      | some (.switch s), none => do read (← turnOn o argument s) context rest
      | some (.setting s), some value => do read (← give o name value s) context rest
      | some (.setting s), none =>
        match rest with
        | [] => .error (.valueMissing name)
        | value :: rest =>
          match formOf value with
          | .bare => do read (← give o name value s) context rest
          | _ => .error (.valueMissing name)
      | some _, some _ => .error (.valueUnexpected name)

end Arguments

/-- What the arguments of a command ask for. -/
def Demand.ofArguments (arguments : List String) : Except Misuse Demand :=
  Arguments.read {} none arguments

/-- The configuration under the arguments, which go before what it says. -/
def Arguments.apply (a : Arguments) (c : Config) : Config :=
  { c with
    output := a.output.getD c.output
    databasePath := a.feed.or c.databasePath
    cacheEnabled := !a.noCache && c.cacheEnabled
    logJson := a.json || c.logJson }

end Findings.Command
