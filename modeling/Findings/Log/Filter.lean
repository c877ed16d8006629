import Findings.Log.Line
import Findings.Log.Pattern
import Findings.Number.Digits
import Findings.Text.Blank
import Findings.Text.Numeric

/-!
Which lines of the log are written. A filter is a list of directives, each about the lines of some
target or with some field. The directive that is nearest to a line alone decides about it, by the
level the line has to reach.
-/

namespace Findings.Log

/-- The lowest level that is written; without one nothing is. -/
abbrev Threshold := Option Level

/-- The level reaches the threshold. -/
def Threshold.admits (t : Threshold) (level : Level) : Bool :=
  match t with
  | some least => least.rank ≤ level.rank
  | none => false

/-- Reads a threshold: a name in letters of either case, or a number from 0, which admits nothing,
to 5, which admits everything. Nothing at all stands for errors. -/
def Threshold.ofText? (cs : List Char) : Option Threshold :=
  match Number.below? (Nat.pow 2 64) cs with
  | some n => ([none, some .error, some .warn, some .info, some .debug, some .trace] : List _)[n]?
  | none =>
    let word := Text.foldAscii (String.ofList cs)
    if word = "" then some (some .error)
    else if word = "off" then some none
    else (Level.all.find? (·.name == word)).map some

/-- One rule of a filter. -/
structure Directive where
  /-- The targets it is about begin like this. -/
  target : Option (List Char) := none
  /-- The lines it is about have a field of this name. -/
  field : Option (List Char) := none
  /-- It is about spans of work, or about values. No line is written for one or the other. -/
  idle : Bool := false
  threshold : Threshold := some .trace
  deriving DecidableEq, Repr

namespace Directive

/-! ## Reading

A directive is a target, a level, or a target and a level joined by an equals sign. Between the two
a span may stand in brackets, and in it a field in braces, and with the field what its value is
compared with. Marks are looked for in the text without the blanks around it, but the parts are cut
by their positions out of the text as it is. -/

/-- What stands behind an equals sign. Where nothing does, everything is admitted. -/
def thresholdBehind? (cs : List Char) : Option Threshold :=
  if cs.isEmpty then some (some .trace) else Threshold.ofText? cs

/-- What stands alone: a level, or else a target that is admitted whole. -/
def alone (cs : List Char) : Directive :=
  match Threshold.ofText? cs with
  | some threshold => { threshold }
  | none => { target := some cs }

/-- Reads what follows a closing bracket at a position. -/
def behindBracket? (piece : List Char) (position : Nat) (d : Directive) : List Char →
    Option Directive
  | [] => some d
  | '=' :: _ => (thresholdBehind? (piece.drop (position + 1))).map fun threshold =>
    { d with threshold }
  | _ :: _ => none

/-- Reads what follows an opening brace at a position. -/
def behindBrace? (piece : List Char) (position : Nat) (d : Directive) (scanned : List Char) :
    Option Directive :=
  let length := (scanned.takeWhile (· != '\x7d')).length
  let field := (piece.drop position).take length
  match scanned.drop length with
  | _ :: ']' :: rest =>
    let name := field.takeWhile (· != '=')
    let value := (field.drop (name.length + 1)).takeWhile (· != '=')
    if field.isEmpty || !Pattern.isComparable value then none
    else
      let d := { d with field := some name, idle := d.idle || name.length < field.length }
      behindBracket? piece (position + length + 2) d rest
  | _ => none

/-- Reads what follows an opening bracket at a position. -/
def behindOpening? (piece : List Char) (position : Nat) (d : Directive) (scanned : List Char) :
    Option Directive :=
  let length := (scanned.takeWhile fun c => c != ']' && c != '\x7b').length
  match scanned.drop length with
  | ']' :: rest => behindBracket? piece (position + length + 1) { d with idle := true } rest
  | _ :: rest => behindBrace? piece (position + length + 1) { d with idle := 0 < length } rest
  | [] => none

/-- A target or level may begin with this. -/
def begins (c : Char) : Bool := c == '-' || c == ':' || c == '_' || Text.isAlphanumeric c

/-- Reads a directive. -/
def ofText? (piece : List Char) : Option Directive :=
  match Text.strip piece with
  | [] => none
  | '[' :: rest => behindOpening? piece 1 {} rest
  | first :: rest =>
    if !begins first then none
    else
      let length := (rest.takeWhile fun c => c != '=' && c != '[').length + 1
      let d : Directive := { target := some (piece.take length) }
      match rest.drop (length - 1) with
      | [] => some (alone piece)
      | '=' :: _ => (thresholdBehind? (piece.drop (length + 1))).map fun threshold =>
        { d with threshold }
      | _ :: rest => behindOpening? piece (length + 1) d rest

/-! ## Choosing -/

/-- The directive is about the line. -/
def isAbout (d : Directive) (l : Line) : Bool :=
  let target := match d.target with
    | some target => target.isPrefixOf l.target.toList
    | none => true
  let field := match d.field with
    | some name => l.fieldNames.contains (String.ofList name)
    | none => true
  !d.idle && target && field

/-- The first directive is at least as near as the second to a line that both are about. The longer
target is nearer; of equal targets the one with a field, and of two fields the greater name. -/
def isAtLeastAsNear (d e : Directive) : Bool :=
  match d.target.map List.length, e.target.map List.length with
  | none, some _ => false
  | some _, none => true
  | some m, some n => if m = n then fields d.field e.field else n < m
  | none, none => fields d.field e.field
where
  fields : Option (List Char) → Option (List Char) → Bool
    | _, none => true
    | none, some _ => false
    | some a, some b => !decide (a < b)

end Directive

/-- A list of directives, of which later ones replace earlier ones about the same lines. -/
structure Filter where
  directives : List Directive
  deriving Repr

namespace Filter

/-- Admits nothing. -/
def off : Filter := ⟨[{ threshold := none }]⟩

/-- Admits errors. -/
def errors : Filter := ⟨[{ threshold := some .error }]⟩

/-- The texts between commas that are not empty. -/
def pieces (text : String) : List (List Char) :=
  (text.toList.splitOn ',').filter (!·.isEmpty)

/-- Reads directives between commas, each of which has to be right. Without any, nothing is
admitted. -/
def ofText? (text : String) : Option Filter :=
  match pieces text with
  | [] => some off
  | pieces => (pieces.mapM Directive.ofText?).map Filter.mk

/-- Reads directives between commas and passes over those that are not right. Where none is, errors
are admitted. -/
def ofTextLeniently (text : String) : Filter :=
  match (pieces text).filterMap Directive.ofText? with
  | [] => errors
  | directives => ⟨directives⟩

/-- The directive nearest to a line, the last of several that are equally near. -/
def nearest (f : Filter) (l : Line) : Option Directive :=
  (f.directives.filter (·.isAbout l)).foldl (fun best d =>
    match best with
    | some e => if d.isAtLeastAsNear e then some d else best
    | none => some d) none

/-- The line is written. -/
def admits (f : Filter) (l : Line) : Bool :=
  match f.nearest l with
  | some d => d.threshold.admits l.level
  | none => false

/-- The targets of the parts of the program that tell more when asked for detail. -/
def detailed : String := ",vds=debug,vds_scanner=debug,vds_feed=debug"

/-- The filter of a run. What the environment asks for goes first if it is right throughout; else
the configured level holds, with more detail if that is asked for. -/
def choose (asked : Option String) (configured : String) (detail : Bool) : Filter :=
  match asked.bind ofText? with
  | some f => f
  | none => ofTextLeniently (if detail then configured ++ detailed else configured)

end Filter

end Findings.Log
