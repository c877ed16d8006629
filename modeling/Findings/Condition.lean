import Findings.Json.Shape

/-!
Match conditions: how the installed version of a candidate stands to the version that bounds the
vulnerability. The matcher decides; here it is only put into words.
-/

namespace Findings

open Json

/-- How the installed version stands to the bound. -/
inductive Operator where
  | equal
  | lessThan
  | lessOrEqual
  | greaterThan
  | greaterOrEqual
  | defaultStatus
  | unknown
  deriving DecidableEq, Repr, Inhabited

namespace Operator

/-- The written name. -/
def name : Operator → String
  | equal => "equal"
  | lessThan => "less_than"
  | lessOrEqual => "less_or_equal"
  | greaterThan => "greater_than"
  | greaterOrEqual => "greater_or_equal"
  | defaultStatus => "default_status"
  | unknown => "unknown"

/-- Every operator. -/
def all : List Operator :=
  [equal, lessThan, lessOrEqual, greaterThan, greaterOrEqual, defaultStatus, unknown]

/-- The written names with what they mean. -/
def cases : List (String × Operator) := all.map fun operator => (operator.name, operator)

/-- Reads an operator. -/
def read (source : Source) : Reader Operator := unitVariant source cases

/-- The operator of a name. -/
def ofName? (name : String) : Option Operator := cases.lookup name

end Operator

/-- A match condition of one candidate. -/
structure Condition where
  version : String := ""
  operator : Operator := .unknown
  deriving DecidableEq, Repr, Inhabited

namespace Condition

/-- The condition in words; an unknown operator has none. -/
def describe (c : Condition) : Option String :=
  match c.operator with
  | .equal => some ("Package equal to " ++ c.version)
  | .lessThan => some ("Package less than " ++ c.version)
  | .lessOrEqual => some ("Package less than or equal to " ++ c.version)
  | .greaterThan => some ("Package greater than " ++ c.version)
  | .greaterOrEqual => some ("Package greater than or equal to " ++ c.version)
  | .defaultStatus => some "Package default status"
  | .unknown => none

/-- The fields in order. -/
def shape (source : Source) : Struct where
  title := "struct MatchCondition"
  fields := [.required "version" Reader.string, .required "condition" (Operator.read source)]

/-- Reads a condition. -/
def read (source : Source) : Reader Condition := fun d => do
  let members ← (shape source).known source d
  return {
    version := ← require members "version" Reader.string
    operator := ← require members "condition" (Operator.read source) }

/-- The condition as a value. -/
def toJson (c : Condition) : Json :=
  .object [("version", .string c.version), ("condition", .string c.operator.name)]

end Condition

end Findings
