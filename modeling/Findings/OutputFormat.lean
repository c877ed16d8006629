import Findings.Json.Shape

/-!
The forms in which findings are printed.
-/

namespace Findings

open Json

/-- How findings are printed. -/
inductive OutputFormat where
  | plain
  | json
  deriving DecidableEq, Repr

namespace OutputFormat

instance : Inhabited OutputFormat := ⟨json⟩

/-- The written name. -/
def name : OutputFormat → String
  | plain => "plain"
  | json => "json"

/-- The written names with what they mean. -/
def cases : List (String × OutputFormat) := [(name plain, plain), (name json, json)]

/-- Reads a form. -/
def read (source : Source) : Reader OutputFormat := unitVariant source cases

/-- The form of a name. -/
def ofName? (name : String) : Option OutputFormat := cases.lookup name

end OutputFormat

end Findings
