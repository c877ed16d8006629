import Findings.Entry.Json
import Findings.Json.Print
import Findings.Number.Decimal
import Findings.OutputFormat
import Findings.Text.Table

/-!
Reports: the findings of one run as they are printed, as a JSON array or as a table with a count.
-/

namespace Findings

namespace Entry

/-- The score with its version. -/
def scoreCell (e : Entry) : String :=
  Number.fixedText 1 e.score.base ++ " (v" ++ e.score.version ++ ")"

/-- The cells of an entry. -/
def cells (e : Entry) : List String :=
  [e.id, e.severity, e.scoreCell, e.category, e.condition.getD "-"]

end Entry

namespace Report

/-- The entries as a table. -/
def table (entries : List Entry) : Text.Table where
  header := ["ID", "Severity", "Score", "Category", "Condition"]
  rows := entries.map Entry.cells

/-- The entries as a value. -/
def value (entries : List Entry) : Json := .array (entries.map Entry.toJson)

/-- The report. -/
def text : OutputFormat → List Entry → String
  | .json, entries => (value entries).pretty ++ "\n"
  | .plain, [] => "No vulnerabilities found!\n"
  | .plain, entries =>
    let count := String.ofList (Number.natDigits entries.length)
    (table entries).draw ++ "\n\nVulnerabilities: " ++ count ++ "\n"

end Report

end Findings
