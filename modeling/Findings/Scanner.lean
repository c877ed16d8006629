import Findings.Error
import Findings.Json.Shape
import Findings.Text.Case

/-!
The kinds of inventory a scan is made of.
-/

namespace Findings

open Json

/-- The kind of thing that is scanned. -/
inductive Scanner where
  | package
  | os
  deriving DecidableEq, Repr, Inhabited

namespace Scanner

/-- The written name. -/
def name : Scanner → String
  | package => "package"
  | os => "os"

/-- The category that report entries show. -/
def category : Scanner → String
  | package => "Packages"
  | os => "OS"

/-- What is scanned has an inventory identifier. -/
def requiresItemId : Scanner → Bool
  | package => true
  | os => false

/-- The written names with what they mean. -/
def cases : List (String × Scanner) := [(name package, package), (name os, os)]

/-- Reads a kind. -/
def read (source : Source) : Reader Scanner := unitVariant source cases

/-- The kind that a word in any case stands for. -/
def ofWord (word : String) : Except ScanError Scanner :=
  let folded := Text.foldAscii word
  if folded = "package" ∨ folded = "packages" then .ok package
  else if folded = "os" then .ok os
  else .error (.unknownScanner word)

end Scanner

end Findings
