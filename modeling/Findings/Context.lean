import Findings.Entry.Basic
import Findings.Scanner
import Findings.Subject

/-!
Scan contexts: one subject with the candidates that the matcher found for it, and the entries that
have been reported so far. Entries are never written out with a context nor read with it.
-/

namespace Findings

open Json

/-- A unit of work. -/
structure Context where
  scanner : Scanner
  agent : Agent := {}
  system : SystemFacts := {}
  payload : Payload := .empty
  /-- The candidates, each with what the matcher says of it. -/
  elements : Keyed Remark := ∅
  /-- Match conditions, by candidate. -/
  conditions : Keyed Condition := ∅
  /-- The entries reported so far. -/
  results : List Entry := []

namespace Context

/-- The inventory identifier of the subject, unless it is absent or empty. -/
def itemId (c : Context) : Option String := c.payload.itemId

/-- Adds a candidate, or says anew what the matcher says of it. -/
def add (c : Context) (id : String) (remark : Remark) : Context :=
  { c with elements := c.elements.insert id remark }

/-- Takes a candidate away. -/
def remove (c : Context) (id : String) : Context := { c with elements := c.elements.erase id }

/-- Gives a candidate its match condition. -/
def setCondition (c : Context) (id : String) (condition : Condition) : Context :=
  { c with conditions := c.conditions.insert id condition }

/-- The fields in order. -/
def shape (source : Source) : Struct where
  title := "struct ScanContext"
  fields := [
    .required "type" (Scanner.read source),
    .defaulted "agent" (Agent.read source),
    .defaulted "os" (SystemFacts.read source),
    .defaulted "payload" (Payload.read source),
    .defaulted "elements" (Reader.keyed Reader.remark),
    .defaulted "match_conditions" (Reader.keyed (Condition.read source))]

/-- Reads a context. -/
def read (source : Source) : Reader Context := fun d => do
  let members ← (shape source).known source d
  return {
    scanner := ← Json.require members "type" (Scanner.read source)
    agent := ← orElse members "agent" (Agent.read source) {}
    system := ← orElse members "os" (SystemFacts.read source) {}
    payload := ← orElse members "payload" (Payload.read source) .empty
    elements := ← orElse members "elements" (Reader.keyed Reader.remark) ∅
    conditions := ← orElse members "match_conditions" (Reader.keyed (Condition.read source)) ∅ }

/-- The context as a value, without its entries. -/
def toJson (c : Context) : Json :=
  .object [("type", .string c.scanner.name), ("agent", c.agent.toJson), ("os", c.system.toJson),
    ("payload", c.payload.toJson),
    ("elements", .object (c.elements.map Remark.value).entries),
    ("match_conditions", .object (c.conditions.map Condition.toJson).entries)]

end Context

end Findings
