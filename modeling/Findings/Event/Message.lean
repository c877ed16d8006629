import Findings.Event.Identifier
import Findings.Event.Json
import Findings.Event.Moment

/-!
Messages as JSON: an event with what is known of its emission.
-/

namespace Findings

open Json

/-- What is known of an emission. -/
structure Emission where
  id : Identifier
  correlation : Option String
  time : Moment
  level : Level
  source : String
  deriving DecidableEq, Repr

namespace Emission

/-- The fields in order. -/
def shape : Struct where
  title := "struct EventMeta"
  fields := [.required "eventId" Identifier.read, .required "correlationId" Reader.optionalString,
    .required "timestamp" Moment.read, .required "level" Level.read,
    .required "source" Reader.string]

/-- Reads an emission. -/
def read : Reader Emission := fun d => do
  let members ← shape.known .text d
  return {
    id := ← Json.require members "eventId" Identifier.read
    correlation := ← orElse members "correlationId" Reader.optionalString none
    time := ← Json.require members "timestamp" Moment.read
    level := ← Json.require members "level" Level.read
    source := ← Json.require members "source" Reader.string }

/-- The emission as a value. -/
def toJson (e : Emission) : Json :=
  .object [("eventId", .string e.id.text), ("correlationId", .ofOption e.correlation),
    ("timestamp", .string e.time.text), ("level", .string e.level.name),
    ("source", .string e.source)]

end Emission

/-- A message that was written down. -/
structure Notice where
  emission : Emission
  event : Event
  deriving DecidableEq, Repr

namespace Notice

/-- The fields in order. -/
def shape : Struct where
  title := "struct EventMessage"
  fields := [.required "meta" Emission.read, .required "event" Event.read]

/-- Reads a message. -/
def read : Reader Notice := fun d => do
  let members ← shape.known .text d
  return {
    emission := ← Json.require members "meta" Emission.read
    event := ← Json.require members "event" Event.read }

/-- The message as a value. -/
def toJson (n : Notice) : Json :=
  .object [("meta", n.emission.toJson), ("event", n.event.toJson)]

end Notice

end Findings
