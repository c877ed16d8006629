import Findings.Event.Basic
import Findings.Json.Shape

/-!
Events as JSON. An event stands under the name of its domain, and within it the kind of event is a
member of its own, `type`, beside the members that this kind has. Members come in any order, so
what stands before the kind is kept until the kind is known.
-/

namespace Findings

open Json

namespace Failure

/-- The fields in order. -/
def shape : Struct where
  title := "struct FailureContext"
  fields := [.required "code" Reader.optionalString, .required "message" Reader.string,
    .required "hint" Reader.optionalString, .required "retryable" Reader.bool]

/-- Reads a failure. -/
def read (source : Source) : Reader Failure := fun d => do
  let members ← shape.known source d
  return {
    code := ← orElse members "code" Reader.optionalString none
    message := ← Json.require members "message" Reader.string
    hint := ← orElse members "hint" Reader.optionalString none
    retryable := ← Json.require members "retryable" Reader.bool }

/-- The failure as a value. -/
def toJson (f : Failure) : Json :=
  .object (optionalMember "code" f.code ++ [("message", .string f.message)] ++
    optionalMember "hint" f.hint ++ [("retryable", .bool f.retryable)])

end Failure

/-- Reads the name of a kind. Where the value was kept, a number counts the kinds. -/
def Json.kindOf (source : Source) (kinds : List String) : Reader String := fun d =>
  match source, d with
  | _, .string name =>
    if kinds.contains name then .ok name else .error (.variant name kinds)
  | .kept, .number (.integer n) =>
    if n < 0 then mismatch "variant identifier" d
    else match kinds[n.toNat]? with
      | some name => .ok name
      | none => .error (.value (.integer n) s!"variant index 0 <= i < {kinds.length}")
  | _, d => mismatch "variant identifier" d

/-- Splits the member `type` from the others, which have to be readable. -/
def Json.splitKind (source : Source) (kinds : List String) (kind : Option String) :
    List (String × Draft) → Except ShapeError (Option String × List (String × Draft))
  | [] => .ok (kind, [])
  | (key, d) :: rest =>
    if key = "type" then do
      if kind.isSome then throw (.duplicate "type")
      let name ← kindOf source kinds d
      splitKind source kinds (some name) rest
    else do
      if d.value?.isNone then throw .malformed
      let (kind, others) ← splitKind source kinds kind rest
      return (kind, (key, d) :: others)

/-- Reads the kind of an event, and keeps the rest of it. -/
def Json.tagged (title : String) (source : Source) (kinds : List String) :
    Reader (String × Draft) := fun d => do
  match d with
  | .object members closed =>
    let (kind, others) ← splitKind source kinds none members
    if !closed then throw .malformed
    match kind with
    | some kind => return (kind, .object others true)
    | none => throw (.missing "type")
  | .array [] => throw (.missing "type")
  | .array (item :: rest) =>
    let kind ← kindOf source kinds item
    if (Draft.values? rest).isNone then throw .malformed
    return (kind, .array rest)
  | d => mismatch title d

namespace ScanEvent

/-- The kinds of event. -/
def kinds : List String :=
  ["ResponseStarted", "EntryEmitted", "ResponseCompleted", "ResponseFailed"]

/-- The fields of each kind in order. -/
def shape (kind : String) : Struct where
  title := "struct variant ScanEvent::" ++ kind
  fields :=
    if kind = "ResponseStarted" then
      [.required "agent_id" Reader.string, .required "scanner" Reader.string,
        .required "candidates" (Reader.word "usize")]
    else if kind = "EntryEmitted" then
      [.required "cve_id" Reader.string, .required "severity" Reader.string]
    else if kind = "ResponseCompleted" then
      [.required "agent_id" Reader.string, .required "entries" (Reader.word "usize")]
    else
      [.required "agent_id" Reader.string, .required "cve_id" Reader.optionalString,
        .required "failure" (Failure.read .kept)]

/-- Reads an event of a known kind. -/
def readKind (kind : String) : Reader ScanEvent := fun d => do
  let members ← (shape kind).known .kept d
  let text (name : String) := Json.require members name Reader.string
  let count (name : String) := Json.require members name (Reader.word "usize")
  if kind = "ResponseStarted" then
    return started (← text "agent_id") (← text "scanner") (← count "candidates")
  else if kind = "EntryEmitted" then
    return emitted (← text "cve_id") (← text "severity")
  else if kind = "ResponseCompleted" then
    return completed (← text "agent_id") (← count "entries")
  else
    return failed (← text "agent_id") (← orElse members "cve_id" Reader.optionalString none)
      (← Json.require members "failure" (Failure.read .kept))

/-- Reads an event. -/
def read (source : Source) : Reader ScanEvent := fun d => do
  let (kind, rest) ← tagged "internally tagged enum ScanEvent" source kinds d
  readKind kind rest

/-- The event as a value. -/
def toJson : ScanEvent → Json
  | started agent scanner candidates =>
    .object [("type", .string "ResponseStarted"), ("agent_id", .string agent),
      ("scanner", .string scanner), ("candidates", .ofNat candidates.toNat)]
  | emitted id severity =>
    .object [("type", .string "EntryEmitted"), ("cve_id", .string id),
      ("severity", .string severity)]
  | completed agent entries =>
    .object [("type", .string "ResponseCompleted"), ("agent_id", .string agent),
      ("entries", .ofNat entries.toNat)]
  | failed agent id failure =>
    .object [("type", .string "ResponseFailed"), ("agent_id", .string agent),
      ("cve_id", .ofOption id), ("failure", failure.toJson)]

end ScanEvent

namespace FeedEvent

/-- The kinds of event. -/
def kinds : List String := ["LookupMiss", "CacheHit", "DecodeFailed"]

/-- The fields of each kind in order. -/
def shape (kind : String) : Struct where
  title := "struct variant FeedEvent::" ++ kind
  fields :=
    if kind = "DecodeFailed" then
      [.required "cve_id" Reader.string, .required "message" Reader.string]
    else [.required "cve_id" Reader.string]

/-- Reads an event of a known kind. -/
def readKind (kind : String) : Reader FeedEvent := fun d => do
  let members ← (shape kind).known .kept d
  let id ← Json.require members "cve_id" Reader.string
  if kind = "LookupMiss" then return miss id
  else if kind = "CacheHit" then return hit id
  else return undecodable id (← Json.require members "message" Reader.string)

/-- Reads an event. -/
def read (source : Source) : Reader FeedEvent := fun d => do
  let (kind, rest) ← tagged "internally tagged enum FeedEvent" source kinds d
  readKind kind rest

/-- The event as a value. -/
def toJson : FeedEvent → Json
  | miss id => .object [("type", .string "LookupMiss"), ("cve_id", .string id)]
  | hit id => .object [("type", .string "CacheHit"), ("cve_id", .string id)]
  | undecodable id message =>
    .object [("type", .string "DecodeFailed"), ("cve_id", .string id),
      ("message", .string message)]

end FeedEvent

namespace Event

/-- The name of the kind of value, in errors. -/
def title : String := "adjacently tagged enum AppEvent"

/-- The domains by name. -/
def domains : List (String × Domain) := [(Domain.name .scan, .scan), (Domain.name .feed, .feed)]

/-- Reads a domain. -/
def readDomain : Reader Domain := unitVariant .text domains

/-- Reads a domain where nothing but its name may stand. -/
def readDomainName : Reader Domain := fun d => do
  match domains.lookup (← kindOf .text (domains.map Prod.fst) d) with
  | some domain => return domain
  | none => throw .malformed

/-- Reads an event of a known domain. -/
def readIn (source : Source) : Domain → Reader Event
  | .scan => fun d => (ScanEvent.read source d).map scan
  | .feed => fun d => (FeedEvent.read source d).map feed

/-- Members that matter to an event, up to the first that does. -/
def relevant (members : List (String × Draft)) : List (String × Draft) :=
  members.dropWhile fun m => m.1 != "domain" && m.1 != "event"

/-- Refuses what follows a complete event if it names a part anew. -/
def nothingAnew (members : List (String × Draft)) (closed : Bool) :
    Except ShapeError Unit := do
  match relevant members with
  | (key, _) :: _ => throw (.duplicate key)
  | [] => if !closed then throw .malformed

/-- Reads an event: its domain and what happened, in either order, or both in an array. -/
def read : Reader Event := fun d => do
  match d with
  | .object members closed =>
    let absent (name : String) : Except ShapeError Event :=
      if closed then .error (.missing name) else .error .malformed
    match relevant members with
    | [] => absent "domain"
    | (key, first) :: members =>
      if key = "domain" then
        let domain ← readDomain first
        match relevant members with
        | [] => absent "event"
        | (key, second) :: members =>
          if key = "domain" then throw (.duplicate "domain")
          let event ← readIn .text domain second
          nothingAnew members closed
          return event
      else
        if first.value?.isNone then throw .malformed
        match relevant members with
        | [] => absent "domain"
        | (key, second) :: members =>
          if key = "event" then throw (.duplicate "event")
          let domain ← readDomain second
          let event ← readIn .kept domain first
          nothingAnew members closed
          return event
  | .array [] => throw (.length 0 title)
  | .array [domain] =>
    let _ ← readDomainName domain
    throw (.length 1 title)
  | .array (domain :: event :: rest) =>
    let domain ← readDomainName domain
    let event ← readIn .text domain event
    if rest.isEmpty then return event else throw .malformed
  | d => mismatch title d

/-- The event as a value. -/
def toJson : Event → Json
  | scan event => .object [("domain", .string "scan"), ("event", event.toJson)]
  | feed event => .object [("domain", .string "feed"), ("event", event.toJson)]

end Event

namespace Level

/-- Reads a level. -/
def read : Reader Level := unitVariant .text (all.map fun level => (level.name, level))

/-- The level of a name. -/
def ofName? (name : String) : Option Level := all.find? (·.name == name)

end Level

end Findings
