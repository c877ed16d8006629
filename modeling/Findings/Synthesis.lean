import Findings.Context
import Findings.Event.Basic
import Findings.Feed.Basic

/-!
Synthesis: the candidates of a context are resolved one after the other, in the order of their
identifiers, and the entries are appended to the results. Either every candidate resolves, or the
first that does not decides and the context stays as it was.
-/

namespace Findings

/-- What a step reads from the clock, by the identifier it reads it for. Identifiers are fetched in
ascending order, and time does not go back from one fetch to the next. -/
structure Clock where
  /-- When the entry of a candidate is built. -/
  detected : String → String
  /-- What the fetch of an identifier reads. -/
  fetching : String → Readings
  /-- When a sweep by hand comes to the entry of an identifier. -/
  sweeping : String → Nat
  steady : ∀ first later, Utf8.Before first later →
    ∀ id, (fetching first).swept id ≤ (fetching later).asked

/-- Time stands still. -/
def Clock.still (detected : String) : Clock where
  detected := fun _ => detected
  fetching := fun _ => ⟨0, 0, fun _ => 0⟩
  sweeping := fun _ => 0
  steady := fun _ _ _ _ => Nat.le_refl 0

/-- How far the resolution of candidates went. -/
structure Progress where
  /-- The entries that were built. -/
  entries : List Entry
  /-- The candidate that could not be resolved, if there is one, with the reason. -/
  failure : Option (String × Error)
  /-- What was told on the way. -/
  messages : List Message
  /-- The feed afterwards. -/
  feed : Feed

/-- The result of a synthesis. -/
structure Outcome where
  /-- The entries that were appended, or the reason why none were. -/
  result : Except Error (List Entry)
  context : Context
  feed : Feed
  messages : List Message
  /-- What is worth noting of the entries that were built, with their candidates. -/
  notes : List (String × Note)

namespace Synthesis

/-- A scan event on its way, tied to the agent. -/
def say (agent : String) (event : ScanEvent) : Message := ⟨some agent, .scan event⟩

/-- A feed event on its way. -/
def pass (event : FeedEvent) : Message := ⟨none, .feed event⟩

/-- The inventory identifier that entries show: of a package it has to be known. -/
def itemIdOf (c : Context) : Except Error (Option String) :=
  if c.scanner.requiresItemId then
    match c.itemId with
    | some id => .ok (some id)
    | none => .error (.scan (.invalidPayload "package item id is empty"))
  else .ok none

/-- The candidates of a context in ascending order. -/
def candidatesOf (c : Context) (itemId : Option String) : List Candidate :=
  c.elements.entries.map fun (id, remark) =>
    { id, scanner := c.scanner, itemId, remark, condition := c.conditions.get? id }

/-- The entry of a candidate whose description was asked for. -/
def entryOf (candidate : Candidate) (detectedAt : String) :
    Except FeedError Record → Except Error Entry
  | .error e => .error (.feed e)
  | .ok r =>
    match Entry.build candidate detectedAt r with
    | .ok entry => .ok entry
    | .error e => .error (.scan e)

/-- Resolves candidates up to the first that cannot be resolved. -/
def resolveAll (agent : String) (clock : Clock) : List Candidate → Feed → Progress
  | [], feed => ⟨[], none, [], feed⟩
  | candidate :: rest, feed =>
    let fetched := feed.fetch (clock.fetching candidate.id) candidate.id
    let told := fetched.events.map pass
    match entryOf candidate (clock.detected candidate.id) fetched.answer with
    | .error e =>
      ⟨[], some (candidate.id, e),
        told ++ [say agent (.failed agent (some candidate.id) (.ofError e))], fetched.feed⟩
    | .ok entry =>
      let further := resolveAll agent clock rest fetched.feed
      { further with
        entries := entry :: further.entries
        messages := told ++ [say agent (.emitted candidate.id entry.severity)] ++
          further.messages }

end Synthesis

open Synthesis in
/-- Reports the candidates of a context. -/
def Context.synthesize (c : Context) (feed : Feed) (clock : Clock) : Outcome :=
  if c.elements.isEmpty then ⟨.ok [], c, feed, [], []⟩
  else
    let agent := c.agent.id
    let started := say agent (.started agent c.scanner.name (UInt64.ofNat c.elements.size))
    match itemIdOf c with
    | .error e => ⟨.error e, c, feed, [started, say agent (.failed agent none (.ofError e))], []⟩
    | .ok itemId =>
      let candidates := candidatesOf c itemId
      let progress := resolveAll agent clock candidates feed
      let notes := (candidates.zip progress.entries).flatMap fun (candidate, entry) =>
        (Entry.notes candidate entry).map fun note => (candidate.id, note)
      match progress.failure with
      | some (_, e) => ⟨.error e, c, progress.feed, started :: progress.messages, notes⟩
      | none =>
        let count := UInt64.ofNat progress.entries.length
        ⟨.ok progress.entries, { c with results := c.results ++ progress.entries },
          progress.feed,
          started :: progress.messages ++ [say agent (.completed agent count)], notes⟩

end Findings
