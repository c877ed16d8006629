import Findings.Synthesis

/-!
Runs: steps that edit a context, write to a store, fetch and synthesize, in any order. A step that
fails changes nothing but what a fetch does to the cache.
-/

namespace Findings

/-- One step of a run. -/
inductive Step where
  /-- Begins anew with another context. -/
  | begin (context : Context)
  | setPayload (payload : Payload)
  | add (id : String) (remark : Remark)
  | remove (id : String)
  | clear
  | setCondition (id : String) (condition : Condition)
  | clearConditions
  | put (id : String) (record : Record)
  | putRaw (id : String) (bytes : List UInt8)
  | fetch (id : String)
  | purge
  | synthesize

/-- What a step answers. -/
inductive Reply where
  | done
  | record (record : Record)
  | entries (entries : List Entry)

/-- Where a run stands. -/
structure State where
  context : Context
  feed : Feed

/-- What a step does. -/
structure Effect where
  result : Except Error Reply
  state : State
  /-- What was told on the way. -/
  messages : List Message

namespace State

/-- A step that only edits the context. -/
def edit (s : State) (context : Context) : Effect := ⟨.ok .done, { s with context }, []⟩

/-- A step that only changes the feed. -/
def supply (s : State) (feed : Feed) : Effect := ⟨.ok .done, { s with feed }, []⟩

/-- Takes a step. -/
def step (s : State) (clock : Clock) : Step → Effect
  | .begin context => s.edit context
  | .setPayload payload => s.edit { s.context with payload }
  | .add id remark => s.edit (s.context.add id remark)
  | .remove id => s.edit (s.context.remove id)
  | .clear => s.edit { s.context with elements := ∅ }
  | .setCondition id condition => s.edit (s.context.setCondition id condition)
  | .clearConditions => s.edit { s.context with conditions := ∅ }
  | .put id record =>
    match s.feed.store.put id record with
    | .ok store => s.supply { s.feed with store }
    | .error e => ⟨.error (.feed e), s, []⟩
  | .putRaw id bytes => s.supply { s.feed with store := s.feed.store.putRaw id bytes }
  | .fetch id =>
    let fetched := s.feed.fetch (clock.fetching id) id
    let result := match fetched.answer with
      | .ok record => .ok (.record record)
      | .error e => .error (.feed e)
    ⟨result, { s with feed := fetched.feed }, fetched.events.map Synthesis.pass⟩
  | .purge => s.supply (s.feed.purge clock.sweeping)
  | .synthesize =>
    let outcome := s.context.synthesize s.feed clock
    ⟨outcome.result.map Reply.entries, ⟨outcome.context, outcome.feed⟩, outcome.messages⟩

/-- Takes steps one after the other, each by a clock of its own; the effects are listed in order. -/
def walk (s : State) : List (Clock × Step) → List Effect
  | [] => []
  | (clock, step) :: rest =>
    let effect := s.step clock step
    effect :: effect.state.walk rest

/-- Takes steps while time stands still. -/
def run (s : State) (detectedAt : String) (steps : List Step) : List Effect :=
  s.walk (steps.map fun step => (.still detectedAt, step))

end State

end Findings
