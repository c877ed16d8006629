import Findings.Proofs.Feed.Actions
import Findings.Proofs.Run.Results

/-!
What a run does to its feed. Each step comes down to actions on the feed: an edit of the context to
none, and a synthesis to the lookups of its candidates up to the first that cannot be resolved. The
feed after a run is what its actions make of it (`State.feed_after`), and what the feed tells in a
run is what it tells of the actions (`State.feedEvents_messages`).
-/

namespace Findings

open Synthesis

/-! ## Syntheses -/

namespace Synthesis

/-- The lookups of candidates, up to the first that cannot be resolved. -/
def lookups (clock : Clock) : List Candidate → Feed → List Action
  | [], _ => []
  | candidate :: rest, f =>
    let fetched := f.fetch (clock.fetching candidate.id) candidate.id
    .fetch (clock.fetching candidate.id) candidate.id ::
      match entryOf candidate (clock.detected candidate.id) fetched.answer with
      | .error _ => []
      | .ok _ => lookups clock rest fetched.feed

variable (agent : String) (clock : Clock)

/-- A synthesis does nothing to the feed but look identifiers up. -/
theorem eq_fetch_of_mem_lookups {clock : Clock} {candidates : List Candidate} {f : Feed}
    {action : Action} (member : action ∈ lookups clock candidates f) :
    ∃ id, action = .fetch (clock.fetching id) id := by
  induction candidates generalizing f with
  | nil => cases member
  | cons candidate rest ih =>
    rw [lookups] at member
    rcases List.mem_cons.mp member with rfl | later
    · exact ⟨candidate.id, rfl⟩
    · split at later
      · cases later
      · exact ih later

/-- The feed moves on by the lookups of the candidates that are looked at. -/
theorem feed_resolveAll (candidates : List Candidate) (f : Feed) :
    (resolveAll agent clock candidates f).feed = f.perform (lookups clock candidates f) := by
  induction candidates generalizing f with
  | nil => rfl
  | cons candidate rest ih =>
    rw [resolveAll, lookups, Feed.perform_cons]
    dsimp only
    cases entryOf candidate (clock.detected candidate.id)
      (f.fetch (clock.fetching candidate.id) candidate.id).answer with
    | error e => rfl
    | ok entry => exact ih _

/-- The feed tells of a walk what it tells of its lookups. -/
theorem feedEvents_resolveAll (candidates : List Candidate) (f : Feed) :
    feedEvents (resolveAll agent clock candidates f).messages =
      f.tellings (lookups clock candidates f) := by
  induction candidates generalizing f with
  | nil => rfl
  | cons candidate rest ih =>
    rw [resolveAll, lookups, Feed.tellings]
    dsimp only
    cases entryOf candidate (clock.detected candidate.id)
      (f.fetch (clock.fetching candidate.id) candidate.id).answer with
    | error e =>
      rw [feedEvents_append, feedEvents_map_pass]
      rfl
    | ok entry =>
      dsimp only
      rw [feedEvents_append, feedEvents_append, feedEvents_map_pass, ih]
      exact congrArg (· ++ _) (List.append_nil _)

end Synthesis

/-- The lookups of a synthesis. -/
def Context.lookups (c : Context) (f : Feed) (clock : Clock) : List Action :=
  match itemIdOf c with
  | .error _ => []
  | .ok itemId => Synthesis.lookups clock (candidatesOf c itemId) f

namespace Context

variable (c : Context) (f : Feed) (clock : Clock)

/-- Without candidates nothing is looked up. -/
theorem lookups_of_isEmpty {c : Context} (vacant : c.elements.isEmpty = true) :
    c.lookups f clock = [] := by
  unfold lookups
  cases itemIdOf c with
  | error e => rfl
  | ok itemId =>
    dsimp only
    rw [candidatesOf, List.isEmpty_iff.mp vacant]
    rfl

/-- A synthesis leaves the feed as its lookups leave it. -/
theorem feed_synthesize : (c.synthesize f clock).feed = f.perform (c.lookups f clock) := by
  unfold synthesize
  split
  next vacant =>
    rw [lookups_of_isEmpty f clock vacant]
    rfl
  next =>
    unfold lookups
    cases itemIdOf c with
    | error e => rfl
    | ok itemId =>
      dsimp only
      rw [← feed_resolveAll c.agent.id]
      split <;> rfl

theorem feedEvents_synthesize :
    feedEvents (c.synthesize f clock).messages = f.tellings (c.lookups f clock) := by
  unfold synthesize
  split
  next vacant =>
    rw [lookups_of_isEmpty f clock vacant]
    rfl
  next =>
    unfold lookups
    cases itemIdOf c with
    | error e => rfl
    | ok itemId =>
      dsimp only
      rw [← feedEvents_resolveAll c.agent.id]
      split
      · rfl
      · dsimp only
        rw [feedEvents_append]
        exact List.append_nil _

end Context

/-! ## Runs -/

/-- What a step replies that looks an identifier up. -/
def Reply.ofAnswer : Except FeedError Record → Except Error Reply
  | .ok r => .ok (.record r)
  | .error e => .error (.feed e)

namespace State

theorem result_fetch (s : State) (clock : Clock) (id : String) :
    (s.step clock (.fetch id)).result =
      Reply.ofAnswer (s.feed.fetch (clock.fetching id) id).answer := by
  unfold State.step
  dsimp only
  cases (s.feed.fetch (clock.fetching id) id).answer <;> rfl

/-- What a step does to the feed. -/
def actionsOf (s : State) (clock : Clock) : Step → List Action
  | .put id record =>
    match record.encode with
    | .ok bytes => [.write id bytes]
    | .error _ => []
  | .putRaw id bytes => [.write id bytes]
  | .fetch id => [.fetch (clock.fetching id) id]
  | .purge => [.purge clock.sweeping]
  | .synthesize => s.context.lookups s.feed clock
  | .begin _ | .setPayload _ | .add _ _ | .remove _ | .clear | .setCondition _ _
  | .clearConditions =>
    []

/-- What a run does to its feed. -/
def actions (s : State) : List (Clock × Step) → List Action
  | [] => []
  | (clock, step) :: rest => s.actionsOf clock step ++ (s.step clock step).state.actions rest

/-- What is told in a run, in order. -/
def messages (s : State) (steps : List (Clock × Step)) : List Message :=
  (s.walk steps).flatMap Effect.messages

theorem actions_append (s : State) (steps more : List (Clock × Step)) :
    s.actions (steps ++ more) = s.actions steps ++ (s.after steps).actions more := by
  induction steps generalizing s with
  | nil => rfl
  | cons timed rest ih =>
    obtain ⟨clock, step⟩ := timed
    rw [List.cons_append, actions, actions, ih, after_cons, List.append_assoc]

theorem messages_cons (s : State) (clock : Clock) (step : Step) (rest : List (Clock × Step)) :
    s.messages ((clock, step) :: rest) =
      (s.step clock step).messages ++ (s.step clock step).state.messages rest := List.flatMap_cons

/-- A step leaves the feed as its actions leave it. -/
theorem feed_step (s : State) (clock : Clock) (step : Step) :
    (s.step clock step).state.feed = s.feed.perform (s.actionsOf clock step) := by
  cases step with
  | put id record =>
    simp only [State.step, actionsOf, Store.put]
    cases record.encode <;> rfl
  | synthesize => exact s.context.feed_synthesize s.feed clock
  | _ => rfl

/-- What the feed tells in a step is what it tells of its actions. -/
theorem feedEvents_step (s : State) (clock : Clock) (step : Step) :
    feedEvents (s.step clock step).messages = s.feed.tellings (s.actionsOf clock step) := by
  cases step with
  | put id record =>
    simp only [State.step, actionsOf, Store.put]
    cases record.encode <;> rfl
  | fetch id => exact (feedEvents_map_pass _).trans (List.append_nil _).symm
  | synthesize => exact s.context.feedEvents_synthesize s.feed clock
  | _ => rfl

theorem actions_fetch (s : State) (past : List (Clock × Step)) (clock : Clock) (id : String)
    (later : List (Clock × Step)) :
    s.actions (past ++ (clock, .fetch id) :: later) =
      s.actions past ++ .fetch (clock.fetching id) id ::
        ((s.after past).step clock (.fetch id)).state.actions later := by
  rw [actions_append]
  rfl

/-- The feed after a run is what the actions of the run make of it. -/
theorem feed_after (s : State) (steps : List (Clock × Step)) :
    (s.after steps).feed = s.feed.perform (s.actions steps) := by
  induction steps generalizing s with
  | nil => rfl
  | cons timed rest ih =>
    obtain ⟨clock, step⟩ := timed
    rw [after_cons, ih, feed_step, actions, Feed.perform_append]

/-- What the feed tells in a run is what it tells of the actions of the run. -/
theorem feedEvents_messages (s : State) (steps : List (Clock × Step)) :
    feedEvents (s.messages steps) = s.feed.tellings (s.actions steps) := by
  induction steps generalizing s with
  | nil => rfl
  | cons timed rest ih =>
    obtain ⟨clock, step⟩ := timed
    rw [messages_cons, feedEvents_append, ih, feedEvents_step, feed_step, actions,
      Feed.tellings_append]

end State

end Findings
