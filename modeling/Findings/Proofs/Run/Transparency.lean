import Findings.Proofs.Feed.Honesty
import Findings.Proofs.Run.Actions

/-!
Runs that do not write to the store, in lock step over the same store behind two caches. Whatever
the caches are and whenever the steps are taken, the steps give the same results, and they tell the
same but for hits (`State.walk_alike`). Only the time at which an entry was built shows when it was.
-/

namespace Findings

open Synthesis

/-! ## Leaving out when entries were built -/

/-- The entry without the time at which it was built. -/
def Entry.undated (entry : Entry) : Entry := { entry with detectedAt := "" }

/-- The reply without the times at which entries were built. -/
def Reply.undated : Reply → Reply
  | .entries batch => .entries (batch.map Entry.undated)
  | .done => .done
  | .record r => .record r

theorem Reply.undated_entries (result : Except Error (List Entry)) :
    (result.map Reply.entries).map Reply.undated =
      (result.map (List.map Entry.undated)).map Reply.entries := by
  cases result <;> rfl

/-- The context without the times at which its entries were built. -/
def Context.undated (c : Context) : Context :=
  { c with results := c.results.map Entry.undated }

/-- Whether an entry is built does not depend on the time, and neither does what is in it but the
time itself. -/
theorem entryOf_undated (candidate : Candidate) (time time' : String)
    (answer : Except FeedError Record) :
    (∃ e, entryOf candidate time answer = .error e ∧ entryOf candidate time' answer = .error e) ∨
      ∃ entry entry', entryOf candidate time answer = .ok entry ∧
        entryOf candidate time' answer = .ok entry' ∧ entry.undated = entry'.undated := by
  cases answer with
  | error e => exact .inl ⟨_, rfl, rfl⟩
  | ok r =>
    unfold entryOf
    cases faulty : r.faultyField with
    | some field =>
      simp only [Entry.build_of_faultyField faulty]
      exact .inl ⟨_, rfl, rfl⟩
    | none =>
      simp only [Entry.build_of_not_faulty faulty]
      cases Entry.conditionOf candidate.id candidate.condition with
      | error e => exact .inl ⟨_, rfl, rfl⟩
      | ok words => exact .inr ⟨_, _, rfl, rfl, rfl⟩

/-! ## Resolving candidates -/

/-- Resolutions over the same store that went alike, but for hits and times. -/
structure Progress.Alike (p q : Progress) : Prop where
  entries : p.entries.map Entry.undated = q.entries.map Entry.undated
  failure : p.failure = q.failure
  messages : withoutHits p.messages = withoutHits q.messages
  feeds : p.feed.Alike q.feed

/-- Candidates come to the same over feeds that are alike, but for dates and hits. -/
theorem resolveAll_alike (agent : String) (clock clock' : Clock) (candidates : List Candidate)
    {f g : Feed} (alike : f.Alike g) :
    (resolveAll agent clock candidates f).Alike (resolveAll agent clock' candidates g) := by
  induction candidates generalizing f g with
  | nil => exact ⟨rfl, rfl, rfl, alike⟩
  | cons candidate rest ih =>
    have answers := alike.answer_fetch (clock.fetching candidate.id) (clock'.fetching candidate.id)
      candidate.id
    have told := alike.withoutHits_fetch (clock.fetching candidate.id)
      (clock'.fetching candidate.id) candidate.id
    have feeds := alike.fetch (clock.fetching candidate.id) (clock'.fetching candidate.id)
      candidate.id
    have further := ih feeds
    unfold resolveAll
    dsimp only
    rw [← answers]
    rcases entryOf_undated candidate (clock.detected candidate.id) (clock'.detected candidate.id)
        (f.fetch (clock.fetching candidate.id) candidate.id).answer with
      ⟨e, first, second⟩ | ⟨entry, entry', first, second, same⟩
    · rw [first, second]
      refine ⟨rfl, rfl, ?_, feeds⟩
      rw [withoutHits_append, withoutHits_append, told]
    · have severity : entry.severity = entry'.severity := (congrArg Entry.severity same :)
      rw [first, second]
      refine ⟨?_, further.failure, ?_, further.feeds⟩
      · rw [List.map_cons, List.map_cons, same, further.entries]
      · simp only [withoutHits_append, told, further.messages, severity]

/-! ## Syntheses -/

/-- Syntheses over the same store that went alike, but for hits and times. -/
structure Outcome.Alike (o p : Outcome) : Prop where
  result : o.result.map (List.map Entry.undated) = p.result.map (List.map Entry.undated)
  context : o.context.undated = p.context.undated
  messages : withoutHits o.messages = withoutHits p.messages
  feeds : o.feed.Alike p.feed

/-- Contexts that are equal but for times differ only in their results. -/
theorem Context.eq_of_undated_eq {c d : Context} (same : c.undated = d.undated) :
    ∃ results, d = { c with results } ∧
      c.results.map Entry.undated = results.map Entry.undated := by
  obtain ⟨_, _, _, _, _, _, _⟩ := c
  obtain ⟨_, _, _, _, _, _, results⟩ := d
  simp only [undated, Context.mk.injEq] at same
  obtain ⟨rfl, rfl, rfl, rfl, rfl, rfl, equal⟩ := same
  exact ⟨results, rfl, equal⟩

/-- A synthesis comes to the same over feeds that are alike, but for dates and hits. -/
theorem synthesize_alike {c d : Context} {f g : Feed} (contexts : c.undated = d.undated)
    (feeds : f.Alike g) (clock clock' : Clock) :
    (c.synthesize f clock).Alike (d.synthesize g clock') := by
  obtain ⟨results, rfl, equal⟩ := Context.eq_of_undated_eq contexts
  unfold Context.synthesize
  by_cases vacant : c.elements.isEmpty = true
  · rw [if_pos vacant, if_pos vacant]
    exact ⟨rfl, contexts, rfl, feeds⟩
  · rw [if_neg vacant, if_neg vacant]
    -- Nothing that is asked of the contexts before the end looks at their results.
    have asked : itemIdOf { c with results } = itemIdOf c := rfl
    have listed : candidatesOf { c with results } = candidatesOf c := rfl
    rw [asked, listed]
    cases itemIdOf c with
    | error e => exact ⟨rfl, contexts, rfl, feeds⟩
    | ok itemId =>
      have alike := resolveAll_alike c.agent.id clock clock' (candidatesOf c itemId) feeds
      dsimp only
      generalize resolveAll c.agent.id clock (candidatesOf c itemId) f = p at alike
      generalize resolveAll c.agent.id clock' (candidatesOf c itemId) g = q at alike
      obtain ⟨entries, failure, messages, left⟩ := p
      obtain ⟨entries', failure', messages', right⟩ := q
      obtain ⟨built, rfl, told, further⟩ := alike
      dsimp only at built told further ⊢
      cases failure with
      | some refused =>
        refine ⟨rfl, contexts, ?_, further⟩
        simp only [withoutHits_say_cons, told]
      | none =>
        have count : entries.length = entries'.length := by
          rw [← entries.length_map Entry.undated, built, List.length_map]
        refine ⟨congrArg Except.ok built, ?_, ?_, further⟩
        · simp only [Context.undated, List.map_append, equal, built]
        · simp only [List.cons_append, withoutHits_say_cons, withoutHits_append, told, count]

/-! ## Runs -/

/-- The step writes to the store. -/
def Step.Writes : Step → Prop
  | .put _ _ | .putRaw _ _ => True
  | .begin _ | .setPayload _ | .add _ _ | .remove _ | .clear | .setCondition _ _
  | .clearConditions | .fetch _ | .purge | .synthesize => False

/-- States over the same store that differ at most in the cache and in when entries were built. -/
structure State.Alike (s t : State) : Prop where
  contexts : s.context.undated = t.context.undated
  feeds : s.feed.Alike t.feed

/-- Steps over the same store that went alike, but for hits and times. -/
structure Effect.Alike (e d : Effect) : Prop where
  result : e.result.map Reply.undated = d.result.map Reply.undated
  messages : withoutHits e.messages = withoutHits d.messages
  states : e.state.Alike d.state

namespace State

/-- The state with its store behind a fresh cache, or behind none. -/
def behind (s : State) (lifetime : Option Lifetime) : State :=
  { s with feed := s.feed.behind lifetime }

theorem Alike.behind (s : State) (one other : Option Lifetime) :
    (s.behind one).Alike (s.behind other) := ⟨rfl, .behind s.feed one other⟩

variable {s t : State}

theorem edit_alike (alike : s.Alike t) {c d : Context} (same : c.undated = d.undated) :
    (s.edit c).Alike (t.edit d) := ⟨rfl, rfl, same, alike.feeds⟩

/-- A step that writes nothing keeps states alike. -/
theorem step_alike (alike : s.Alike t) (clock clock' : Clock) {step : Step}
    (unwritten : ¬ step.Writes) : (s.step clock step).Alike (t.step clock' step) := by
  have contexts := alike.contexts
  cases step with
  | put id record => exact absurd trivial unwritten
  | putRaw id bytes => exact absurd trivial unwritten
  | begin context => exact edit_alike alike rfl
  | setPayload payload => exact edit_alike alike (congrArg ({ · with payload }) contexts)
  | add id remark => exact edit_alike alike (congrArg (·.add id remark) contexts)
  | remove id => exact edit_alike alike (congrArg (·.remove id) contexts)
  | clear => exact edit_alike alike (congrArg ({ · with elements := ∅ }) contexts)
  | setCondition id condition =>
    exact edit_alike alike (congrArg (·.setCondition id condition) contexts)
  | clearConditions => exact edit_alike alike (congrArg ({ · with conditions := ∅ }) contexts)
  | purge => exact ⟨rfl, rfl, contexts, alike.feeds.purge clock.sweeping clock'.sweeping⟩
  | fetch id =>
    have answers := alike.feeds.answer_fetch (clock.fetching id) (clock'.fetching id) id
    refine ⟨?_, alike.feeds.withoutHits_fetch _ _ id, contexts, alike.feeds.fetch _ _ id⟩
    rw [result_fetch, result_fetch, answers]
  | synthesize =>
    have outcomes := synthesize_alike contexts alike.feeds clock clock'
    refine ⟨?_, outcomes.messages, outcomes.context, outcomes.feeds⟩
    simp only [State.step, Reply.undated_entries, outcomes.result]

/-- A run that writes nothing keeps states alike, step by step. -/
theorem walk_alike (alike : s.Alike t) {steps steps' : List (Clock × Step)}
    (same : steps.map Prod.snd = steps'.map Prod.snd)
    (unwritten : ∀ timed ∈ steps, ¬ timed.2.Writes) :
    List.Forall₂ Effect.Alike (s.walk steps) (t.walk steps') := by
  induction steps generalizing s t steps' with
  | nil =>
    cases steps' with
    | nil => exact .nil
    | cons timed rest => cases same
  | cons timed rest ih =>
    cases steps' with
    | nil => cases same
    | cons timed' rest' =>
      obtain ⟨clock, step⟩ := timed
      obtain ⟨clock', step'⟩ := timed'
      obtain ⟨rfl, further⟩ := List.cons.inj same
      have here := step_alike alike clock clock' (unwritten _ List.mem_cons_self)
      exact .cons here (ih here.states further fun later member =>
        unwritten later (List.mem_cons_of_mem _ member))

theorem withoutHits_messages {effects effects' : List Effect}
    (alike : List.Forall₂ Effect.Alike effects effects') :
    withoutHits (effects.flatMap Effect.messages) =
      withoutHits (effects'.flatMap Effect.messages) := by
  induction alike with
  | nil => rfl
  | cons here _ ih =>
    rw [List.flatMap_cons, List.flatMap_cons, withoutHits_append, withoutHits_append,
      here.messages, ih]

end State

end Findings
