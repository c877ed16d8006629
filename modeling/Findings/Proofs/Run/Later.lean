import Findings.Proofs.Run.Origins
import Findings.Proofs.Run.Transparency

/-!
Runs that begin later. Of the times a run reads only differences count, the ages of cached
descriptions, and the dates that its entries bear are only shown. So a run of which every step is
taken later by the same span comes to the same, step by step, but for those times
(`State.walk_later`).
-/

namespace Findings

open Synthesis

/-! ## Caches -/

namespace Keyed

variable {α β : Type}

theorem map_insert (f : α → β) (m : Keyed α) (key : String) (value : α) :
    (m.map f).insert key (f value) = (m.insert key value).map f := by
  apply ext_get?
  intro k
  rw [get?_insert, get?_map, get?_map, get?_insert]
  split <;> rfl

theorem map_filter {f : α → β} {keep : String → α → Bool} {keep' : String → β → Bool}
    (same : ∀ key value, keep' key (f value) = keep key value) (m : Keyed α) :
    (m.map f).filter keep' = (m.filter keep).map f := by
  apply ext_get?
  intro k
  rw [get?_filter, get?_map, get?_map, get?_filter]
  cases m.get? k with
  | none => rfl
  | some value =>
    rw [Option.map_some, Option.filter_some, Option.filter_some, same]
    split <;> rfl

end Keyed

/-- What is cached, as it would be if it had been cached later. -/
def Cached.later (span : Nat) (entry : Cached) : Cached :=
  { entry with madeAt := entry.madeAt + span }

/-- The readings of a fetch that is made later. -/
def Readings.later (span : Nat) (times : Readings) : Readings :=
  ⟨times.asked + span, times.made + span, fun id => times.swept id + span⟩

namespace Cache

/-- The cache as it would be if all had happened later. -/
def later (span : Nat) (c : Cache) : Cache := { c with entries := c.entries.map (.later span) }

variable (span : Nat) (c : Cache)

/-- An age is the difference of two times, so a later reading of a later entry finds the same age.
-/
theorem isAlive_later (entry : Cached) (lifetime : Lifetime) (now : Nat) :
    (entry.later span).isAlive lifetime (now + span) = entry.isAlive lifetime now := by
  cases lifetime with
  | endless => rfl
  | span nanoseconds =>
    simp only [Cached.isAlive, Cached.later, Nat.add_sub_add_right]

/-- A later cache that is asked later answers the same, and drops the same entry. -/
theorem lookUp_later (now : Nat) (id : String) :
    (c.later span).lookUp (now + span) id =
      ((c.lookUp now id).1, (c.lookUp now id).2.later span) := by
  have held : (c.later span).entries.get? id = (c.entries.get? id).map (.later span) :=
    Keyed.get?_map _ c.entries id
  have dropped : (c.later span).entries.erase id = (c.entries.erase id).map (.later span) :=
    Keyed.map_filter (fun _ _ => rfl) c.entries
  have lifetime : (c.later span).lifetime = c.lifetime := rfl
  unfold lookUp
  rw [held]
  cases c.entries.get? id with
  | none => rfl
  | some entry =>
    simp only [Option.map_some, lifetime, isAlive_later, dropped]
    split <;> rfl

theorem purge_later (now : String → Nat) :
    (c.later span).purge (fun id => now id + span) = (c.purge now).later span := by
  have kept : ((c.later span).entries.filter fun id entry =>
      entry.isAlive c.lifetime (now id + span)) =
      (c.entries.filter fun id entry => entry.isAlive c.lifetime (now id)).map (.later span) :=
    Keyed.map_filter (fun id entry => isAlive_later span entry c.lifetime (now id)) c.entries
  exact congrArg (fun entries => ({ c with entries } : Cache)) kept

/-- Sweeps follow from how many entries were made, so a later cache sweeps when the other does. -/
theorem remember_later (times : Readings) (id : String) (r : Record) :
    (c.later span).remember (times.later span) id r = (c.remember times id r).later span := by
  have added := Keyed.map_insert (Cached.later span) c.entries id ⟨r, times.made⟩
  unfold remember
  have next : ({ c.later span with
      entries := (c.later span).entries.insert id ⟨r, (times.later span).made⟩
      made := (c.later span).made + 1 } : Cache) =
      later span { c with entries := c.entries.insert id ⟨r, times.made⟩, made := c.made + 1 } :=
    congrArg (fun entries => ({ c with entries, made := c.made + 1 } : Cache)) added
  have due : (c.later span).made = c.made := rfl
  dsimp only
  rw [next, due]
  split
  · exact purge_later span _ times.swept
  · rfl

end Cache

/-! ## Feeds -/

namespace Feed

/-- The feed as it would be if all had happened later. -/
def later (span : Nat) (f : Feed) : Feed := { f with cache := f.cache.map (.later span) }

variable (span : Nat) (f : Feed)

/-- A fetch that is made later is answered alike and tells the same. -/
theorem fetch_later (times : Readings) (id : String) :
    (f.later span).fetch (times.later span) id =
      let fetched := f.fetch times id
      { fetched with feed := fetched.feed.later span } := by
  obtain ⟨store, cache, lookups⟩ := f
  cases cache with
  | none => rfl
  | some cache =>
    have looked := cache.lookUp_later span times.asked id
    unfold fetch later
    dsimp only [Option.map_some, Readings.later] at looked ⊢
    rw [looked]
    rcases cache.lookUp times.asked id with ⟨_ | r, next⟩
    · dsimp only [fetchStored]
      rcases store.fetch id with ⟨_ | r, events⟩
      · rfl
      · have remembered := next.remember_later span times id r
        dsimp only [Readings.later] at remembered ⊢
        rw [remembered]
        rfl
    · rfl

theorem purge_later (now : String → Nat) :
    (f.later span).purge (fun id => now id + span) = (f.purge now).later span := by
  obtain ⟨store, cache, lookups⟩ := f
  cases cache with
  | none => rfl
  | some cache =>
    exact congrArg (fun cache => (⟨store, some cache, lookups⟩ : Feed)) (cache.purge_later span now)

end Feed

/-! ## Synthesis -/

/-- The clock of a step that is taken later, and that shows no dates. -/
def Clock.later (span : Nat) (clock : Clock) : Clock where
  detected := fun _ => ""
  fetching := fun id => (clock.fetching id).later span
  sweeping := fun id => clock.sweeping id + span
  steady := fun first later earlier id =>
    Nat.add_le_add_right (clock.steady first later earlier id) span

variable (span : Nat)

/-- The date of an entry is only shown: without it the entry is the same. -/
theorem entryOf_dateless (candidate : Candidate) (time : String)
    (answer : Except FeedError Record) :
    entryOf candidate "" answer = (entryOf candidate time answer).map Entry.undated := by
  rcases entryOf_undated candidate time "" answer with
    ⟨e, dated, dateless⟩ | ⟨entry, other, dated, dateless, same⟩
  · rw [dated, dateless]
    rfl
  · have undated : other.undated = other := by
      obtain ⟨r, words, _, _, _, composed⟩ := composed_of_entryOf_eq_ok dateless
      rw [composed]
      rfl
    rw [dated, dateless, ← undated, ← same]
    rfl

/-- Candidates that are resolved later come to the same entries but for the dates, or to the same
failure. -/
theorem resolveAll_later (agent : String) (clock : Clock) (candidates : List Candidate)
    (f : Feed) :
    resolveAll agent (clock.later span) candidates (f.later span) =
      let progress := resolveAll agent clock candidates f
      { progress with
        entries := progress.entries.map Entry.undated
        feed := progress.feed.later span } := by
  induction candidates generalizing f with
  | nil => rfl
  | cons candidate rest ih =>
    have fetched := f.fetch_later span (clock.fetching candidate.id) candidate.id
    have dateless := entryOf_dateless candidate (clock.detected candidate.id)
      (f.fetch (clock.fetching candidate.id) candidate.id).answer
    unfold resolveAll
    dsimp only [Clock.later] at fetched dateless ih ⊢
    rw [fetched]
    dsimp only
    rw [dateless]
    cases entryOf candidate (clock.detected candidate.id)
        (f.fetch (clock.fetching candidate.id) candidate.id).answer with
    | error e => rfl
    | ok entry =>
      dsimp only [Except.map]
      rw [ih]
      rfl

theorem synthesize_later (c : Context) (f : Feed) (clock : Clock) :
    let outcome := c.synthesize f clock
    let put := c.undated.synthesize (f.later span) (clock.later span)
    put.result = outcome.result.map (List.map Entry.undated) ∧
      put.context = outcome.context.undated ∧ put.feed = outcome.feed.later span ∧
      put.messages = outcome.messages := by
  -- Nothing that is asked of the context before the end looks at its results.
  have elements : c.undated.elements = c.elements := rfl
  have asked : itemIdOf c.undated = itemIdOf c := rfl
  have listed : candidatesOf c.undated = candidatesOf c := rfl
  have agent : c.undated.agent = c.agent := rfl
  have scanner : c.undated.scanner = c.scanner := rfl
  unfold Context.synthesize
  rw [elements, asked, listed, agent, scanner]
  by_cases vacant : c.elements.isEmpty = true
  · rw [if_pos vacant, if_pos vacant]
    exact ⟨rfl, rfl, rfl, rfl⟩
  · rw [if_neg vacant, if_neg vacant]
    cases itemIdOf c with
    | error e => exact ⟨rfl, rfl, rfl, rfl⟩
    | ok itemId =>
      dsimp only
      rw [resolveAll_later]
      generalize resolveAll c.agent.id clock (candidatesOf c itemId) f = progress
      obtain ⟨entries, failure, messages, feed⟩ := progress
      cases failure with
      | some refused => exact ⟨rfl, rfl, rfl, rfl⟩
      | none =>
        refine ⟨rfl, ?_, rfl, ?_⟩
        · simp only [Context.undated, List.map_append]
        · simp only [List.length_map]

/-! ## Runs -/

/-- The step without the dates of the entries that its context came with. -/
def Step.undated : Step → Step
  | .begin context => .begin context.undated
  | step => step

/-- The state as it would be if all had happened later, without dates. -/
def State.later (s : State) : State := ⟨s.context.undated, s.feed.later span⟩

/-- What a step would have done if all had happened later, without dates. -/
def Effect.later (e : Effect) : Effect :=
  ⟨e.result.map Reply.undated, e.state.later span, e.messages⟩

/-- The steps of a run that is taken later, without dates. -/
def laterSteps (steps : List (Clock × Step)) : List (Clock × Step) :=
  steps.map fun timed => (timed.1.later span, timed.2.undated)

namespace State

/-- One step that is taken later does the same, from a state in which all had happened later. -/
theorem step_later (s : State) (clock : Clock) (step : Step) :
    (s.later span).step (clock.later span) step.undated = (s.step clock step).later span := by
  cases step with
  | synthesize =>
    obtain ⟨result, context, feed, messages⟩ := synthesize_later span s.context s.feed clock
    simp only [State.step, Step.undated, State.later, Effect.later, result, context, feed, messages,
      Reply.undated_entries]
  | put id record =>
    have stored : (s.later span).feed.store = s.feed.store := rfl
    simp only [State.step, Step.undated, stored]
    cases s.feed.store.put id record <;> rfl
  | fetch id =>
    have fetched := s.feed.fetch_later span (clock.fetching id) id
    simp only [State.step, Step.undated, State.later, Effect.later, Clock.later, fetched]
    cases (s.feed.fetch (clock.fetching id) id).answer <;> rfl
  | purge =>
    have purged := s.feed.purge_later span clock.sweeping
    exact congrArg (State.supply (s.later span)) purged
  | _ => rfl

/-- A run that is taken later comes to the same, step by step. -/
theorem walk_later (s : State) (steps : List (Clock × Step)) :
    (s.later span).walk (laterSteps span steps) = (s.walk steps).map (.later span) := by
  induction steps generalizing s with
  | nil => rfl
  | cons timed rest ih =>
    obtain ⟨clock, step⟩ := timed
    have here := s.step_later span clock step
    have further := ih (s.step clock step).state
    have behind : ((s.later span).step (clock.later span) step.undated).state =
        (s.step clock step).state.later span := congrArg Effect.state here
    rw [laterSteps, List.map_cons, walk, walk, List.map_cons, here]
    exact congrArg _ further

end State

end Findings
