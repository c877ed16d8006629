import Findings.Command.Basic
import Findings.Proofs.Run.Transparency

/-!
What a cache does to what is reported. A synthesis behind a fresh cache is that over the bare store,
because it looks no identifier up twice (`synthesize_behind`), so the command ends alike whether it
caches or not. Longer runs get hits, and those are all that shows of the cache while nothing is
written to the store (`caching_changes_no_report`).
-/

namespace Findings

open Synthesis

/-! ## One synthesis -/

section Fetches

variable {f g : Feed} {clock : Clock}

/-- The feeds give the same answers to the fetches of a synthesis, and tell the same of them. -/
def SameFetches (f g : Feed) (clock : Clock) : Prop :=
  ∀ id, (f.fetch (clock.fetching id) id).answer = (g.fetch (clock.fetching id) id).answer ∧
    (f.fetch (clock.fetching id) id).events = (g.fetch (clock.fetching id) id).events

theorem SameFetches.behind (f : Feed) (one other : Option Lifetime) (clock : Clock) :
    SameFetches (f.behind one) (f.behind other) clock := by
  intro id
  rw [Feed.fetch_of_not_recalled (f.recalled_behind one _ id),
    Feed.fetch_of_not_recalled (f.recalled_behind other _ id)]
  exact ⟨rfl, rfl⟩

theorem SameFetches.resolve_eq (same : SameFetches f g clock) (candidate : Candidate) :
    candidate.resolve g clock = candidate.resolve f clock := by
  unfold Candidate.resolve
  rw [(same candidate.id).1]

theorem SameFetches.resolved (same : SameFetches f g clock) {candidates : List Candidate}
    {entries : List Entry} (resolved : Resolved f clock candidates entries) :
    Resolved g clock candidates entries :=
  resolved.imp fun candidate _ built => (same.resolve_eq candidate).trans built

theorem SameFetches.account_eq (same : SameFetches f g clock) (agent : String)
    (entries : List Entry) : account agent g clock entries = account agent f clock entries := by
  unfold account
  simp only [(same _).2]

/-- What candidates come to is told from the fetches as they are at the beginning. -/
theorem SameFetches.resolveAll_eq (same : SameFetches f g clock) (agent : String)
    {candidates : List Candidate} (ascending : (candidates.map Candidate.id).Pairwise Utf8.Before) :
    ∃ feed, resolveAll agent clock candidates g =
      { resolveAll agent clock candidates f with feed } := by
  rcases resolved_or_refused f clock candidates with
    ⟨entries, resolved⟩ | ⟨before, candidate, rest, entries, e, rfl, resolved, failed⟩
  · rw [resolveAll_of_resolved agent resolved ascending,
      resolveAll_of_resolved agent (same.resolved resolved) ascending, same.account_eq]
    exact ⟨_, rfl⟩
  · rw [List.map_append, List.map_cons, List.append_cons] at ascending
    have earlier := (List.pairwise_append.mp ascending).1
    have failed' := (same.resolve_eq candidate).trans failed
    rw [resolveAll_of_refused agent rest resolved failed earlier,
      resolveAll_of_refused agent rest (same.resolved resolved) failed' earlier, same.account_eq,
      (same candidate.id).2]
    exact ⟨_, rfl⟩

theorem SameFetches.synthesize_eq (same : SameFetches f g clock) (c : Context) :
    ∃ feed, c.synthesize g clock = { c.synthesize f clock with feed } := by
  unfold Context.synthesize
  by_cases vacant : c.elements.isEmpty = true
  · rw [if_pos vacant, if_pos vacant]
    exact ⟨g, rfl⟩
  · rw [if_neg vacant, if_neg vacant]
    cases itemIdOf c with
    | error e => exact ⟨g, rfl⟩
    | ok itemId =>
      have ascending : ((candidatesOf c itemId).map Candidate.id).Pairwise Utf8.Before := by
        rw [c.ids_candidatesOf]
        exact c.elements.keys_ascending
      obtain ⟨feed, resolved⟩ := same.resolveAll_eq c.agent.id ascending
      dsimp only
      rw [resolved]
      dsimp only
      split <;> exact ⟨_, rfl⟩

end Fetches

/-- A synthesis behind a fresh cache does what it does over the bare store. -/
theorem synthesize_behind (c : Context) (f : Feed) (one other : Option Lifetime) (clock : Clock) :
    ∃ feed, c.synthesize (f.behind other) clock =
      { c.synthesize (f.behind one) clock with feed } :=
  (SameFetches.behind f one other clock).synthesize_eq c

theorem events_behind (f : Feed) (lifetime : Option Lifetime) (times : Readings) (id : String) :
    ((f.behind lifetime).fetch times id).events = (f.store.fetch id).2 := by
  rw [Feed.fetch_of_not_recalled (f.recalled_behind lifetime _ id)]
  rfl

/-- A synthesis behind a fresh cache gets no hits. -/
theorem hit_not_mem_synthesize (c : Context) (f : Feed) (lifetime : Option Lifetime) (clock : Clock)
    (id : String) : .hit id ∉ feedEvents (c.synthesize (f.behind lifetime) clock).messages := by
  have silent (k : String) : .hit id ∉ ((f.behind lifetime).fetch (clock.fetching k) k).events := by
    rw [events_behind]
    exact f.store.hit_not_mem_events k id
  have course := synthesize_course c (f.behind lifetime) clock
  generalize c.synthesize (f.behind lifetime) clock = outcome at course
  intro told
  cases course with
  | idle => cases told
  | unidentified =>
    rw [feedEvents_telling] at told
    cases told
  | completed =>
    rw [feedEvents_telling, List.append_nil] at told
    obtain ⟨entry, _, told⟩ := List.mem_flatMap.mp told
    exact silent entry.id told
  | @refused _ _ _ candidate =>
    rw [feedEvents_telling] at told
    rcases List.mem_append.mp told with earlier | last
    · obtain ⟨entry, _, told⟩ := List.mem_flatMap.mp earlier
      exact silent entry.id told
    · exact silent candidate.id last

/-! ## The command -/

namespace Command

/-- How long the entries of the cache live that is configured, if one is. -/
def lifetimeOf (c : Config) : Option Lifetime :=
  if c.cacheEnabled then some (.ofSeconds c.cacheTtl) else none

/-- The configured cache is fresh, and nothing else in the feed depends on it. -/
theorem openFeed_eq (around : Surroundings) (c : Config) :
    openFeed around c = (openFeed around { c with cacheEnabled := false, cacheTtl := 0 }).map
      fun opened => (opened.1, opened.2.behind (lifetimeOf c)) := by
  have cache : cacheOf c = (lifetimeOf c).map fun lifetime => { lifetime } := by
    unfold cacheOf lifetimeOf
    cases c.cacheEnabled <;> rfl
  unfold openFeed Config.feedPath
  rw [cache]
  cases c.databasePath with
  | none => rfl
  | some path =>
    simp only [Except.mapError, bind, Except.bind]
    cases around.database path <;> rfl

/-- What the command does with its configuration does not depend on the cache. -/
theorem perform_caching (around : Surroundings) (time : String) (a : Arguments) (c : Config)
    (cacheEnabled : Bool) (cacheTtl : UInt64) :
    perform around time a { c with cacheEnabled, cacheTtl } = perform around time a c := by
  unfold perform
  cases readContext around a.context with
  | error fault => rfl
  | ok context =>
    rw [openFeed_eq around c, openFeed_eq around { c with cacheEnabled, cacheTtl }]
    cases openFeed around { c with cacheEnabled := false, cacheTtl := 0 } with
    | error e => rfl
    | ok opened =>
      obtain ⟨feed, same⟩ := synthesize_behind context opened.2 (lifetimeOf c)
        (lifetimeOf { c with cacheEnabled, cacheTtl }) (.still time)
      simp only [Except.map, same]
      rfl

/-- The argument that forbids the cache changes nothing else in the configuration. -/
theorem configure_noCache (around : Surroundings) (a : Arguments) (noCache : Bool) :
    (∃ e, configure around a = .error e ∧ configure around { a with noCache } = .error e) ∨
      ∃ c cacheEnabled, configure around a = .ok c ∧
        configure around { a with noCache } = .ok { c with cacheEnabled } := by
  unfold configure
  simp only [Except.mapError, bind, Except.bind]
  split
  · exact .inl ⟨_, rfl, rfl⟩
  · split
    · exact .inl ⟨_, rfl, rfl⟩
    · exact .inr ⟨_, _, rfl, rfl⟩

theorem run_noCache (around : Surroundings) (time : String) (a : Arguments) (noCache : Bool) :
    run around time { a with noCache } = run around time a := by
  unfold run
  rcases configure_noCache around a noCache with
    ⟨e, configured, configured'⟩ | ⟨c, cacheEnabled, configured, configured'⟩
  · rw [configured, configured']
  · rw [configured, configured']
    have same : perform around time { a with noCache } { c with cacheEnabled } =
        perform around time a c := perform_caching around time a c cacheEnabled c.cacheTtl
    dsimp only
    rw [same]

end Command

/-! ## What is reported -/

/-- What is reported does not depend on the cache while nothing is written to the store. The same
steps, taken behind any two caches or behind none, and whenever they are taken, go alike one by one:
they give the same descriptions, errors and entries but for the times at which entries were built,
and what is told differs only in hits. A synthesis behind a fresh cache gets no hits and does what
it does over the bare store, and so does the command, whether the configuration or an argument
decides on the cache. -/
theorem caching_changes_no_report (s : State) (one other : Option Lifetime)
    (steps steps' : List (Clock × Step)) (same : steps.map Prod.snd = steps'.map Prod.snd)
    (unwritten : ∀ timed ∈ steps, ¬ timed.2.Writes) :
    List.Forall₂ Effect.Alike ((s.behind one).walk steps) ((s.behind other).walk steps') ∧
    withoutHits ((s.behind one).messages steps) = withoutHits ((s.behind other).messages steps') ∧
    (∀ (c : Context) (f : Feed) (lifetime : Lifetime) (clock : Clock),
      let cached := c.synthesize (f.behind (some lifetime)) clock
      let bare := c.synthesize (f.behind none) clock
      (∀ id, .hit id ∉ feedEvents cached.messages) ∧ cached.result = bare.result ∧
        cached.context = bare.context ∧ cached.messages = bare.messages ∧
        cached.notes = bare.notes) ∧
    ∀ (around : Command.Surroundings) (time : String) (a : Command.Arguments),
      (∀ (c : Config) cacheEnabled cacheTtl,
        Command.perform around time a { c with cacheEnabled, cacheTtl } =
          Command.perform around time a c) ∧
      ∀ noCache given given', Command.Demand.ofArguments given = .ok (.run a) →
        Command.Demand.ofArguments given' = .ok (.run { a with noCache }) →
        Command.execute around time given' = Command.execute around time given := by
  have alike := State.walk_alike (.behind s one other) same unwritten
  refine ⟨alike, State.withoutHits_messages alike, ?_, ?_⟩
  · intro c f lifetime clock
    obtain ⟨feed, equal⟩ := synthesize_behind c f (some lifetime) none clock
    refine ⟨hit_not_mem_synthesize c f (some lifetime) clock, ?_⟩
    rw [equal]
    exact ⟨rfl, rfl, rfl, rfl⟩
  · intro around time a
    refine ⟨fun c cacheEnabled cacheTtl => Command.perform_caching around time a c cacheEnabled
      cacheTtl, ?_⟩
    intro noCache given given' demand demand'
    unfold Command.execute
    rw [demand, demand']
    exact Command.run_noCache around time a noCache

/-- A database with one description. -/
def stocked : State where
  context := { scanner := .os, elements := Keyed.empty.insert "CVE-1" .null }
  feed := {
    store := { backing := .database, rows := Keyed.empty.insert "CVE-1" Store.severeBytes } }

/-- Two lookups, of which a cache answers the second, a miss, and a synthesis. -/
def repeated (now : String) : List (Clock × Step) :=
  [.fetch "CVE-1", .fetch "CVE-1", .fetch "CVE-2", .synthesize].map fun step => (.still now, step)

theorem caching_changes_no_report_repeated :
    feedEvents ((stocked.behind (some .endless)).messages (repeated "early")) =
        [.hit "CVE-1", .miss "CVE-2", .hit "CVE-1"] ∧
      feedEvents (withoutHits ((stocked.behind none).messages (repeated "late"))) =
        [.miss "CVE-2"] ∧
      ∀ around time, Command.execute around time ["--no-cache", "context.json"] =
        Command.execute around time ["context.json"] := by
  have unwritten : ∀ timed ∈ repeated "early", ¬ timed.2.Writes := by
    simp [repeated, Step.Writes]
  obtain ⟨_, told, _, command⟩ := caching_changes_no_report stocked (some .endless) none
    (repeated "early") (repeated "late") rfl unwritten
  refine ⟨by decide +kernel, ?_, ?_⟩
  · rw [← told]
    decide +kernel
  · intro around time
    exact (command around time { context := "context.json" }).2 true _ _ (by decide +kernel)
      (by decide +kernel)

end Findings
