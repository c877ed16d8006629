import Findings.Proofs.Run.Actions
import Mathlib.Data.List.Induction

/-!
Caches whose entries outlive the run. Such a cache holds the description of the first success of
each identifier and nothing else (`Feed.Remembers`), whatever is written to the store in between,
whether lookups come from outside or from a synthesis, and in spite of all sweeps
(`State.walk_recalls_first_successes`).
-/

namespace Findings

/-! ## Time -/

/-- At this instant a fetch looks at the age of an entry, if there is one to look at. -/
def Readings.Shows (times : Readings) (now : Nat) : Prop :=
  now = times.asked ∨ ∃ id, now = times.swept id

namespace Action

/-- At this instant the action looks at the age of an entry, if there is one to look at. -/
def Reads : Action → Nat → Prop
  | .write _ _, _ => False
  | .fetch times _, now => times.Shows now
  | .purge readings, now => ∃ id, now = readings id

/-- At this instant the action makes an entry, if it makes one. -/
def Makes : Action → Nat → Prop
  | .fetch times _, instant => instant = times.made
  | .write _ _, _ | .purge _, _ => False

end Action

/-- No entry that is made in these actions gets so old in them that its life is over. -/
def Enduring (lifetime : Lifetime) (actions : List Action) : Prop :=
  ∀ maker ∈ actions, ∀ reader ∈ actions, ∀ (entry : Cached) (now : Nat),
    maker.Makes entry.madeAt → reader.Reads now → entry.isAlive lifetime now = true

/-! ## Caches -/

namespace Cache

theorem purge_of_alive {c : Cache} {now : String → Nat}
    (alive : ∀ id entry, c.entries.get? id = some entry →
      entry.isAlive c.lifetime (now id) = true) : c.purge now = c := by
  have same : c.entries.filter (fun id entry => entry.isAlive c.lifetime (now id)) = c.entries := by
    refine Keyed.ext_get? fun id => ?_
    rw [Keyed.get?_filter]
    cases held : c.entries.get? id with
    | none => rfl
    | some entry => exact Option.filter_some_pos (alive id entry held)
  rw [purge, same]

/-- With all entries alive, an entry that is made comes to the others. -/
theorem remember_of_alive {c : Cache} {times : Readings} {id : String} {r : Record}
    (alive : ∀ k entry, (c.withEntry id ⟨r, times.made⟩).entries.get? k = some entry →
      entry.isAlive c.lifetime (times.swept k) = true) :
    c.remember times id r = c.withEntry id ⟨r, times.made⟩ := by
  rcases c.remember_cases times id r with ⟨_, remembered⟩ | ⟨_, remembered⟩
  · exact remembered.trans (purge_of_alive alive)
  · exact remembered

end Cache

/-! ## Feeds -/

namespace Feed

/-- The cache holds the first description that was found under each identifier, and nothing else.
Its entries were made in some of the actions. -/
structure Remembers (f : Feed) (lifetime : Lifetime) (actions : List Action)
    (known : List (String × Record)) : Prop where
  cached : ∃ c, f.cache = some c ∧ c.lifetime = lifetime
  first : ∀ id, (f.held id).map Cached.record = known.lookup id
  made : ∀ id entry, f.held id = some entry → ∃ action ∈ actions, action.Makes entry.madeAt
  shows : ∀ id r, known.lookup id = some r → Text.isBlankText id = false

variable {f : Feed} {lifetime : Lifetime} {actions : List Action} {known : List (String × Record)}
  {times : Readings} {id : String} {r : Record}

namespace Remembers

theorem of_fresh (fresh : f.cache = some { lifetime }) : f.Remembers lifetime actions [] where
  cached := ⟨_, fresh, rfl⟩
  first id := by rw [held, fresh]; rfl
  made id entry held := by rw [Feed.held, fresh] at held; cases held
  shows id r found := by cases found

theorem held_of_known (remembers : f.Remembers lifetime actions known)
    (first : known.lookup id = some r) : ∃ entry, f.held id = some entry ∧ entry.record = r :=
  Option.map_eq_some_iff.mp ((remembers.first id).trans first)

theorem held_of_unknown (remembers : f.Remembers lifetime actions known)
    (new : known.lookup id = none) : f.held id = none :=
  Option.map_eq_none_iff.mp ((remembers.first id).trans new)

theorem alive (remembers : f.Remembers lifetime actions known)
    (enduring : Enduring lifetime actions) {reader : Action} (member : reader ∈ actions) {now : Nat}
    (reads : reader.Reads now) {entry : Cached} (held : f.held id = some entry) :
    entry.isAlive lifetime now = true := by
  obtain ⟨maker, among, makes⟩ := remembers.made id entry held
  exact enduring maker among reader member entry now makes reads

/-- What succeeded before is answered from the cache, and nothing changes. -/
theorem fetch_of_known (remembers : f.Remembers lifetime actions known)
    (enduring : Enduring lifetime actions) (member : .fetch times id ∈ actions)
    (first : known.lookup id = some r) : f.fetch times id = ⟨.ok r, [.hit id], f⟩ := by
  obtain ⟨entry, held, rfl⟩ := remembers.held_of_known first
  obtain ⟨c, cached, rfl⟩ := remembers.cached
  have alive := remembers.alive enduring member (.inl rfl) held
  apply fetch_of_recalled
  rw [held_of_cache cached] at held
  rw [recalled_of_cache cached, Cache.recalled_of_alive held alive]

/-- What has not succeeded before is asked of the store, and an answer that is a description comes
to the others in the cache. -/
theorem fetch_of_unknown (remembers : f.Remembers lifetime actions known)
    (enduring : Enduring lifetime actions) (member : .fetch times id ∈ actions)
    (new : known.lookup id = none) :
    f.fetch times id = ⟨(f.store.fetch id).1, (f.store.fetch id).2,
      { f with
        cache := f.cache.map fun c =>
          match (f.store.fetch id).1 with
          | .ok r => c.withEntry id ⟨r, times.made⟩
          | .error _ => c
        lookups := f.lookups + 1 }⟩ := by
  obtain ⟨c, cached, rfl⟩ := remembers.cached
  have absent := remembers.held_of_unknown new
  rw [held_of_cache cached] at absent
  have unknown : f.recalled times.asked id = none := by
    rw [recalled_of_cache cached, Cache.recalled_of_absent absent]
  have looked : (c.lookUp times.asked id).2 = c := by rw [Cache.lookUp, absent]
  rw [fetch_of_not_recalled unknown, cached]
  cases answered : (f.store.fetch id).1 with
  | error e => simp only [Option.map_some, looked]
  | ok r =>
    have alive : ∀ k entry, (c.withEntry id ⟨r, times.made⟩).entries.get? k = some entry →
        entry.isAlive c.lifetime (times.swept k) = true := by
      intro k entry held
      have swept : (Action.fetch times id).Reads (times.swept k) := .inr ⟨k, rfl⟩
      rw [Cache.withEntry, Keyed.get?_insert] at held
      split at held
      · cases held
        exact enduring _ member _ member _ _ rfl swept
      · have held : f.held k = some entry := (held_of_cache cached k).trans held
        exact remembers.alive enduring member swept held
    simp only [Option.map_some, looked, Cache.remember_of_alive alive]

theorem purge_eq (remembers : f.Remembers lifetime actions known)
    (enduring : Enduring lifetime actions) {now : String → Nat} (member : .purge now ∈ actions) :
    f.purge now = f := by
  obtain ⟨c, cached, rfl⟩ := remembers.cached
  have alive : ∀ id entry, c.entries.get? id = some entry →
      entry.isAlive c.lifetime (now id) = true := fun id entry held =>
    remembers.alive enduring member ⟨id, rfl⟩ ((held_of_cache cached id).trans held)
  rw [purge, cached, Option.map_some, Cache.purge_of_alive alive, ← cached]

theorem of_cache_eq {g : Feed} (remembers : f.Remembers lifetime actions known)
    (same : g.cache = f.cache) : g.Remembers lifetime actions known := by
  have heldSame : g.held = f.held := by
    unfold held
    rw [same]
  exact ⟨same ▸ remembers.cached, heldSame ▸ remembers.first, heldSame ▸ remembers.made,
    remembers.shows⟩

/-- A further success of an identifier is not its first. -/
theorem again (remembers : f.Remembers lifetime actions known) (first : known.lookup id = some r) :
    f.Remembers lifetime actions (known ++ [(id, r)]) := by
  have same : ∀ k, (known ++ [(id, r)]).lookup k = known.lookup k := by
    intro k
    rw [List.lookup_append, Keyed.lookup_cons_ite]
    by_cases found : k = id
    · rw [found, first]
      rfl
    · rw [if_neg found]
      exact Option.or_none
  exact ⟨remembers.cached, fun k => (remembers.first k).trans (same k).symm, remembers.made,
    fun k r' found => remembers.shows k r' ((same k).symm.trans found)⟩

/-- The first success of an identifier comes to the others. -/
theorem withEntry {g : Feed} {c : Cache} (remembers : f.Remembers lifetime actions known)
    (member : .fetch times id ∈ actions) (new : known.lookup id = none)
    (shows : Text.isBlankText id = false) (before : f.cache = some c)
    (after : g.cache = some (c.withEntry id ⟨r, times.made⟩)) :
    g.Remembers lifetime actions (known ++ [(id, r)]) := by
  have holds : ∀ k, g.held k = if k = id then some ⟨r, times.made⟩ else f.held k := fun k => by
    rw [held_of_cache after, held_of_cache before, Cache.withEntry, Keyed.get?_insert]
  have found : ∀ k, (known ++ [(id, r)]).lookup k = if k = id then some r else known.lookup k := by
    intro k
    rw [List.lookup_append, Keyed.lookup_cons_ite]
    by_cases same : k = id
    · rw [if_pos same, if_pos same, same, new]
      rfl
    · rw [if_neg same, if_neg same]
      exact Option.or_none
  refine ⟨?_, fun k => ?_, fun k entry held => ?_, fun k r' known' => ?_⟩
  · obtain ⟨c', cached, lifetime⟩ := remembers.cached
    cases before.symm.trans cached
    exact ⟨_, after, lifetime⟩
  · rw [holds, found]
    split
    · rfl
    · exact remembers.first k
  · rw [holds] at held
    split at held
    · cases held
      exact ⟨_, member, rfl⟩
    · exact remembers.made k entry held
  · rw [found] at known'
    split at known'
    next same => exact same ▸ shows
    next => exact remembers.shows k r' known'

/-- Whatever happens next, the first successes stay in the cache, and a new one comes to them. -/
theorem act (remembers : f.Remembers lifetime actions known)
    (enduring : Enduring lifetime actions) {action : Action} (member : action ∈ actions) :
    (f.act action).Remembers lifetime actions (known ++ f.found action) := by
  cases action with
  | write id bytes =>
    rw [found, List.append_nil]
    exact remembers.of_cache_eq rfl
  | purge now =>
    rw [found, List.append_nil, Feed.act, remembers.purge_eq enduring member]
    exact remembers
  | fetch times id =>
    cases first : known.lookup id with
    | some r =>
      have fetched := remembers.fetch_of_known enduring member first
      rw [Feed.act, found, fetched]
      exact remembers.again first
    | none =>
      have fetched := remembers.fetch_of_unknown enduring member first
      obtain ⟨c, cached, _⟩ := remembers.cached
      cases answered : (f.store.fetch id).1 with
      | error e =>
        rw [Feed.act, found, fetched, answered, List.append_nil]
        exact remembers.of_cache_eq (by simp only [Option.map_id'])
      | ok r =>
        rw [Feed.act, found, fetched, answered]
        exact remembers.withEntry member first (Store.shows_of_fetch_eq_ok answered) cached
          (by simp only [cached, Option.map_some])

/-- The invariant holds at every point of the actions. -/
theorem perform {start : Feed} (fresh : start.cache = some { lifetime })
    (enduring : Enduring lifetime actions) {before rest : List Action}
    (split : actions = before ++ rest) :
    (start.perform before).Remembers lifetime actions (start.successes before) := by
  induction before using List.reverseRecOn generalizing rest with
  | nil => exact of_fresh fresh
  | append_singleton past last ih =>
    have split' : actions = past ++ last :: rest := by rw [split, List.append_assoc]; rfl
    have member : last ∈ actions := split' ▸ List.mem_append_right past List.mem_cons_self
    rw [perform_concat, successes_concat]
    exact (ih split').act enduring member

theorem mem_cachedIds_iff (remembers : f.Remembers lifetime actions known) :
    id ∈ f.cachedIds ↔ id ∈ known.map Prod.fst := by
  have first : (f.held id).isSome = (known.lookup id).isSome := by
    rw [← remembers.first id, Option.isSome_map]
  rw [Feed.mem_cachedIds_iff, first, Option.isSome_iff_exists]
  constructor
  · rintro ⟨r, found⟩
    obtain ⟨front, back, rfl, -⟩ := List.lookup_eq_some_iff.mp found
    simp
  · intro member
    by_contra absent
    have new : known.lookup id = none := Option.eq_none_iff_forall_ne_some.mpr fun r found =>
      absent ⟨r, found⟩
    obtain ⟨success, among, rfl⟩ := List.mem_map.mp member
    simpa using List.lookup_eq_none_iff.mp new success among

theorem shows_of_mem_cachedIds (remembers : f.Remembers lifetime actions known)
    (cached : id ∈ f.cachedIds) : Text.isBlankText id = false := by
  obtain ⟨entry, held⟩ := Option.isSome_iff_exists.mp (Feed.mem_cachedIds_iff.mp cached)
  have first := remembers.first id
  rw [held, Option.map_some] at first
  exact remembers.shows id entry.record first.symm

theorem cache_of_failure (remembers : f.Remembers lifetime actions known)
    (enduring : Enduring lifetime actions) (member : .fetch times id ∈ actions) {e : FeedError}
    (failed : (f.fetch times id).answer = .error e) :
    (f.fetch times id).feed.cache = f.cache := by
  cases first : known.lookup id with
  | some r =>
    rw [remembers.fetch_of_known enduring member first]
  | none =>
    rw [remembers.fetch_of_unknown enduring member first] at failed ⊢
    dsimp only at failed ⊢
    rw [failed]
    exact Option.map_id'

end Remembers

end Feed

/-! ## Runs -/

namespace State

/-- What a step looks at the age of entries by is read from its clock. -/
theorem reads_of_mem_actionsOf {s : State} {clock : Clock} {step : Step} {action : Action}
    {now : Nat} (member : action ∈ s.actionsOf clock step) (reads : action.Reads now) :
    (∃ id, (clock.fetching id).Shows now) ∨ ∃ id, now = clock.sweeping id := by
  have fetched (id : String) (same : action = .fetch (clock.fetching id) id) :
      ∃ id, (clock.fetching id).Shows now := by
    subst same
    exact ⟨id, reads⟩
  cases step with
  | put id record =>
    dsimp only [actionsOf] at member
    split at member
    · cases List.mem_singleton.mp member
      cases reads
    · cases member
  | putRaw id bytes =>
    cases List.mem_singleton.mp member
    cases reads
  | fetch id => exact .inl (fetched id (List.mem_singleton.mp member))
  | purge =>
    cases List.mem_singleton.mp member
    exact .inr reads
  | synthesize =>
    dsimp only [actionsOf, Context.lookups] at member
    split at member
    · cases member
    · obtain ⟨id, same⟩ := Synthesis.eq_fetch_of_mem_lookups member
      exact .inl (fetched id same)
  | _ => cases member

/-- A run that is over before the first entry's life is outlived by all its entries. -/
theorem enduring_of_lt {s : State} {steps : List (Clock × Step)} {nanoseconds : Nat}
    (brief : ∀ timed ∈ steps, (∀ id now, (timed.1.fetching id).Shows now → now < nanoseconds) ∧
      ∀ id, timed.1.sweeping id < nanoseconds) :
    Enduring (.span nanoseconds) (s.actions steps) := by
  have early : ∀ action ∈ s.actions steps, ∀ now, action.Reads now → now < nanoseconds := by
    induction steps generalizing s with
    | nil => exact fun _ member => absurd member List.not_mem_nil
    | cons timed rest ih =>
      obtain ⟨clock, step⟩ := timed
      intro action member now reads
      rcases List.mem_append.mp member with first | later
      · obtain ⟨fetching, sweeping⟩ := brief _ List.mem_cons_self
        rcases reads_of_mem_actionsOf first reads with ⟨id, shown⟩ | ⟨id, rfl⟩
        · exact fetching id now shown
        · exact sweeping id
      · exact ih (fun timed among => brief timed (List.mem_cons_of_mem _ among)) action later now
          reads
  intro maker _ reader among entry now _ reads
  have bound := early reader among now reads
  exact decide_eq_true (by omega)

/-- Behind a fresh cache whose entries outlive the run, at every point of it: the cached identifiers
are those that were looked up with success so far, none of them blank, and a sweep by hand removes
nothing. A lookup, from outside or from a synthesis, of an identifier that had success before gives
the description of its first success, tells of one hit, and changes nothing; a lookup of any other
identifier gives and tells what the store does at that moment, and leaves the cache as it was if it
fails. So a description that is written after any number of failures is what the next lookup
finds. -/
theorem walk_recalls_first_successes (s : State) (lifetime : Lifetime)
    (steps : List (Clock × Step)) (fresh : s.feed.cache = some { lifetime })
    (enduring : Enduring lifetime (s.actions steps)) :
    (s.after steps).feed = s.feed.perform (s.actions steps) ∧
    feedEvents (s.messages steps) = s.feed.tellings (s.actions steps) ∧
    (∀ past clock id later, steps = past ++ (clock, .fetch id) :: later →
      ((s.after past).step clock (.fetch id)).result =
        match (s.feed.successes (s.actions past)).lookup id with
        | some r => .ok (.record r)
        | none => Reply.ofAnswer ((s.after past).feed.store.fetch id).1) ∧
    ∀ before rest, s.actions steps = before ++ rest →
      let f := s.feed.perform before
      let known := s.feed.successes before
      (∀ id, id ∈ f.cachedIds ↔ id ∈ known.map Prod.fst) ∧
      (∀ id ∈ f.cachedIds, Text.isBlankText id = false) ∧
      (∀ now later, rest = .purge now :: later → f.purge now = f) ∧
      ∀ times id later, rest = .fetch times id :: later →
        let fetched := f.fetch times id
        (∀ r, known.lookup id = some r → fetched = ⟨.ok r, [.hit id], f⟩) ∧
        (∀ e, fetched.answer = .error e → fetched.feed.cache = f.cache) ∧
        (known.lookup id = none →
          fetched.answer = (f.store.fetch id).1 ∧ fetched.events = (f.store.fetch id).2 ∧
          (∀ k, .hit k ∉ fetched.events) ∧ fetched.feed.lookups = f.lookups + 1 ∧
          ∀ past bytes between r, before = past ++ .write id bytes :: between →
            (∀ other, .write id other ∉ between) → r.encode = .ok bytes →
            Text.isBlankText id = false → (∀ fault, s.feed.store.backing ≠ .faulty fault) →
            fetched.answer = .ok r) := by
  refine ⟨s.feed_after steps, s.feedEvents_messages steps, ?_, ?_⟩
  · intro past clock id later split
    have actions := s.actions_fetch past clock id later
    rw [← split] at actions
    have remembers := Feed.Remembers.perform fresh enduring actions
    have member : .fetch (clock.fetching id) id ∈ s.actions steps :=
      actions ▸ List.mem_append_right _ List.mem_cons_self
    rw [result_fetch, feed_after]
    cases first : (s.feed.successes (s.actions past)).lookup id with
    | some r => rw [remembers.fetch_of_known enduring member first]; rfl
    | none => rw [remembers.fetch_of_unknown enduring member first]
  · intro before rest split
    have remembers := Feed.Remembers.perform fresh enduring split
    refine ⟨fun id => remembers.mem_cachedIds_iff, fun id => remembers.shows_of_mem_cachedIds,
      ?_, ?_⟩
    · rintro now later rfl
      exact remembers.purge_eq enduring (split ▸ List.mem_append_right before List.mem_cons_self)
    · rintro times id later rfl
      have member : .fetch times id ∈ s.actions steps :=
        split ▸ List.mem_append_right before List.mem_cons_self
      refine ⟨fun r => remembers.fetch_of_known enduring member,
        fun e => remembers.cache_of_failure enduring member, fun new => ?_⟩
      rw [remembers.fetch_of_unknown enduring member new]
      refine ⟨rfl, rfl, (s.feed.perform before).store.hit_not_mem_events id, rfl, ?_⟩
      rintro past bytes between r rfl last encoded shows sound
      refine Store.fetch_of_encode shows (fun fault => ?_) (s.feed.row_perform_write last) encoded
      rw [Feed.backing_perform]
      exact sound fault

/-- A clock that shows one instant. -/
def instant (now : Nat) : Clock where
  detected := fun _ => "2024-05-01T12:00:00.000Z"
  fetching := fun _ => ⟨now, now, fun _ => now⟩
  sweeping := fun _ => now
  steady := fun _ _ _ _ => Nat.le_refl now

/-- A store in memory without rows, behind a cache of five minutes. -/
def lasting : State where
  context := { scanner := .os, elements := Keyed.empty.insert "CVE-1" .null }
  feed := { store := { backing := .memory }, cache := some { lifetime := .ofSeconds 300 } }

/-- A miss, bytes that are no description, and a synthesis that meets them. -/
def missed : List (Clock × Step) :=
  [(instant 5, .fetch "CVE-1"), (instant 70, .putRaw "CVE-1" [1, 2]), (instant 99, .synthesize)]

/-- Then a description is written, which no entry can be built from. -/
def written : List (Clock × Step) := missed ++ [(instant 120, .put "CVE-1" Store.severe)]

/-- A synthesis looks it up and aborts, and another description takes its place. -/
def overwritten : List (Clock × Step) :=
  written ++ [(instant 121, .synthesize), (instant 130, .put "CVE-1" {}), (instant 140, .purge)]

theorem walk_recalls_first_successes_overwritten :
    ((lasting.after written).step (instant 125) (.fetch "CVE-1")).result =
        .ok (.record Store.severe) ∧
      ((lasting.after overwritten).step (instant 150) (.fetch "CVE-1")).result =
        .ok (.record Store.severe) ∧
      ((lasting.after overwritten).feed.store.fetch "CVE-1").1 = .ok {} := by
  refine ⟨?_, ?_, by decide +kernel⟩
  · let steps := written ++ [(instant 125, .fetch "CVE-1")]
    have enduring : Enduring (.ofSeconds 300) (lasting.actions steps) :=
      enduring_of_lt (by simp [steps, written, missed, instant, Readings.Shows])
    have encoded : Store.severe.encode = .ok Store.severeBytes := by decide +kernel
    have last : lasting.actions written =
        lasting.actions missed ++ [.write "CVE-1" Store.severeBytes] := by
      rw [written, actions_append, actions, actionsOf, encoded]
      rfl
    have here := (walk_recalls_first_successes lasting _ steps rfl enduring).2.2.2 _ _
      (lasting.actions_fetch written (instant 125) "CVE-1" [])
    have new := (here.2.2.2 _ _ _ rfl).2.2 (by decide +kernel)
    have answered := new.2.2.2.2 _ _ [] _ last (by simp) encoded (by decide +kernel)
      (fun fault same => by cases same)
    rw [result_fetch, feed_after, answered]
    rfl
  · let steps := overwritten ++ [(instant 150, .fetch "CVE-1")]
    have enduring : Enduring (.ofSeconds 300) (lasting.actions steps) :=
      enduring_of_lt (by simp [steps, overwritten, written, missed, instant, Readings.Shows])
    have replied := (walk_recalls_first_successes lasting _ steps rfl enduring).2.2.1
      overwritten _ _ [] rfl
    have first : (lasting.feed.successes (lasting.actions overwritten)).lookup "CVE-1" =
        some Store.severe := by decide +kernel
    rwa [first] at replied

end State

end Findings
