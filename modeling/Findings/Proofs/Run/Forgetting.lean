import Findings.Proofs.Run.Actions
import Mathlib.Data.List.Induction

/-!
Caches whose entries have no life. Such a cache answers nothing, so every lookup is answered by the
store, and an entry stays only until it is looked up again or swept out. Sweeps come by hand and
with every 128th success (`Feed.Sweeps`), hence the cache never holds more entries than there were
successes since the last multiple of 128 (`State.walk_forgets_at_sweeps`).
-/

namespace Findings

/-- An entry without a lifetime is never alive. -/
theorem Cached.isAlive_zero (entry : Cached) (now : Nat) : entry.isAlive .zero now = false :=
  decide_eq_false (Nat.not_lt_zero (now - entry.madeAt))

/-! ## Caches -/

namespace Cache

variable {c : Cache} {count : Nat} {found : String → Prop}

/-- A cache without a lifetime recalls nothing. -/
theorem recalled_of_zero (mortal : c.lifetime = .zero) (now : Nat) (id : String) :
    c.recalled now id = none := by
  unfold recalled
  rw [mortal]
  cases c.entries.get? id with
  | none => rfl
  | some entry => simp [Option.filter, entry.isAlive_zero]

/-- A lookup drops what a cache without a lifetime holds under the identifier. -/
theorem entries_lookUp_of_zero (mortal : c.lifetime = .zero) (now : Nat) (id : String) :
    (c.lookUp now id).2 = { c with entries := c.entries.erase id } := by
  have unknown := recalled_of_zero mortal now id
  rcases c.lookUp_cases now id with ⟨r, known, _⟩ | ⟨_, ⟨absent, looked⟩ | ⟨_, looked⟩⟩
  · cases unknown.symm.trans known
  · have same : c.entries.erase id = c.entries := by
      apply Keyed.ext_get?
      intro k
      rw [Keyed.get?_erase]
      split
      next gone => rw [gone, absent]
      next => rfl
    rw [looked, same]
  · rw [looked]

/-- A sweep empties a cache without a lifetime. -/
theorem purge_of_zero (mortal : c.lifetime = .zero) (now : String → Nat) :
    c.purge now = { c with entries := ∅ } := by
  unfold purge
  rw [mortal]
  simp only [Cached.isAlive_zero, Keyed.filter_false]

/-- The entry that is made next is swept at once if its number is a multiple of 128. A word wraps
around at a multiple of 128 too, so the counter does not have to be exact. -/
theorem due_iff (count : Nat) :
    UInt64.ofNat count % sweepInterval = sweepInterval - 1 ↔ 128 ∣ count + 1 := by
  have interval : sweepInterval.toNat = 128 := rfl
  have turn : (sweepInterval - 1).toNat = 127 := rfl
  rw [← UInt64.toNat_inj, UInt64.toNat_mod, UInt64.toNat_ofNat', interval, turn]
  omega

/-- No entry of the cache has a life. It made one for each of so many successes, and it holds those
of the identifiers that were found since the last sweep. -/
structure Forgets (c : Cache) (count : Nat) (found : String → Prop) : Prop where
  mortal : c.lifetime = .zero
  made : c.made = UInt64.ofNat count
  holds : ∀ id, (c.entries.get? id).isSome ↔ found id
  bounded : c.entries.size ≤ count % 128

namespace Forgets

theorem fresh : ({ lifetime := .zero } : Cache).Forgets 0 fun _ => False where
  mortal := rfl
  made := rfl
  holds _ := by simp
  bounded := Nat.le_refl 0

theorem of_iff (forgets : c.Forgets count found) {found' : String → Prop}
    (same : ∀ id, found' id ↔ found id) : c.Forgets count found' :=
  { forgets with holds := fun id => (forgets.holds id).trans (same id).symm }

theorem of_empty (mortal : c.lifetime = .zero) (made : c.made = UInt64.ofNat count) :
    ({ c with entries := ∅ } : Cache).Forgets count fun _ => False where
  mortal := mortal
  made := made
  holds _ := by simp
  bounded := Nat.zero_le _

/-- Behind a sweep nothing is found. -/
theorem purge (forgets : c.Forgets count found) (now : String → Nat) :
    (c.purge now).Forgets count fun _ => False := by
  rw [purge_of_zero forgets.mortal]
  exact of_empty forgets.mortal forgets.made

theorem lookUp (forgets : c.Forgets count found) (now : Nat) (id : String) :
    (c.lookUp now id).2.Forgets count fun k => k ≠ id ∧ found k := by
  rw [entries_lookUp_of_zero forgets.mortal]
  refine ⟨forgets.mortal, forgets.made, fun k => ?_, ?_⟩
  · rw [Keyed.get?_erase, ← forgets.holds k]
    by_cases gone : k = id
    · simp [gone]
    · simp [gone]
  · have fewer : (c.entries.erase id).size ≤ c.entries.size := Keyed.size_filter_le _ _
    exact Nat.le_trans fewer forgets.bounded

theorem made_withEntry (forgets : c.Forgets count found) (id : String) (entry : Cached) :
    (c.withEntry id entry).made = UInt64.ofNat (count + 1) := by
  unfold Cache.withEntry
  rw [forgets.made, UInt64.ofNat_add]
  rfl

theorem withEntry (forgets : c.Forgets count found) (later : ¬ 128 ∣ count + 1) (id : String)
    (entry : Cached) : (c.withEntry id entry).Forgets (count + 1) fun k => k = id ∨ found k := by
  refine ⟨forgets.mortal, forgets.made_withEntry id entry, fun k => ?_, ?_⟩
  · unfold Cache.withEntry
    rw [Keyed.get?_insert, ← forgets.holds k]
    by_cases same : k = id
    · simp [same]
    · simp [same]
  · have more : (c.withEntry id entry).entries.size ≤ c.entries.size + 1 :=
      Keyed.size_insert_le _ _ _
    have bounded := forgets.bounded
    omega

/-- A new entry stays, unless its making is the one that a sweep follows. -/
theorem remember (forgets : c.Forgets count found) (times : Readings) (id : String) (r : Record) :
    (c.remember times id r).Forgets (count + 1) fun k =>
      ¬ 128 ∣ count + 1 ∧ (k = id ∨ found k) := by
  have due := due_iff count
  rw [← forgets.made] at due
  rcases c.remember_cases times id r with ⟨now, remembered⟩ | ⟨later, remembered⟩
  · have turn : 128 ∣ count + 1 := due.mp now
    have mortal : (c.withEntry id ⟨r, times.made⟩).lifetime = .zero := forgets.mortal
    rw [remembered, purge_of_zero mortal]
    exact (of_empty mortal (forgets.made_withEntry id _)).of_iff fun k => by simp [turn]
  · have turn : ¬ 128 ∣ count + 1 := fun divides => later (due.mpr divides)
    rw [remembered]
    exact (forgets.withEntry turn id _).of_iff fun k => by simp [turn]

end Forgets

end Cache

/-! ## Feeds -/

namespace Feed

/-- The last of these actions sweeps the cache. -/
inductive Sweeps (f : Feed) : List Action → Prop
  | byHand (past : List Action) (now : String → Nat) : Sweeps f (past ++ [.purge now])
  /-- A lookup succeeds, and with it the number of successes is a multiple of 128. -/
  | inTurn {past : List Action} {times : Readings} {id : String} {r : Record}
    (success : ((f.perform past).fetch times id).answer = .ok r)
    (turn : 128 ∣ (f.successes past).length + 1) : Sweeps f (past ++ [.fetch times id])

/-- The identifier was looked up since the last sweep, and the last such lookup succeeded. -/
def FoundSinceSweep (f : Feed) (actions : List Action) (id : String) : Prop :=
  ∃ past times r later, actions = past ++ .fetch times id :: later ∧
    ((f.perform past).fetch times id).answer = .ok r ∧
    (∀ other, .fetch other id ∉ later) ∧
    ∀ between rest, later = between ++ rest → ¬ f.Sweeps (past ++ .fetch times id :: between)

variable {f : Feed} {past actions : List Action} {last : Action} {times : Readings} {id k : String}
  {r : Record}

/-- The last action sweeps by hand, or by making the entry that a sweep follows. -/
theorem sweeps_concat_iff :
    f.Sweeps (past ++ [last]) ↔ (∃ now, last = .purge now) ∨
      ∃ times id r, last = .fetch times id ∧ ((f.perform past).fetch times id).answer = .ok r ∧
        128 ∣ (f.successes past).length + 1 := by
  constructor
  · intro sweeps
    generalize split : past ++ [last] = actions at sweeps
    cases sweeps with
    | byHand past' now =>
      obtain ⟨rfl, same⟩ := List.append_inj' split rfl
      exact .inl ⟨now, List.singleton_inj.mp same⟩
    | @inTurn past' times id r success turn =>
      obtain ⟨rfl, same⟩ := List.append_inj' split rfl
      exact .inr ⟨times, id, r, List.singleton_inj.mp same, success, turn⟩
  · rintro (⟨now, rfl⟩ | ⟨times, id, r, rfl, success, turn⟩)
    · exact .byHand past now
    · exact .inTurn success turn

theorem not_sweeps_write (f : Feed) (past : List Action) (id : String) (bytes : List UInt8) :
    ¬ f.Sweeps (past ++ [.write id bytes]) := by
  intro sweeps
  rcases sweeps_concat_iff.mp sweeps with ⟨_, same⟩ | ⟨_, _, _, same, _⟩ <;> cases same

theorem sweeps_fetch_iff (success : ((f.perform past).fetch times id).answer = .ok r) :
    f.Sweeps (past ++ [.fetch times id]) ↔ 128 ∣ (f.successes past).length + 1 := by
  constructor
  · intro sweeps
    rcases sweeps_concat_iff.mp sweeps with ⟨_, same⟩ | ⟨_, _, _, _, _, turn⟩
    · cases same
    · exact turn
  · exact .inTurn success

theorem not_sweeps_of_failure {e : FeedError}
    (failure : ((f.perform past).fetch times id).answer = .error e) :
    ¬ f.Sweeps (past ++ [.fetch times id]) := by
  intro sweeps
  rcases sweeps_concat_iff.mp sweeps with ⟨_, same⟩ | ⟨_, _, r, same, success, _⟩
  · cases same
  · cases same
    cases failure.symm.trans success

/-- An action among actions is the last of them or not. -/
theorem concat_eq_cases {later : List Action} {action : Action}
    (split : actions ++ [last] = past ++ action :: later) :
    later = [] ∧ actions = past ∧ last = action ∨
      ∃ further, later = further ++ [last] ∧ actions = past ++ action :: further := by
  rcases List.eq_nil_or_concat later with rfl | ⟨further, final, rfl⟩
  · obtain ⟨same, equal⟩ := List.append_inj' split rfl
    exact .inl ⟨rfl, same, List.singleton_inj.mp equal⟩
  · rw [List.concat_eq_append, ← List.cons_append, ← List.append_assoc] at split
    obtain ⟨same, equal⟩ := List.append_inj' split rfl
    cases equal
    exact .inr ⟨further, List.concat_eq_append, same⟩

/-- What was found last counts, unless the finding itself was followed by a sweep. -/
theorem foundSinceSweep_self :
    f.FoundSinceSweep (past ++ [.fetch times id]) id ↔
      (∃ r, ((f.perform past).fetch times id).answer = .ok r) ∧
        ¬ f.Sweeps (past ++ [.fetch times id]) := by
  constructor
  · rintro ⟨past', times', r, later, split, success, last, unswept⟩
    rcases concat_eq_cases split with ⟨rfl, rfl, same⟩ | ⟨further, rfl, _⟩
    · cases same
      exact ⟨⟨r, success⟩, unswept [] [] rfl⟩
    · exact absurd (List.mem_append_right further List.mem_cons_self) (last times)
  · rintro ⟨⟨r, success⟩, unswept⟩
    refine ⟨past, times, r, [], rfl, success, fun _ => List.not_mem_nil, ?_⟩
    intro between rest none
    obtain ⟨rfl, _⟩ := List.append_eq_nil_iff.mp none.symm
    exact unswept

/-- What is no lookup of the identifier counts only if it sweeps. -/
theorem foundSinceSweep_concat (other : ∀ times, last ≠ .fetch times id) :
    f.FoundSinceSweep (actions ++ [last]) id ↔
      f.FoundSinceSweep actions id ∧ ¬ f.Sweeps (actions ++ [last]) := by
  constructor
  · rintro ⟨past, times, r, later, split, success, none, unswept⟩
    rcases concat_eq_cases split with ⟨_, _, same⟩ | ⟨further, rfl, rfl⟩
    · exact absurd same (other times)
    · refine ⟨⟨past, times, r, further, rfl, success, ?_, ?_⟩, ?_⟩
      · intro times' member
        exact none times' (List.mem_append_left _ member)
      · rintro between rest rfl
        exact unswept between (rest ++ [last]) (List.append_assoc ..)
      · rw [split]
        exact unswept _ [] (List.append_nil _).symm
  · rintro ⟨⟨past, times, r, later, rfl, success, none, unswept⟩, quiet⟩
    rw [List.append_assoc, List.cons_append] at quiet ⊢
    refine ⟨past, times, r, later ++ [last], rfl, success, ?_, ?_⟩
    · intro times' member
      rcases List.mem_append.mp member with earlier | final
      · exact none times' earlier
      · exact other times' (List.mem_singleton.mp final).symm
    · intro between rest split
      rcases List.eq_nil_or_concat rest with rfl | ⟨rest, action, rfl⟩
      · rw [List.append_nil] at split
        rwa [← split]
      · rw [List.concat_eq_append, ← List.append_assoc] at split
        exact unswept between rest (List.append_inj' split rfl).1

/-! ## Feeds behind a cache without life -/

/-- The cache of the feed has entries without life, as these actions have left it. -/
def Forgets (start : Feed) (actions : List Action) : Prop :=
  ∃ c, (start.perform actions).cache = some c ∧
    c.Forgets (start.successes actions).length (start.FoundSinceSweep actions)

theorem recalled_of_zero {c : Cache} (cached : f.cache = some c) (mortal : c.lifetime = .zero)
    (now : Nat) (id : String) : f.recalled now id = none := by
  rw [recalled_of_cache cached, Cache.recalled_of_zero mortal]

namespace Forgets

variable {start : Feed}

theorem of_fresh (fresh : start.cache = some { lifetime := .zero }) : start.Forgets [] := by
  refine ⟨_, fresh, Cache.Forgets.fresh.of_iff fun id => ?_⟩
  constructor
  · rintro ⟨past, times, r, later, split, _⟩
    exact absurd split.symm (by simp)
  · exact False.elim

/-- A feed whose entries have no lifetime answers and tells what its store does. -/
theorem answer_fetch (forgets : start.Forgets actions) (times : Readings) (id : String) :
    ((start.perform actions).fetch times id).answer = ((start.perform actions).store.fetch id).1 ∧
      ((start.perform actions).fetch times id).events =
        ((start.perform actions).store.fetch id).2 := by
  obtain ⟨c, cached, forgets⟩ := forgets
  rw [fetch_of_not_recalled (recalled_of_zero cached forgets.mortal times.asked id)]
  exact ⟨rfl, rfl⟩

theorem write (forgets : start.Forgets past) (id : String) (bytes : List UInt8) :
    start.Forgets (past ++ [.write id bytes]) := by
  obtain ⟨c, cached, forgets⟩ := forgets
  refine ⟨c, ?_, ?_⟩
  · rw [perform_concat]
    exact cached
  · rw [successes_concat, found, List.append_nil]
    refine forgets.of_iff fun k => ?_
    rw [foundSinceSweep_concat (by simp)]
    exact and_iff_left (not_sweeps_write start past id bytes)

theorem purge (forgets : start.Forgets past) (now : String → Nat) :
    start.Forgets (past ++ [.purge now]) := by
  obtain ⟨c, cached, forgets⟩ := forgets
  refine ⟨c.purge now, ?_, ?_⟩
  · rw [perform_concat, act, Feed.purge, cached, Option.map_some]
  · rw [successes_concat, found, List.append_nil]
    refine (forgets.purge now).of_iff fun k => ?_
    rw [foundSinceSweep_concat (by simp)]
    exact ⟨fun found => found.2 (.byHand past now), False.elim⟩

/-- A lookup that fails takes the entry of its identifier away. -/
theorem failure (forgets : start.Forgets past) {e : FeedError}
    (failure : ((start.perform past).fetch times id).answer = .error e) :
    start.Forgets (past ++ [.fetch times id]) := by
  have answered := (forgets.answer_fetch times id).1.symm.trans failure
  have unswept := not_sweeps_of_failure failure
  obtain ⟨c, cached, forgets⟩ := forgets
  have unknown := recalled_of_zero cached forgets.mortal times.asked id
  refine ⟨(c.lookUp times.asked id).2, ?_, ?_⟩
  · rw [perform_concat, act, fetch_of_not_recalled unknown, cached, answered, Option.map_some]
  · rw [successes_concat, found_of_answer_eq_error failure, List.append_nil]
    refine (forgets.lookUp times.asked id).of_iff fun k => ?_
    by_cases same : k = id
    · subst same
      rw [foundSinceSweep_self, failure]
      simp
    · rw [foundSinceSweep_concat (by simp [Ne.symm same])]
      simp [same, unswept]

/-- A lookup that succeeds makes an entry, and one in 128 of them drops all entries. -/
theorem success (forgets : start.Forgets past)
    (success : ((start.perform past).fetch times id).answer = .ok r) :
    start.Forgets (past ++ [.fetch times id]) := by
  have answered := (forgets.answer_fetch times id).1.symm.trans success
  have turn := sweeps_fetch_iff success
  obtain ⟨c, cached, forgets⟩ := forgets
  have unknown := recalled_of_zero cached forgets.mortal times.asked id
  refine ⟨(c.lookUp times.asked id).2.remember times id r, ?_, ?_⟩
  · rw [perform_concat, act, fetch_of_not_recalled unknown, cached, answered, Option.map_some]
  · rw [successes_concat, found_of_answer_eq_ok success, List.length_append, List.length_singleton]
    refine ((forgets.lookUp times.asked id).remember times id r).of_iff fun k => ?_
    rw [← turn]
    by_cases same : k = id
    · subst same
      rw [foundSinceSweep_self]
      simp [success]
    · rw [foundSinceSweep_concat (by simp [Ne.symm same])]
      simp [same, and_comm]

theorem perform (fresh : start.cache = some { lifetime := .zero }) (actions : List Action) :
    start.Forgets actions := by
  induction actions using List.reverseRecOn with
  | nil => exact of_fresh fresh
  | append_singleton past last ih =>
    cases last with
    | write id bytes => exact ih.write id bytes
    | purge now => exact ih.purge now
    | fetch times id =>
      cases answered : ((start.perform past).fetch times id).answer with
      | error e => exact ih.failure answered
      | ok r => exact ih.success answered

/-- What is cached is what was found since the last sweep. -/
theorem mem_cachedIds_iff (forgets : start.Forgets actions) :
    id ∈ (start.perform actions).cachedIds ↔ start.FoundSinceSweep actions id := by
  obtain ⟨c, cached, forgets⟩ := forgets
  rw [Feed.mem_cachedIds_iff, held_of_cache cached, forgets.holds]

/-- Between sweeps fewer than 128 entries come together. -/
theorem length_cachedIds_le (forgets : start.Forgets actions) :
    (start.perform actions).cachedIds.length ≤ (start.successes actions).length % 128 := by
  obtain ⟨c, cached, forgets⟩ := forgets
  have bounded := forgets.bounded
  rw [Keyed.size_eq_length_keys] at bounded
  rw [cachedIds, cached]
  exact bounded

theorem hit_not_mem_tellings (fresh : start.cache = some { lifetime := .zero })
    (actions : List Action) (id : String) : .hit id ∉ start.tellings actions := by
  intro told
  obtain ⟨before, action, rest, rfl, there⟩ := mem_tellings told
  cases action with
  | fetch times k =>
    have silent := (start.perform before).store.hit_not_mem_events k id
    rw [← ((perform fresh before).answer_fetch times k).2] at silent
    exact silent there
  | write k bytes => cases there
  | purge now => cases there

end Forgets

end Feed

/-! ## Runs -/

namespace State

/-- A run behind a fresh cache whose entries have no life. Whatever is looked up at any point of it,
from outside or in a synthesis, is answered and told as the store does at that moment, and no hit is
ever told. The cached identifiers are at every point those whose last lookup since the last sweep
succeeded, so that there are never more of them than the number of successes leaves over when it is
divided by 128. -/
theorem walk_forgets_at_sweeps (s : State) (steps : List (Clock × Step))
    (fresh : s.feed.cache = some { lifetime := .zero }) :
    (s.after steps).feed = s.feed.perform (s.actions steps) ∧
    feedEvents (s.messages steps) = s.feed.tellings (s.actions steps) ∧
    (∀ id, .hit id ∉ feedEvents (s.messages steps)) ∧
    (∀ clock id, ((s.after steps).step clock (.fetch id)).result =
      Reply.ofAnswer ((s.after steps).feed.store.fetch id).1) ∧
    ∀ before, before <+: s.actions steps →
      let f := s.feed.perform before
      (∀ id, id ∈ f.cachedIds ↔ s.feed.FoundSinceSweep before id) ∧
      f.cachedIds.length ≤ (s.feed.successes before).length % 128 ∧
      f.cachedIds.length ≤ 127 ∧
      ∀ times id, (f.fetch times id).answer = (f.store.fetch id).1 ∧
        (f.fetch times id).events = (f.store.fetch id).2 := by
  refine ⟨s.feed_after steps, s.feedEvents_messages steps, ?_, ?_, ?_⟩
  · rw [s.feedEvents_messages steps]
    exact Feed.Forgets.hit_not_mem_tellings fresh _
  · intro clock id
    have forgets := Feed.Forgets.perform fresh (s.actions steps)
    rw [result_fetch, feed_after, (forgets.answer_fetch (clock.fetching id) id).1]
  · intro before _
    have forgets := Feed.Forgets.perform fresh before
    have bounded := forgets.length_cachedIds_le
    refine ⟨fun id => forgets.mem_cachedIds_iff, bounded, ?_, forgets.answer_fetch⟩
    omega

/-- A database with one description, behind a cache without life. -/
def forgetful : State where
  context := { scanner := .os, elements := Keyed.empty.insert "CVE-1" .null }
  feed := { store := { backing := .database }, cache := some { lifetime := .zero } }

/-- A description is found and another one takes its place; a miss and a sweep follow. -/
def replaced : List (Clock × Step) :=
  [.put "CVE-1" Store.severe, .fetch "CVE-1", .put "CVE-1" {}, .fetch "CVE-2", .purge,
    .synthesize].map fun step => (.still "now", step)

theorem walk_forgets_at_sweeps_replaced :
    ((forgetful.after replaced).step (.still "now") (.fetch "CVE-1")).result = .ok (.record {}) ∧
      forgetful.feed.FoundSinceSweep (forgetful.actions replaced) "CVE-1" := by
  obtain ⟨after, _, _, answered, points⟩ := walk_forgets_at_sweeps forgetful replaced rfl
  obtain ⟨cached, _⟩ := points (forgetful.actions replaced) (List.prefix_refl _)
  have current : ((forgetful.after replaced).feed.store.fetch "CVE-1").1 = .ok {} := by
    decide +kernel
  have held : "CVE-1" ∈ (forgetful.after replaced).feed.cachedIds := by decide +kernel
  refine ⟨?_, (cached "CVE-1").mp (after ▸ held)⟩
  rw [answered, current]
  rfl

end State

end Findings
