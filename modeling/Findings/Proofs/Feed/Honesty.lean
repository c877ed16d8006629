import Findings.Proofs.Feed.Actions
import Findings.Synthesis

/-!
Caches that hold nothing but what the store answers (`Feed.Honest`). Behind such a cache every fetch
is answered as the store answers it, and all that the cache adds to what is told is its hits. A
fresh cache is honest, and it stays so while nothing is written to the store.
-/

namespace Findings

open Synthesis

/-! ## Hits -/

/-- The event only tells of the cache. -/
def FeedEvent.isHit : FeedEvent → Bool
  | hit _ => true
  | miss _ | undecodable _ _ => false

/-- The message only tells of the cache. -/
def Message.isHit (m : Message) : Bool :=
  match m.event with
  | .feed event => event.isHit
  | .scan _ => false

/-- The messages without those that only tell of the cache. -/
def withoutHits (messages : List Message) : List Message := messages.filter fun m => !m.isHit

theorem withoutHits_append (front back : List Message) :
    withoutHits (front ++ back) = withoutHits front ++ withoutHits back := List.filter_append ..

theorem withoutHits_say_cons (agent : String) (event : ScanEvent) (messages : List Message) :
    withoutHits (say agent event :: messages) = say agent event :: withoutHits messages := rfl

/-- Of what a store tells nothing is lost without the hits. -/
theorem withoutHits_store (s : Store) (id : String) :
    withoutHits ((s.fetch id).2.map Synthesis.pass) = (s.fetch id).2.map Synthesis.pass := by
  unfold withoutHits
  apply List.filter_eq_self.mpr
  intro m member
  obtain ⟨event, told, rfl⟩ := List.mem_map.mp member
  cases event with
  | hit k => exact absurd told (s.hit_not_mem_events id k)
  | miss k => rfl
  | undecodable k message => rfl

/-! ## What a cache still holds -/

namespace Cache

variable {c : Cache} {now : Nat} {id k : String} {entry : Cached}

/-- A sweep makes no entries. -/
theorem get?_of_purge {sweep : String → Nat} (held : (c.purge sweep).entries.get? k = some entry) :
    c.entries.get? k = some entry := by
  unfold purge at held
  rw [Keyed.get?_filter] at held
  exact (Option.filter_eq_some_iff.mp held).1

/-- A lookup makes no entries. -/
theorem get?_of_lookUp (held : (c.lookUp now id).2.entries.get? k = some entry) :
    c.entries.get? k = some entry := by
  rcases c.lookUp_cases now id with ⟨r, _, looked⟩ | ⟨_, ⟨_, looked⟩ | ⟨_, looked⟩⟩
  · rwa [looked] at held
  · rwa [looked] at held
  · rw [looked, Keyed.get?_erase] at held
    split at held
    · cases held
    · exact held

/-- The only new entry is the one that is made. -/
theorem get?_of_remember {times : Readings} {r : Record}
    (held : (c.remember times id r).entries.get? k = some entry) :
    k = id ∧ entry.record = r ∨ c.entries.get? k = some entry := by
  have added : (c.withEntry id ⟨r, times.made⟩).entries.get? k = some entry := by
    rcases c.remember_cases times id r with ⟨_, remembered⟩ | ⟨_, remembered⟩
    · rw [remembered] at held
      exact get?_of_purge held
    · rwa [remembered] at held
  unfold withEntry at added
  rw [Keyed.get?_insert] at added
  split at added
  next same =>
    cases added
    exact .inl ⟨same, rfl⟩
  next => exact .inr added

end Cache

/-! ## Honest caches -/

namespace Feed

/-- The store of the feed behind a fresh cache, or behind none. -/
def behind (f : Feed) (lifetime : Option Lifetime) : Feed :=
  { f with cache := lifetime.map fun lifetime => { lifetime } }

/-- The cache holds nothing but what the store answers. -/
def Honest (f : Feed) : Prop :=
  ∀ id entry, f.held id = some entry → (f.store.fetch id).1 = .ok entry.record

variable {f : Feed} {times : Readings} {id k : String}

theorem held_behind (f : Feed) (lifetime : Option Lifetime) (id : String) :
    (f.behind lifetime).held id = none := by
  cases lifetime <;> rfl

theorem recalled_behind (f : Feed) (lifetime : Option Lifetime) (now : Nat) (id : String) :
    (f.behind lifetime).recalled now id = none := by
  cases lifetime <;> rfl

/-- A fresh cache holds nothing, and none holds nothing either. -/
theorem honest_behind (f : Feed) (lifetime : Option Lifetime) : (f.behind lifetime).Honest := by
  intro id entry held
  cases (f.held_behind lifetime id).symm.trans held

/-- What is held after a fetch was held before it, or is what the store has just answered. -/
theorem held_fetch {entry : Cached} (held : (f.fetch times id).feed.held k = some entry) :
    f.held k = some entry ∨ (f.store.fetch k).1 = .ok entry.record := by
  cases known : f.recalled times.asked id with
  | some r =>
    rw [fetch_of_recalled known] at held
    exact .inl held
  | none =>
    rw [fetch_of_not_recalled known] at held
    obtain ⟨d, after, held⟩ := held_eq_some_iff.mp held
    obtain ⟨c, cached, rfl⟩ := Option.map_eq_some_iff.mp after
    rw [held_of_cache cached]
    cases answered : (f.store.fetch id).1 with
    | error e =>
      rw [answered] at held
      exact .inl (Cache.get?_of_lookUp held)
    | ok r =>
      rw [answered] at held
      rcases Cache.get?_of_remember held with ⟨rfl, rfl⟩ | old
      · exact .inr answered
      · exact .inl (Cache.get?_of_lookUp old)

namespace Honest

/-- What an honest cache recalls is what the store answers. -/
theorem answer_of_recalled (honest : f.Honest) {now : Nat} {r : Record}
    (known : f.recalled now id = some r) : (f.store.fetch id).1 = .ok r := by
  obtain ⟨c, cached, known⟩ := Option.bind_eq_some_iff.mp known
  obtain ⟨entry, alive, rfl⟩ := Option.map_eq_some_iff.mp known
  obtain ⟨held, _⟩ := Option.filter_eq_some_iff.mp alive
  exact honest id entry (held_eq_some_iff.mpr ⟨c, cached, held⟩)

/-- Behind an honest cache a fetch is answered as the store answers it. -/
theorem answer_fetch (honest : f.Honest) (times : Readings) (id : String) :
    (f.fetch times id).answer = (f.store.fetch id).1 := by
  cases known : f.recalled times.asked id with
  | some r => rw [fetch_of_recalled known, honest.answer_of_recalled known]
  | none => rw [fetch_of_not_recalled known]

/-- All that the cache adds to what is told is its hits. -/
theorem withoutHits_fetch (honest : f.Honest) (times : Readings) (id : String) :
    withoutHits ((f.fetch times id).events.map Synthesis.pass) =
      (f.store.fetch id).2.map Synthesis.pass := by
  cases known : f.recalled times.asked id with
  | some r =>
    have silent := Store.events_of_fetch_eq_ok (honest.answer_of_recalled known)
    rw [fetch_of_recalled known, silent]
    rfl
  | none =>
    rw [fetch_of_not_recalled known]
    exact withoutHits_store f.store id

/-- A fetch leaves an honest cache honest. -/
theorem fetch (honest : f.Honest) (times : Readings) (id : String) :
    (f.fetch times id).feed.Honest := by
  intro k entry held
  rw [store_fetch]
  rcases held_fetch held with old | new
  · exact honest k entry old
  · exact new

theorem purge (honest : f.Honest) (now : String → Nat) : (f.purge now).Honest := by
  intro k entry held
  obtain ⟨d, after, held⟩ := held_eq_some_iff.mp held
  obtain ⟨c, cached, rfl⟩ := Option.map_eq_some_iff.mp after
  exact honest k entry (held_eq_some_iff.mpr ⟨c, cached, Cache.get?_of_purge held⟩)

end Honest

/-! ## Feeds over the same store -/

/-- The feeds have the same store, and their caches hold nothing but what it answers. -/
structure Alike (f g : Feed) : Prop where
  store : f.store = g.store
  left : f.Honest
  right : g.Honest

namespace Alike

variable {g : Feed}

/-- Feeds with the same store are alike behind fresh caches, whatever their lifetimes. -/
theorem behind (f : Feed) (one other : Option Lifetime) :
    (f.behind one).Alike (f.behind other) :=
  ⟨rfl, f.honest_behind one, f.honest_behind other⟩

/-- Feeds that are alike answer alike, at whatever times they are asked. -/
theorem answer_fetch (alike : f.Alike g) (times times' : Readings) (id : String) :
    (f.fetch times id).answer = (g.fetch times' id).answer := by
  rw [alike.left.answer_fetch, alike.right.answer_fetch, alike.store]

/-- Feeds that are alike tell the same of a fetch but for hits. -/
theorem withoutHits_fetch (alike : f.Alike g) (times times' : Readings) (id : String) :
    withoutHits ((f.fetch times id).events.map Synthesis.pass) =
      withoutHits ((g.fetch times' id).events.map Synthesis.pass) := by
  rw [alike.left.withoutHits_fetch, alike.right.withoutHits_fetch, alike.store]

theorem fetch (alike : f.Alike g) (times times' : Readings) (id : String) :
    (f.fetch times id).feed.Alike (g.fetch times' id).feed := by
  refine ⟨?_, alike.left.fetch times id, alike.right.fetch times' id⟩
  rw [store_fetch, store_fetch, alike.store]

theorem purge (alike : f.Alike g) (now now' : String → Nat) :
    (f.purge now).Alike (g.purge now') :=
  ⟨alike.store, alike.left.purge now, alike.right.purge now'⟩

end Alike

end Feed

end Findings
