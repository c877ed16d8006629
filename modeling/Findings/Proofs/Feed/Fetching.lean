import Findings.Feed.Basic
import Findings.Proofs.Keyed

/-!
What fetching does to a feed. A fetch is answered by what the cache recalls, or else by the store,
which no fetch changes. Hence fetching changes no later answer to another fetch
(`Feed.answer_after`) and nothing that is told of it (`Feed.events_after`), and it leaves what the
cache holds under other identifiers, except for entries whose life was over when a sweep came by
(`Feed.spares_after`).
-/

namespace Findings

/-! ## Caches -/

/-- A life that is not over was not over before. -/
theorem Cached.isAlive_of_le {entry : Cached} {lifetime : Lifetime} {first later : Nat}
    (order : first ≤ later) (alive : entry.isAlive lifetime later = true) :
    entry.isAlive lifetime first = true := by
  cases lifetime with
  | endless => rfl
  | span nanoseconds =>
    have age := of_decide_eq_true alive
    exact decide_eq_true (by omega)

namespace Cache

/-- The description that a cache gives for an identifier: an entry whose life is over gives none. -/
def recalled (c : Cache) (now : Nat) (id : String) : Option Record :=
  ((c.entries.get? id).filter fun entry => entry.isAlive c.lifetime now).map Cached.record

/-- The cache holds an entry whose life is over. -/
def Expired (c : Cache) (now : Nat) (id : String) : Prop :=
  ∃ entry, c.entries.get? id = some entry ∧ entry.isAlive c.lifetime now = false

variable {c : Cache} {now : Nat} {times : Readings} {id k : String}

/-- A lookup recalls an entry; or there is none, or its life is over and it is dropped. -/
theorem lookUp_cases (c : Cache) (now : Nat) (id : String) :
    (∃ r, c.recalled now id = some r ∧ c.lookUp now id = (some r, c)) ∨
      c.recalled now id = none ∧
        (c.entries.get? id = none ∧ c.lookUp now id = (none, c) ∨
          c.Expired now id ∧
            c.lookUp now id = (none, { c with entries := c.entries.erase id })) := by
  unfold lookUp recalled Expired
  cases held : c.entries.get? id with
  | none => exact .inr ⟨rfl, .inl ⟨rfl, rfl⟩⟩
  | some entry =>
    cases alive : entry.isAlive c.lifetime now with
    | true => exact .inl ⟨entry.record, by simp [Option.filter, alive]⟩
    | false =>
      refine .inr ⟨by simp [Option.filter, alive], .inr ⟨⟨entry, rfl, alive⟩, ?_⟩⟩
      simp only [alive]
      rfl

theorem fst_lookUp (c : Cache) (now : Nat) (id : String) :
    (c.lookUp now id).1 = c.recalled now id := by
  rcases c.lookUp_cases now id with ⟨r, known, looked⟩ | ⟨unknown, ⟨_, looked⟩ | ⟨_, looked⟩⟩
  · rw [looked, known]
  · rw [looked, unknown]
  · rw [looked, unknown]

/-- An entry that is alive is recalled. -/
theorem recalled_of_alive {c : Cache} {now : Nat} {id : String} {entry : Cached}
    (held : c.entries.get? id = some entry) (alive : entry.isAlive c.lifetime now = true) :
    c.recalled now id = some entry.record := by
  rw [recalled, held]
  simp [Option.filter, alive]

theorem recalled_of_absent {c : Cache} {id : String} (absent : c.entries.get? id = none)
    (now : Nat) : c.recalled now id = none := by
  rw [recalled, absent]
  rfl

/-- The cache with one more entry, before a sweep. -/
def withEntry (c : Cache) (id : String) (entry : Cached) : Cache :=
  { c with entries := c.entries.insert id entry, made := c.made + 1 }

/-- A sweep follows the making of an entry or does not, as the number of entries demands. -/
theorem remember_cases (c : Cache) (times : Readings) (id : String) (r : Record) :
    c.made % sweepInterval = sweepInterval - 1 ∧
        c.remember times id r = (c.withEntry id ⟨r, times.made⟩).purge times.swept ∨
      c.made % sweepInterval ≠ sweepInterval - 1 ∧
        c.remember times id r = c.withEntry id ⟨r, times.made⟩ := by
  unfold remember withEntry
  by_cases due : c.made % sweepInterval = sweepInterval - 1
  · exact .inl ⟨due, if_pos due⟩
  · exact .inr ⟨due, if_neg due⟩

/-- A later cache still has the entry of an identifier, unless it dropped the entry because its
life was over. -/
structure Spares (c d : Cache) (now : Nat) (id : String) : Prop where
  lifetime : d.lifetime = c.lifetime
  entry : d.entries.get? id = c.entries.get? id ∨ c.Expired now id ∧ d.entries.get? id = none

namespace Spares

variable {d e : Cache}

theorem refl (c : Cache) (now : Nat) (id : String) : c.Spares c now id := ⟨rfl, .inl rfl⟩

theorem trans (first : c.Spares d now id) (second : d.Spares e now id) : c.Spares e now id := by
  refine ⟨second.lifetime.trans first.lifetime, ?_⟩
  rcases first.entry with kept | ⟨expired, gone⟩
  · rcases second.entry with kept' | ⟨⟨entry, held, dead⟩, gone⟩
    · exact .inl (kept'.trans kept)
    · exact .inr ⟨⟨entry, kept ▸ held, first.lifetime ▸ dead⟩, gone⟩
  · rcases second.entry with kept' | ⟨_, gone'⟩
    · exact .inr ⟨expired, kept'.trans gone⟩
    · exact .inr ⟨expired, gone'⟩

/-- An entry whose life was dead early is one whose life is dead late. -/
theorem of_le {swept : Nat} (order : swept ≤ now) (early : c.Spares d swept id) :
    c.Spares d now id := by
  refine ⟨early.lifetime, early.entry.imp_right fun ⟨⟨entry, held, dead⟩, gone⟩ => ?_⟩
  refine ⟨⟨entry, held, ?_⟩, gone⟩
  cases alive : entry.isAlive c.lifetime now with
  | false => rfl
  | true => exact (entry.isAlive_of_le order alive).symm.trans dead

theorem recalled_eq (spared : c.Spares d now id) : d.recalled now id = c.recalled now id := by
  unfold recalled
  rcases spared.entry with kept | ⟨⟨entry, held, dead⟩, gone⟩
  · rw [kept, spared.lifetime]
  · rw [gone, held]
    simp [Option.filter, dead]

end Spares

theorem spares_purge (c : Cache) (sweep : String → Nat) (id : String) :
    c.Spares (c.purge sweep) (sweep id) id := by
  have swept : (c.purge sweep).entries.get? id =
      (c.entries.get? id).filter fun entry => entry.isAlive c.lifetime (sweep id) :=
    Keyed.get?_filter c.entries _ id
  refine ⟨rfl, ?_⟩
  rw [swept]
  cases held : c.entries.get? id with
  | none => exact .inl rfl
  | some entry =>
    cases alive : entry.isAlive c.lifetime (sweep id) with
    | true => exact .inl (by simp [Option.filter, alive])
    | false => exact .inr ⟨⟨entry, held, alive⟩, by simp [Option.filter, alive]⟩

/-- Looking up drops at most the entry that was looked up. -/
theorem spares_lookUp (c : Cache) (asked : Nat) (different : k ≠ id) (now : Nat) :
    c.Spares (c.lookUp asked id).2 now k := by
  rcases c.lookUp_cases asked id with ⟨r, _, looked⟩ | ⟨_, ⟨_, looked⟩ | ⟨_, looked⟩⟩
  · exact looked ▸ .refl c now k
  · exact looked ▸ .refl c now k
  · exact looked ▸ ⟨rfl, .inl (Keyed.get?_erase_of_ne different)⟩

/-- An entry that is made leaves the others, except for those that a sweep drops. -/
theorem spares_remember (c : Cache) (r : Record) (different : k ≠ id) :
    c.Spares (c.remember times id r) (times.swept k) k := by
  have made : c.Spares
      { c with entries := c.entries.insert id ⟨r, times.made⟩, made := c.made + 1 }
      (times.swept k) k := ⟨rfl, .inl (Keyed.get?_insert_of_ne _ different)⟩
  unfold remember
  dsimp only
  split
  · exact made.trans (spares_purge _ times.swept k)
  · exact made

end Cache

/-! ## Events of a fetch -/

/-- The identifier an event is about. -/
def FeedEvent.id : FeedEvent → String
  | miss id | hit id | undecodable id _ => id

theorem Store.id_of_mem_events {s : Store} {id : String} {event : FeedEvent}
    (told : event ∈ (s.fetch id).2) : event.id = id := by
  unfold fetch fetchDatabase at told
  split at told
  · cases told
  · split at told
    · cases told
    · split at told
      · rw [List.mem_singleton.mp told]
        rfl
      · split at told
        · cases told
        · rw [List.mem_singleton.mp told]
          rfl
  · split at told <;> cases told

namespace Feed

/-! ## One fetch -/

/-- The description that the cache of a feed gives for an identifier. -/
def recalled (f : Feed) (now : Nat) (id : String) : Option Record :=
  f.cache.bind fun c => c.recalled now id

/-- The entry that the cache of a feed holds for an identifier, its life over or not. -/
def held (f : Feed) (id : String) : Option Cached := f.cache.bind fun c => c.entries.get? id

/-- The cache of the feed holds an entry whose life is over. -/
def Expired (f : Feed) (now : Nat) (id : String) : Prop := ∃ c, f.cache = some c ∧ c.Expired now id

variable {f : Feed} {times : Readings} {id k : String} {now : Nat}

/-- What the cache recalls is the answer, and nobody else is asked. -/
theorem fetch_of_recalled {r : Record} (known : f.recalled times.asked id = some r) :
    f.fetch times id = ⟨.ok r, [.hit id], f⟩ := by
  rcases f with ⟨store, _ | c, lookups⟩
  · cases known
  · have found : c.recalled times.asked id = some r := known
    rcases c.lookUp_cases times.asked id with ⟨r', known, looked⟩ | ⟨unknown, _⟩
    · cases known.symm.trans found
      simp only [fetch, looked]
    · cases unknown.symm.trans found

/-- What the cache does not recall is asked of the store. The cache drops what it holds under that
identifier, and remembers what the store answers. -/
theorem fetch_of_not_recalled (unknown : f.recalled times.asked id = none) :
    f.fetch times id = ⟨(f.store.fetch id).1, (f.store.fetch id).2,
      { f with
        cache := f.cache.map fun c =>
          match (f.store.fetch id).1 with
          | .ok r => (c.lookUp times.asked id).2.remember times id r
          | .error _ => (c.lookUp times.asked id).2
        lookups := f.lookups + 1 }⟩ := by
  rcases f with ⟨store, _ | c, lookups⟩
  · rfl
  · have missed : (c.lookUp times.asked id).1 = none := (c.fst_lookUp _ id).trans unknown
    rcases looked : c.lookUp times.asked id with ⟨found, left⟩
    rw [looked] at missed
    dsimp only at missed
    subst missed
    simp only [fetch, looked, fetchStored, Option.map_some]
    cases (store.fetch id).1 <;> rfl

/-- A fetch is answered by what is recalled, or else by the store. -/
theorem answer_fetch (f : Feed) (times : Readings) (id : String) :
    (f.fetch times id).answer = match f.recalled times.asked id with
      | some r => .ok r
      | none => (f.store.fetch id).1 := by
  cases known : f.recalled times.asked id with
  | some r => rw [fetch_of_recalled known]
  | none => rw [fetch_of_not_recalled known]

/-- A fetch tells of a hit, or what the store tells. -/
theorem events_fetch (f : Feed) (times : Readings) (id : String) :
    (f.fetch times id).events = match f.recalled times.asked id with
      | some _ => [.hit id]
      | none => (f.store.fetch id).2 := by
  cases known : f.recalled times.asked id with
  | some r => rw [fetch_of_recalled known]
  | none => rw [fetch_of_not_recalled known]

/-- No fetch changes the store. -/
@[simp]
theorem store_fetch (f : Feed) (times : Readings) (id : String) :
    (f.fetch times id).feed.store = f.store := by
  cases known : f.recalled times.asked id with
  | some r => rw [fetch_of_recalled known]
  | none => rw [fetch_of_not_recalled known]

/-- A fetch tells of nothing but the identifier it is for. -/
theorem id_of_mem_events {event : FeedEvent} (told : event ∈ (f.fetch times id).events) :
    event.id = id := by
  rw [events_fetch] at told
  split at told
  · rw [List.mem_singleton.mp told]
    rfl
  · exact Store.id_of_mem_events told

/-- The caches of two feeds, where the later one still has the entry of an identifier, unless it
dropped the entry because its life was over. -/
def Spares (f g : Feed) (now : Nat) (id : String) : Prop :=
  Option.Rel (fun c d => c.Spares d now id) f.cache g.cache

namespace Spares

variable {g h : Feed}

theorem refl (f : Feed) (now : Nat) (id : String) : f.Spares f now id := by
  unfold Spares
  cases f.cache with
  | none => exact .none
  | some c => exact .some (.refl c now id)

theorem trans (first : f.Spares g now id) (second : g.Spares h now id) : f.Spares h now id := by
  rcases f with ⟨_, _, _⟩
  rcases g with ⟨_, _, _⟩
  rcases h with ⟨_, _, _⟩
  unfold Spares at first second ⊢
  cases first with
  | none => exact second
  | some first =>
    cases second with
    | some second => exact .some (first.trans second)

theorem recalled_eq (spared : f.Spares g now id) : g.recalled now id = f.recalled now id := by
  rcases f with ⟨_, _, _⟩
  rcases g with ⟨_, _, _⟩
  unfold Spares at spared
  unfold recalled
  cases spared with
  | none => rfl
  | some spared => exact spared.recalled_eq

/-- What is spared is held as before, or its life is over and it is gone. -/
theorem held_cases (spared : f.Spares g now id) :
    g.held id = f.held id ∨ f.Expired now id ∧ g.held id = none := by
  rcases f with ⟨_, _, _⟩
  rcases g with ⟨_, _, _⟩
  unfold Spares at spared
  unfold held Expired
  cases spared with
  | none => exact .inl rfl
  | some spared => exact spared.entry.imp_right fun ⟨expired, gone⟩ => ⟨⟨_, rfl, expired⟩, gone⟩

end Spares

/-- A fetch leaves what the cache holds under other identifiers, except for entries that a sweep
drops. -/
theorem spares_fetch (f : Feed) (different : k ≠ id) (order : times.swept k ≤ now) :
    f.Spares (f.fetch times id).feed now k := by
  cases known : f.recalled times.asked id with
  | some r =>
    rw [fetch_of_recalled known]
    exact .refl f now k
  | none =>
    rw [fetch_of_not_recalled known]
    unfold Spares
    cases f.cache with
    | none => exact .none
    | some c =>
      have looked := c.spares_lookUp times.asked different now
      dsimp only [Option.map_some]
      split
      next r _ =>
        exact .some (looked.trans ((Cache.spares_remember _ r different).of_le order))
      next => exact .some looked

/-! ## Fetches one after the other -/

/-- The feed after fetches, one after the other. -/
def after (f : Feed) (times : String → Readings) (ids : List String) : Feed :=
  ids.foldl (fun f id => (f.fetch (times id) id).feed) f

/-- The fetches of some identifiers are over when another one is asked for. -/
def OverBefore (times : String → Readings) (ids : List String) (k : String) : Prop :=
  ∀ id ∈ ids, k ≠ id ∧ (times id).swept k ≤ (times k).asked

section After

variable {times : String → Readings} {ids : List String}

@[simp]
theorem after_nil (f : Feed) (times : String → Readings) : f.after times [] = f := rfl

@[simp]
theorem after_cons (f : Feed) (times : String → Readings) (id : String) (ids : List String) :
    f.after times (id :: ids) = (f.fetch (times id) id).feed.after times ids := rfl

theorem after_append (f : Feed) (times : String → Readings) (ids more : List String) :
    f.after times (ids ++ more) = (f.after times ids).after times more := List.foldl_append

@[simp]
theorem store_after (f : Feed) (times : String → Readings) (ids : List String) :
    (f.after times ids).store = f.store := by
  induction ids generalizing f with
  | nil => rfl
  | cons id rest ih => rw [after_cons, ih, store_fetch]

theorem spares_after (f : Feed) (fetched : OverBefore times ids k) :
    f.Spares (f.after times ids) (times k).asked k := by
  induction ids generalizing f with
  | nil => exact .refl f _ k
  | cons id rest ih =>
    obtain ⟨different, order⟩ := fetched id List.mem_cons_self
    have further : OverBefore times rest k := fun later member =>
      fetched later (List.mem_cons_of_mem id member)
    exact (f.spares_fetch different order).trans (ih _ further)

/-- No fetch of other identifiers changes the answer to a later one. -/
theorem answer_after (f : Feed) (fetched : OverBefore times ids k) :
    ((f.after times ids).fetch (times k) k).answer = (f.fetch (times k) k).answer := by
  rw [answer_fetch, answer_fetch, (f.spares_after fetched).recalled_eq, store_after]

theorem events_after (f : Feed) (fetched : OverBefore times ids k) :
    ((f.after times ids).fetch (times k) k).events = (f.fetch (times k) k).events := by
  rw [events_fetch, events_fetch, (f.spares_after fetched).recalled_eq, store_after]

end After

end Feed

end Findings
