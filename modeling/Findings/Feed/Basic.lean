import Findings.Feed.Cache
import Findings.Feed.Store

/-!
Feeds: a store, behind a cache if there is one. Only descriptions that were read are cached; what
could not be fetched is asked for anew the next time.
-/

namespace Findings

/-- A feed of descriptions. -/
structure Feed where
  store : Store
  cache : Option Cache := none
  /-- How many fetches have reached the store. -/
  lookups : Nat := 0

/-- The answer to a fetch. -/
structure Fetched where
  answer : Except FeedError Record
  /-- What was told on the way. -/
  events : List FeedEvent
  /-- The feed afterwards. -/
  feed : Feed

namespace Feed

/-- Fetches from the store. -/
def fetchStored (f : Feed) (id : String) : Fetched :=
  let (answer, events) := f.store.fetch id
  ⟨answer, events, { f with lookups := f.lookups + 1 }⟩

/-- Fetches a description. -/
def fetch (f : Feed) (times : Readings) (id : String) : Fetched :=
  match f.cache with
  | none => f.fetchStored id
  | some cache =>
    match cache.lookUp times.asked id with
    | (some r, cache) => ⟨.ok r, [.hit id], { f with cache := some cache }⟩
    | (none, cache) =>
      let fetched := { f with cache := some cache }.fetchStored id
      match fetched.answer with
      | .error _ => fetched
      | .ok r =>
        { fetched with feed := { fetched.feed with cache := some (cache.remember times id r) } }

/-- Sweeps the cache. -/
def purge (f : Feed) (now : String → Nat) : Feed :=
  { f with cache := f.cache.map fun cache => cache.purge now }

end Feed

end Findings
