import Findings.Proofs.Feed.Fetching
import Findings.Proofs.Record.Exactness

/-!
What happens to a feed in the course of time: bytes are written to its store, identifiers are looked
up, and its cache is swept. Runs come down to such actions, one after the other, and what a cache
holds is told from the lookups that succeeded so far (`Feed.successes`).
-/

namespace Findings

/-- What can happen to a feed. -/
inductive Action where
  /-- Bytes are written to the store. -/
  | write (id : String) (bytes : List UInt8)
  /-- An identifier is looked up. -/
  | fetch (times : Readings) (id : String)
  /-- The cache is swept by hand. -/
  | purge (now : String → Nat)

namespace Feed

/-- The feed after an action. -/
def act (f : Feed) : Action → Feed
  | .write id bytes => { f with store := f.store.putRaw id bytes }
  | .fetch times id => (f.fetch times id).feed
  | .purge now => f.purge now

/-- What the feed tells of an action. -/
def told (f : Feed) : Action → List FeedEvent
  | .fetch times id => (f.fetch times id).events
  | .write _ _ | .purge _ => []

/-- What an action finds: the identifier and the description of a lookup that succeeds. -/
def found (f : Feed) : Action → List (String × Record)
  | .fetch times id =>
    match (f.fetch times id).answer with
    | .ok r => [(id, r)]
    | .error _ => []
  | .write _ _ | .purge _ => []

/-- The feed after actions, one after the other. -/
def perform (f : Feed) (actions : List Action) : Feed := actions.foldl act f

/-- What the feed tells of actions, in order. -/
def tellings (f : Feed) : List Action → List FeedEvent
  | [] => []
  | action :: rest => f.told action ++ (f.act action).tellings rest

/-- The lookups that succeed in actions, in order. -/
def successes (f : Feed) : List Action → List (String × Record)
  | [] => []
  | action :: rest => f.found action ++ (f.act action).successes rest

/-- The identifiers the cache holds an entry for, its life over or not. -/
def cachedIds (f : Feed) : List String := (f.cache.map fun c => c.entries.keys).getD []

variable {f : Feed} {action : Action} {actions more : List Action} {times : Readings}
  {id k : String}

@[simp]
theorem perform_cons (f : Feed) (action : Action) (rest : List Action) :
    f.perform (action :: rest) = (f.act action).perform rest := rfl

/-- Actions are taken one after the other. -/
theorem perform_append (f : Feed) (actions more : List Action) :
    f.perform (actions ++ more) = (f.perform actions).perform more := List.foldl_append

theorem perform_concat (f : Feed) (actions : List Action) (last : Action) :
    f.perform (actions ++ [last]) = (f.perform actions).act last := f.perform_append actions [last]

theorem tellings_append (f : Feed) (actions more : List Action) :
    f.tellings (actions ++ more) = f.tellings actions ++ (f.perform actions).tellings more := by
  induction actions generalizing f with
  | nil => rfl
  | cons action rest ih =>
    rw [List.cons_append, tellings, tellings, ih, perform_cons, List.append_assoc]

/-- What is told is told of one of the actions, by the feed as those before it have left it. -/
theorem mem_tellings {event : FeedEvent} (told : event ∈ f.tellings actions) :
    ∃ before action rest, actions = before ++ action :: rest ∧
      event ∈ (f.perform before).told action := by
  induction actions generalizing f with
  | nil => cases told
  | cons action rest ih =>
    rcases List.mem_append.mp told with here | later
    · exact ⟨[], action, rest, rfl, here⟩
    · obtain ⟨before, action', rest', rfl, there⟩ := ih later
      exact ⟨action :: before, action', rest', rfl, there⟩

theorem successes_append (f : Feed) (actions more : List Action) :
    f.successes (actions ++ more) = f.successes actions ++ (f.perform actions).successes more := by
  induction actions generalizing f with
  | nil => rfl
  | cons action rest ih =>
    rw [List.cons_append, successes, successes, ih, perform_cons, List.append_assoc]

/-- The last action adds at most one lookup that succeeds. -/
theorem successes_concat (f : Feed) (actions : List Action) (last : Action) :
    f.successes (actions ++ [last]) = f.successes actions ++ (f.perform actions).found last := by
  rw [successes_append, successes, successes, List.append_nil]

theorem found_of_answer_eq_ok {r : Record} (answered : (f.fetch times id).answer = .ok r) :
    f.found (.fetch times id) = [(id, r)] := by
  simp only [found, answered]

theorem found_of_answer_eq_error {e : FeedError} (answered : (f.fetch times id).answer = .error e) :
    f.found (.fetch times id) = [] := by
  simp only [found, answered]

theorem held_of_cache {c : Cache} (cached : f.cache = some c) (id : String) :
    f.held id = c.entries.get? id := by
  rw [held, cached]
  rfl

theorem recalled_of_cache {c : Cache} (cached : f.cache = some c) (now : Nat) (id : String) :
    f.recalled now id = c.recalled now id := by
  rw [recalled, cached]
  rfl

/-- Something is held only where there is a cache. -/
theorem held_eq_some_iff {entry : Cached} :
    f.held id = some entry ↔ ∃ c, f.cache = some c ∧ c.entries.get? id = some entry :=
  Option.bind_eq_some_iff

/-- An identifier is cached when something is held under it. -/
theorem mem_cachedIds_iff : id ∈ f.cachedIds ↔ (f.held id).isSome := by
  unfold cachedIds held
  cases f.cache with
  | none => simp
  | some c => exact Keyed.mem_keys_iff

/-! ## The store under actions -/

@[simp]
theorem backing_act (f : Feed) (action : Action) :
    (f.act action).store.backing = f.store.backing := by
  cases action with
  | fetch times id => exact congrArg Store.backing (f.store_fetch times id)
  | write id bytes => rfl
  | purge now => rfl

/-- No action changes what a store is kept in. -/
theorem backing_perform (f : Feed) (actions : List Action) :
    (f.perform actions).store.backing = f.store.backing := by
  induction actions generalizing f with
  | nil => rfl
  | cons action rest ih => rw [perform_cons, ih, backing_act]

/-- Bytes stay in the store until others are written under the same identifier. -/
theorem row_perform (f : Feed) (untouched : ∀ bytes, Action.write k bytes ∉ actions) :
    (f.perform actions).store.rows.get? k = f.store.rows.get? k := by
  induction actions generalizing f with
  | nil => rfl
  | cons action rest ih =>
    have further : ∀ bytes, Action.write k bytes ∉ rest := fun bytes member =>
      untouched bytes (List.mem_cons_of_mem _ member)
    rw [perform_cons, ih _ further]
    cases action with
    | write id bytes =>
      have different : k ≠ id := by
        rintro rfl
        exact untouched bytes List.mem_cons_self
      exact Keyed.get?_insert_of_ne bytes different
    | fetch times id => rw [act, store_fetch]
    | purge now => rfl

/-- The store holds what was written last under an identifier. -/
theorem row_perform_write (f : Feed) {past between : List Action} {bytes : List UInt8}
    (last : ∀ other, Action.write id other ∉ between) :
    (f.perform (past ++ .write id bytes :: between)).store.rows.get? id = some bytes := by
  rw [perform_append, perform_cons, row_perform _ last]
  exact Keyed.get?_insert_self _ id bytes

end Feed

/-! ## What stores answer -/

namespace Store

variable {s : Store} {id : String}

/-- Only a database tells of what it cannot answer. -/
def tell (s : Store) (event : FeedEvent) : List FeedEvent :=
  match s.backing with
  | .database => [event]
  | .memory | .faulty _ => []

/-- The answers a store can give, with what it tells of them. -/
inductive Answers (s : Store) (id : String) : Except FeedError Record × List FeedEvent → Prop
  /-- The identifier does not show. -/
  | refused (blank : Text.isBlankText id = true) : Answers s id (.error (.invalidIdentifier id), [])
  /-- The database answers every question with the same fault. -/
  | broken (shows : Text.isBlankText id = false) {fault : DatabaseFault}
    (backing : s.backing = .faulty fault) : Answers s id (.error (.database fault.message), [])
  /-- Nothing is stored under the identifier. -/
  | missing (shows : Text.isBlankText id = false) (sound : ∀ fault, s.backing ≠ .faulty fault)
    (absent : s.rows.get? id = none) : Answers s id (.error (.notFound id), s.tell (.miss id))
  /-- What is stored is a description. -/
  | decoded (shows : Text.isBlankText id = false) (sound : ∀ fault, s.backing ≠ .faulty fault)
    {bytes : List UInt8} {r : Record} (stored : s.rows.get? id = some bytes)
    (accepted : read id bytes = .ok r) : Answers s id (.ok r, [])
  /-- What is stored is no description. -/
  | garbled (shows : Text.isBlankText id = false) (sound : ∀ fault, s.backing ≠ .faulty fault)
    {bytes : List UInt8} {e : FeedError} (stored : s.rows.get? id = some bytes)
    (rejected : read id bytes = .error e) :
    Answers s id (.error e, s.tell (.undecodable id e.message))

/-- An identifier that shows is looked up. -/
theorem checkIdentifier_of_shows (shows : Text.isBlankText id = false) :
    checkIdentifier id = .ok () := by
  rw [checkIdentifier, if_neg (Bool.eq_false_iff.mp shows)]

/-- A lookup is answered in one of these ways. -/
theorem fetch_answers (s : Store) (id : String) : s.Answers id (s.fetch id) := by
  obtain ⟨backing, rows⟩ := s
  cases blank : Text.isBlankText id with
  | true =>
    have refused : checkIdentifier id = .error (.invalidIdentifier id) := by
      rw [checkIdentifier, if_pos blank]
    have answered : fetch ⟨backing, rows⟩ id = (.error (.invalidIdentifier id), []) := by
      unfold fetch fetchMemory fetchDatabase
      rw [refused]
      cases backing <;> rfl
    exact answered ▸ .refused blank
  | false =>
    have passed := checkIdentifier_of_shows blank
    cases backing with
    | faulty fault =>
      simp only [fetch, passed]
      exact .broken blank rfl
    | memory =>
      have sound : ∀ fault, Backing.memory ≠ .faulty fault := fun _ same => by cases same
      simp only [fetch, fetchMemory, passed]
      cases stored : rows.get? id with
      | none => exact .missing blank sound stored
      | some bytes =>
        change Answers _ id (read id bytes, [])
        cases accepted : read id bytes with
        | ok r => exact .decoded blank sound stored accepted
        | error e => exact .garbled blank sound stored accepted
    | database =>
      have sound : ∀ fault, Backing.database ≠ .faulty fault := fun _ same => by cases same
      simp only [fetch, fetchDatabase, passed]
      cases stored : rows.get? id with
      | none => exact .missing blank sound stored
      | some bytes =>
        cases accepted : read id bytes with
        | ok r =>
          simp only [accepted]
          exact .decoded blank sound stored accepted
        | error e =>
          simp only [accepted]
          exact .garbled blank sound stored accepted

/-- Only identifiers that show have descriptions. -/
theorem shows_of_fetch_eq_ok {r : Record} (answered : (s.fetch id).1 = .ok r) :
    Text.isBlankText id = false := by
  have answers := s.fetch_answers id
  generalize s.fetch id = answer at answered answers
  cases answers with
  | decoded shows => exact shows
  | _ => cases answered

/-- A store tells nothing of a lookup that succeeds. -/
theorem events_of_fetch_eq_ok {r : Record} (answered : (s.fetch id).1 = .ok r) :
    (s.fetch id).2 = [] := by
  have answers := s.fetch_answers id
  generalize s.fetch id = answer at answered answers
  cases answers with
  | decoded => rfl
  | _ => cases answered

theorem mem_tell {event other : FeedEvent} (told : event ∈ s.tell other) : event = other := by
  unfold tell at told
  split at told
  · exact List.mem_singleton.mp told
  · cases told
  · cases told

/-- A store knows nothing of caches. -/
theorem hit_not_mem_events (s : Store) (id k : String) : FeedEvent.hit k ∉ (s.fetch id).2 := by
  have answers := s.fetch_answers id
  generalize s.fetch id = answer at answers
  intro told
  cases answers with
  | missing => cases mem_tell told
  | garbled => cases mem_tell told
  | _ => cases told

/-- What was written as a description is found, if its identifier shows. -/
theorem fetch_of_encode {bytes : List UInt8} {r : Record} (shows : Text.isBlankText id = false)
    (sound : ∀ fault, s.backing ≠ .faulty fault) (stored : s.rows.get? id = some bytes)
    (encoded : r.encode = .ok bytes) : (s.fetch id).1 = .ok r := by
  have accepted : read id bytes = .ok r := read_of_encode encoded
  have answers := s.fetch_answers id
  generalize s.fetch id = answer at answers
  cases answers with
  | refused blank => cases shows.symm.trans blank
  | broken _ broken => exact absurd broken (sound _)
  | missing _ _ absent => cases stored.symm.trans absent
  | decoded _ _ stored' accepted' =>
    cases stored.symm.trans stored'
    exact accepted'.symm.trans accepted
  | garbled _ _ stored' rejected =>
    cases stored.symm.trans stored'
    cases accepted.symm.trans rejected

end Store

end Findings
