import Findings.Proofs.Run.Actions

/-!
Runs over a memory and over a database. The two hold bytes under the same rule, that those written
last are the ones that are read, and so a run over the one and the same run over the other go alike
step by step, behind any cache. All that a database adds are its complaints: of identifiers that it
does not have, and of bytes that it cannot read (`State.walk_database_as_memory`).
-/

namespace Findings

open Synthesis

/-! ## Complaints -/

/-- The event tells of what a store could not answer. -/
def FeedEvent.isComplaint : FeedEvent → Bool
  | miss _ | undecodable _ _ => true
  | hit _ => false

/-- The message tells of what a store could not answer. -/
def Message.isComplaint (m : Message) : Bool :=
  match m.event with
  | .feed event => event.isComplaint
  | .scan _ => false

/-- The messages without those that tell of what a store could not answer. -/
def withoutComplaints (messages : List Message) : List Message :=
  messages.filter fun m => !m.isComplaint

theorem withoutComplaints_append (front back : List Message) :
    withoutComplaints (front ++ back) = withoutComplaints front ++ withoutComplaints back :=
  List.filter_append ..

theorem withoutComplaints_say_cons (agent : String) (event : ScanEvent) (messages : List Message) :
    withoutComplaints (say agent event :: messages) =
      say agent event :: withoutComplaints messages := rfl

/-! ## Stores -/

namespace Store

/-- The rows of a store in another place. -/
def within (s : Store) (backing : Backing) : Store := { s with backing }

/-- A database answers as a store in memory with the same rows. -/
theorem answer_within_database (s : Store) (id : String) :
    ((s.within .database).fetch id).1 = ((s.within .memory).fetch id).1 := by
  simp only [within, fetch, fetchMemory, fetchDatabase]
  cases checkIdentifier id with
  | error e => rfl
  | ok shows =>
    cases s.rows.get? id with
    | none => rfl
    | some bytes =>
      dsimp only [bind, Except.bind]
      cases read id bytes <;> rfl

/-- A database tells of nothing but what it could not answer. -/
theorem isComplaint_of_mem_events {s : Store} {id : String} {event : FeedEvent}
    (told : event ∈ (s.fetch id).2) : event.isComplaint = true := by
  have answers := s.fetch_answers id
  generalize s.fetch id = answer at answers told
  cases answers with
  | missing => rw [mem_tell told]; rfl
  | garbled => rw [mem_tell told]; rfl
  | _ => cases told

/-- All that a store tells by itself is complaints. -/
theorem withoutComplaints_events (s : Store) (id : String) :
    withoutComplaints ((s.fetch id).2.map Synthesis.pass) = [] := by
  unfold withoutComplaints
  refine List.filter_eq_nil_iff.mpr fun m member => ?_
  obtain ⟨event, told, rfl⟩ := List.mem_map.mp member
  have complaint := isComplaint_of_mem_events told
  simp [Message.isComplaint, Synthesis.pass, complaint]

end Store

/-! ## Feeds -/

namespace Feed

/-- The feed with the rows of its store in another place. -/
def within (f : Feed) (backing : Backing) : Feed := { f with store := f.store.within backing }

/-- The second feed is the first with its rows in a database and not in memory. -/
structure Twins (f g : Feed) : Prop where
  memory : f.store.backing = .memory
  database : g = f.within .database

namespace Twins

variable {f g : Feed}

theorem of_within (f : Feed) : (f.within .memory).Twins (f.within .database) := ⟨rfl, rfl⟩

/-- Twins recall the same. -/
theorem recalled_eq (twins : f.Twins g) (now : Nat) (id : String) :
    g.recalled now id = f.recalled now id := by
  rw [twins.database]
  rfl

theorem answer_store (twins : f.Twins g) (id : String) :
    (g.store.fetch id).1 = (f.store.fetch id).1 := by
  obtain ⟨⟨backing, rows⟩, cache, lookups⟩ := f
  obtain ⟨memory, rfl⟩ := twins
  cases memory
  exact Store.answer_within_database _ id

theorem silent (twins : f.Twins g) (id : String) : (f.store.fetch id).2 = [] := by
  rw [Store.fetch, twins.memory]

/-- Twins answer alike. -/
theorem answer_fetch (twins : f.Twins g) (times : Readings) (id : String) :
    (g.fetch times id).answer = (f.fetch times id).answer := by
  rw [Feed.answer_fetch, Feed.answer_fetch, twins.recalled_eq, twins.answer_store]

/-- Hits are told by the cache, whatever is behind it; a memory tells nothing. -/
theorem withoutComplaints_fetch (twins : f.Twins g) (times : Readings) (id : String) :
    withoutComplaints ((g.fetch times id).events.map Synthesis.pass) =
      (f.fetch times id).events.map Synthesis.pass := by
  rw [events_fetch, events_fetch, twins.recalled_eq]
  cases f.recalled times.asked id with
  | some r => rfl
  | none =>
    dsimp only
    rw [g.store.withoutComplaints_events, twins.silent]
    rfl

/-- Twins stay twins behind a fetch. -/
theorem fetch (twins : f.Twins g) (times : Readings) (id : String) :
    (f.fetch times id).feed.Twins (g.fetch times id).feed := by
  have recalled := twins.recalled_eq times.asked id
  refine ⟨by rw [store_fetch, twins.memory], ?_⟩
  cases known : f.recalled times.asked id with
  | some r =>
    rw [fetch_of_recalled known, fetch_of_recalled (recalled.trans known)]
    exact twins.database
  | none =>
    rw [fetch_of_not_recalled known, fetch_of_not_recalled (recalled.trans known),
      twins.answer_store, twins.database]
    rfl

theorem purge (twins : f.Twins g) (now : String → Nat) : (f.purge now).Twins (g.purge now) := by
  obtain ⟨memory, rfl⟩ := twins
  exact ⟨memory, rfl⟩

theorem write (twins : f.Twins g) (id : String) (bytes : List UInt8) :
    Twins { f with store := f.store.putRaw id bytes }
      { g with store := g.store.putRaw id bytes } := by
  obtain ⟨memory, rfl⟩ := twins
  exact ⟨memory, rfl⟩

end Twins

end Feed

/-! ## What a database tells of a lookup -/

/-- The lookups of a database, each with its answer and with all that is told of it. -/
inductive DatabaseLookup (rows : Keyed (List UInt8)) (id : String) :
    Except FeedError Record → List FeedEvent → Prop
  /-- The identifier does not show. -/
  | refused (blank : Text.isBlankText id = true) :
    DatabaseLookup rows id (.error (.invalidIdentifier id)) []
  /-- Nothing is stored under the identifier. -/
  | missed (shows : Text.isBlankText id = false) (absent : rows.get? id = none) :
    DatabaseLookup rows id (.error (.notFound id)) [.miss id]
  /-- What is stored is no description, for whatever reason. -/
  | rejected (shows : Text.isBlankText id = false) {bytes : List UInt8}
    (stored : rows.get? id = some bytes) {fault : Record.Fault}
    (faulty : Record.decode bytes = .error fault) :
    DatabaseLookup rows id (.error (.ofFault id fault))
      [.undecodable id (FeedError.ofFault id fault).message]
  /-- What is stored is a description. -/
  | found (shows : Text.isBlankText id = false) {bytes : List UInt8}
    (stored : rows.get? id = some bytes) {r : Record} (decoded : Record.decode bytes = .ok r) :
    DatabaseLookup rows id (.ok r) []

/-- A lookup in a database takes one of the listed ways. -/
theorem Store.databaseLookup {s : Store} (database : s.backing = .database) (id : String) :
    DatabaseLookup s.rows id (s.fetch id).1 (s.fetch id).2 := by
  have tells (event : FeedEvent) : s.tell event = [event] := by rw [tell, database]
  have answers := s.fetch_answers id
  generalize s.fetch id = answer at answers
  cases answers with
  | refused blank => exact .refused blank
  | broken _ broken => cases database.symm.trans broken
  | missing shows _ absent =>
    rw [tells]
    exact .missed shows absent
  | @decoded shows _ bytes _ stored accepted =>
    cases decoded : Record.decode bytes with
    | ok r =>
      rw [read, decoded] at accepted
      cases accepted
      exact .found shows stored decoded
    | error fault =>
      rw [read, decoded] at accepted
      cases accepted
  | @garbled shows _ bytes _ stored rejected =>
    rw [tells]
    cases decoded : Record.decode bytes with
    | ok r =>
      rw [read, decoded] at rejected
      cases rejected
    | error fault =>
      rw [read, decoded] at rejected
      cases rejected
      exact .rejected shows stored decoded

/-- A lookup that the cache does not answer reaches the database. -/
theorem Feed.databaseLookup {f : Feed} (database : f.store.backing = .database) {times : Readings}
    {id : String} (reached : f.recalled times.asked id = none) :
    DatabaseLookup f.store.rows id (f.fetch times id).answer (f.fetch times id).events := by
  rw [fetch_of_not_recalled reached]
  exact Store.databaseLookup database id

/-! ## Syntheses -/

/-- The second resolution went like the first, over a database. -/
structure Progress.Twins (p q : Progress) : Prop where
  entries : q.entries = p.entries
  failure : q.failure = p.failure
  messages : withoutComplaints q.messages = p.messages
  feeds : p.feed.Twins q.feed

theorem resolveAll_twins (agent : String) (clock : Clock) (candidates : List Candidate)
    {f g : Feed} (twins : f.Twins g) :
    (resolveAll agent clock candidates f).Twins (resolveAll agent clock candidates g) := by
  induction candidates generalizing f g with
  | nil => exact ⟨rfl, rfl, rfl, twins⟩
  | cons candidate rest ih =>
    have answers := twins.answer_fetch (clock.fetching candidate.id) candidate.id
    have told := twins.withoutComplaints_fetch (clock.fetching candidate.id) candidate.id
    have feeds := twins.fetch (clock.fetching candidate.id) candidate.id
    have further := ih feeds
    unfold resolveAll
    dsimp only
    rw [answers]
    cases entryOf candidate (clock.detected candidate.id)
        (f.fetch (clock.fetching candidate.id) candidate.id).answer with
    | error e =>
      refine ⟨rfl, rfl, ?_, feeds⟩
      rw [withoutComplaints_append, told]
      rfl
    | ok entry =>
      refine ⟨congrArg (entry :: ·) further.entries, further.failure, ?_, further.feeds⟩
      rw [withoutComplaints_append, withoutComplaints_append, told, further.messages]
      rfl

/-- The second synthesis went like the first, over a database. -/
structure Outcome.Twins (o p : Outcome) : Prop where
  result : p.result = o.result
  context : p.context = o.context
  messages : withoutComplaints p.messages = o.messages
  notes : p.notes = o.notes
  feeds : o.feed.Twins p.feed

/-- A synthesis over one twin comes to the same as over the other, but for complaints. -/
theorem synthesize_twins (c : Context) {f g : Feed} (twins : f.Twins g) (clock : Clock) :
    (c.synthesize f clock).Twins (c.synthesize g clock) := by
  unfold Context.synthesize
  by_cases vacant : c.elements.isEmpty = true
  · rw [if_pos vacant, if_pos vacant]
    exact ⟨rfl, rfl, rfl, rfl, twins⟩
  · rw [if_neg vacant, if_neg vacant]
    cases itemIdOf c with
    | error e => exact ⟨rfl, rfl, rfl, rfl, twins⟩
    | ok itemId =>
      have resolved := resolveAll_twins c.agent.id clock (candidatesOf c itemId) twins
      dsimp only
      generalize resolveAll c.agent.id clock (candidatesOf c itemId) f = p at resolved
      generalize resolveAll c.agent.id clock (candidatesOf c itemId) g = q at resolved
      obtain ⟨_, _, messages, left⟩ := p
      obtain ⟨entries, refused?, messages', right⟩ := q
      obtain ⟨rfl, rfl, told, feeds⟩ := resolved
      dsimp only at told feeds ⊢
      cases refused? with
      | some refused =>
        refine ⟨rfl, rfl, ?_, rfl, feeds⟩
        rw [withoutComplaints_say_cons, told]
      | none =>
        refine ⟨rfl, rfl, ?_, rfl, feeds⟩
        rw [List.cons_append, withoutComplaints_say_cons, withoutComplaints_append, told]
        rfl

/-! ## Runs -/

/-- The second state is the first with the rows of its store in a database and not in memory. -/
structure State.Twins (s t : State) : Prop where
  context : t.context = s.context
  feeds : s.feed.Twins t.feed

/-- The second step went like the first, over a database. -/
structure Effect.Twins (e d : Effect) : Prop where
  result : d.result = e.result
  messages : withoutComplaints d.messages = e.messages
  states : e.state.Twins d.state

namespace State

/-- The state with the rows of its store in another place. -/
def within (s : State) (backing : Backing) : State := { s with feed := s.feed.within backing }

theorem Twins.of_within (s : State) : (s.within .memory).Twins (s.within .database) :=
  ⟨rfl, .of_within s.feed⟩

variable {s t : State}

/-- A step keeps twins alike. -/
theorem step_twins (twins : s.Twins t) (clock : Clock) (step : Step) :
    (s.step clock step).Twins (t.step clock step) := by
  obtain ⟨context, f⟩ := s
  obtain ⟨_, g⟩ := t
  obtain ⟨same, feeds⟩ := twins
  cases same
  cases step with
  | put id record =>
    simp only [State.step, Store.put]
    cases record.encode with
    | ok bytes => exact ⟨rfl, rfl, rfl, feeds.write id bytes⟩
    | error oversize => exact ⟨rfl, rfl, rfl, feeds⟩
  | putRaw id bytes => exact ⟨rfl, rfl, rfl, feeds.write id bytes⟩
  | purge => exact ⟨rfl, rfl, rfl, feeds.purge clock.sweeping⟩
  | fetch id =>
    refine ⟨?_, feeds.withoutComplaints_fetch _ id, rfl, feeds.fetch _ id⟩
    rw [result_fetch, result_fetch, feeds.answer_fetch]
  | synthesize =>
    have outcomes := synthesize_twins context feeds clock
    refine ⟨?_, outcomes.messages, outcomes.context, outcomes.feeds⟩
    exact congrArg (Except.map Reply.entries) outcomes.result
  | begin | setPayload | add | remove | clear | setCondition | clearConditions =>
    exact ⟨rfl, rfl, rfl, feeds⟩

/-- A run keeps twins alike, step by step. -/
theorem walk_twins (twins : s.Twins t) (steps : List (Clock × Step)) :
    List.Forall₂ Effect.Twins (s.walk steps) (t.walk steps) := by
  induction steps generalizing s t with
  | nil => exact .nil
  | cons timed rest ih =>
    obtain ⟨clock, step⟩ := timed
    have here := step_twins twins clock step
    exact .cons here (ih here.states)

theorem withoutComplaints_messages {effects effects' : List Effect}
    (twins : List.Forall₂ Effect.Twins effects effects') :
    withoutComplaints (effects'.flatMap Effect.messages) = effects.flatMap Effect.messages := by
  induction twins with
  | nil => rfl
  | cons here _ ih =>
    rw [List.flatMap_cons, List.flatMap_cons, withoutComplaints_append, here.messages, ih]

/-- A run over a database goes as it goes over a memory with the same rows, behind any cache and
step by step: it gives the same results, errors included, and leaves the same context, the same rows
and the same cache. What is told differs only in the complaints of the database. Each of its lookups
is told of on its own: one that the cache answers by a hit, and one that reaches the database, which
holds the bytes that were written last, by exactly what came of it. -/
theorem walk_database_as_memory (s : State) (steps : List (Clock × Step)) :
    let memory := s.within .memory
    let database := s.within .database
    List.Forall₂ (fun e d => d.result = e.result ∧ d.state.context = e.state.context ∧
        d.state.feed.cache = e.state.feed.cache ∧
        d.state.feed.store.rows = e.state.feed.store.rows ∧
        d.state.feed.lookups = e.state.feed.lookups ∧
        withoutComplaints d.messages = e.messages)
      (memory.walk steps) (database.walk steps) ∧
    withoutComplaints (database.messages steps) = memory.messages steps ∧
    ∀ before times id rest, database.actions steps = before ++ .fetch times id :: rest →
      let f := database.feed.perform before
      let fetched := f.fetch times id
      (feedEvents (database.messages steps) =
        database.feed.tellings before ++ (fetched.events ++ fetched.feed.tellings rest)) ∧
      ((∃ r, f.recalled times.asked id = some r ∧ fetched.answer = .ok r ∧
          fetched.events = [.hit id] ∧ fetched.feed.lookups = f.lookups) ∨
        f.recalled times.asked id = none ∧ fetched.feed.lookups = f.lookups + 1 ∧
          DatabaseLookup f.store.rows id fetched.answer fetched.events) ∧
      ((∀ bytes, Action.write id bytes ∉ before) →
        f.store.rows.get? id = s.feed.store.rows.get? id) ∧
      ∀ past bytes between, before = past ++ .write id bytes :: between →
        (∀ other, Action.write id other ∉ between) → f.store.rows.get? id = some bytes := by
  have twins := walk_twins (.of_within s) steps
  refine ⟨twins.imp fun e d twin => ?_, withoutComplaints_messages twins, ?_⟩
  · obtain ⟨result, messages, context, feeds⟩ := twin
    rw [feeds.database]
    exact ⟨result, context, rfl, rfl, rfl, messages⟩
  · intro before times id rest split
    dsimp only
    refine ⟨?_, ?_, Feed.row_perform _, fun past bytes between written last => ?_⟩
    · rw [feedEvents_messages, split, Feed.tellings_append]
      rfl
    · cases known : ((s.within .database).feed.perform before).recalled times.asked id with
      | some r =>
        rw [Feed.fetch_of_recalled known]
        exact .inl ⟨r, rfl, rfl, rfl, rfl⟩
      | none =>
        have database : ((s.within .database).feed.perform before).store.backing = .database := by
          rw [Feed.backing_perform]
          rfl
        refine .inr ⟨rfl, ?_, Feed.databaseLookup database known⟩
        rw [Feed.fetch_of_not_recalled known]
    · rw [written]
      exact Feed.row_perform_write _ last

end State

end Findings
