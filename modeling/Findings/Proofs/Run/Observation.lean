import Findings.Proofs.Command.Caching
import Findings.Proofs.Run.Later
import Findings.Wired

/-!
Telling changes nothing. Components that tell what they do come to the same as components that are
silent, and what arrives of their messages is what their channels deliver
(`State.walkWired_tells`). So two runs of the same steps go alike however their components are
wired, but for the times at which entries were built (`State.walk_tells_only`).
-/

namespace Findings

open Synthesis

/-! ## What arrives -/

namespace Wiring

variable (w : Wiring)

/-- The channel a message is sent with: that of the component which tells such things. -/
def channelOf (message : Message) : Channel :=
  match message.event with
  | .scan _ => w.synthesis
  | .feed (.hit _) => w.cache
  | .feed (.miss _) | .feed (.undecodable _ _) => w.store

/-- The messages that arrive are those of components whose channel is received. -/
def deliver (messages : List Message) : List Message :=
  messages.filter fun message => w.channelOf message = .received

theorem deliver_append (front back : List Message) :
    w.deliver (front ++ back) = w.deliver front ++ w.deliver back := List.filter_append front back

theorem deliver_singleton (message : Message) :
    w.deliver [message] = (w.channelOf message).deliver [message] := by
  unfold deliver
  rw [List.filter_singleton]
  cases w.channelOf message <;> rfl

theorem deliver_of_silent {w : Wiring} (store : w.store ≠ .received) (cache : w.cache ≠ .received)
    (synthesis : w.synthesis ≠ .received) (messages : List Message) : w.deliver messages = [] := by
  apply List.filter_eq_nil_iff.mpr
  intro message _
  unfold channelOf
  split <;> simp [store, cache, synthesis]

theorem deliver_of_heard (messages : List Message) :
    Wiring.deliver ⟨.received, .received, .received⟩ messages = messages := by
  apply List.filter_eq_self.mpr
  intro message _
  unfold channelOf
  split <;> simp

end Wiring

/-! ## Sending -/

/-- A message arrives if its channel delivers it, and nothing else comes of it. -/
theorem Channel.emit_eq (channel : Channel) (message : Message) (arrived : List Message) :
    channel.emit message arrived = ((), arrived ++ channel.deliver [message]) := by
  cases channel with
  | received => rfl
  | dropped => exact congrArg (Prod.mk ()) (List.append_nil arrived).symm
  | absent => exact congrArg (Prod.mk ()) (List.append_nil arrived).symm

/-- Something comes to a value, and of the messages that are told meanwhile those arrive that the
channels deliver. -/
def Tells {α : Type} (w : Wiring) (x : Sending α) (a : α) (messages : List Message) : Prop :=
  ∀ arrived, x arrived = (a, arrived ++ w.deliver messages)

namespace Tells

variable {α β : Type} {w : Wiring} {x : Sending α} {f : α → Sending β} {a : α} {b : β}
  {messages further : List Message}

theorem pure (a : α) : Tells w (Pure.pure a) a [] := by
  intro arrived
  exact congrArg (Prod.mk a) (List.append_nil arrived).symm

theorem bind (first : Tells w x a messages) (second : Tells w (f a) b further) :
    Tells w (x >>= f) b (messages ++ further) := by
  intro arrived
  change f (x arrived).1 (x arrived).2 = _
  rw [first arrived, second, w.deliver_append, List.append_assoc]

/-- What is done last may be silent. -/
theorem bind_pure (first : Tells w x a messages) (last : f a = Pure.pure b) :
    Tells w (x >>= f) b messages := by
  have both := first.bind (f := f) (last ▸ pure b)
  rwa [List.append_nil] at both

theorem emit (message : Message) : Tells w ((w.channelOf message).emit message) () [message] := by
  intro arrived
  rw [Channel.emit_eq, w.deliver_singleton]

end Tells

/-! ## Components -/

variable {w : Wiring}

theorem Store.fetchWired_tells (s : Store) (id : String) :
    Tells w (s.fetchWired w.store id) (s.fetch id).1 ((s.fetch id).2.map pass) := by
  unfold fetchWired fetch
  cases s.backing with
  | memory => exact .pure _
  | database =>
    unfold fetchDatabase
    cases checkIdentifier id with
    | error e => exact .pure _
    | ok _ =>
      cases s.rows.get? id with
      | none => exact (Tells.emit (pass (.miss id))).bind_pure rfl
      | some bytes =>
        dsimp only
        cases read id bytes with
        | ok r => exact .pure _
        | error e => exact (Tells.emit (pass (.undecodable id e.message))).bind_pure rfl
  | faulty fault =>
    cases checkIdentifier id with
    | error e => exact .pure _
    | ok _ => exact .pure _

theorem Feed.fetchStoredWired_tells (f : Feed) (id : String) :
    Tells w (f.fetchStoredWired w id) ((f.fetchStored id).answer, (f.fetchStored id).feed)
      ((f.fetchStored id).events.map pass) :=
  (f.store.fetchWired_tells id).bind_pure rfl

/-- A hit is told before the description is handed on, and what the store tells before anything is
remembered. -/
theorem Feed.fetchWired_tells (f : Feed) (times : Readings) (id : String) :
    Tells w (f.fetchWired w times id) ((f.fetch times id).answer, (f.fetch times id).feed)
      ((f.fetch times id).events.map pass) := by
  unfold fetchWired fetch
  cases f.cache with
  | none => exact f.fetchStoredWired_tells id
  | some cache =>
    dsimp only
    rcases cache.lookUp times.asked id with ⟨_ | r, cache⟩
    · have stored := Feed.fetchStoredWired_tells (w := w) { f with cache := some cache } id
      dsimp only
      generalize Feed.fetchStored { f with cache := some cache } id = fetched at stored ⊢
      obtain ⟨answer, events, feed⟩ := fetched
      cases answer with
      | error e => exact stored.bind_pure rfl
      | ok r => exact stored.bind_pure rfl
    · exact (Tells.emit (pass (.hit id))).bind_pure rfl

/-- What a resolution comes to. -/
def Progress.result (p : Progress) : Except Error (List Entry) :=
  match p.failure with
  | some (_, e) => .error e
  | none => .ok p.entries

theorem Synthesis.resolveAllWired_tells (agent : String) (clock : Clock)
    (candidates : List Candidate) (f : Feed) :
    let progress := resolveAll agent clock candidates f
    Tells w (resolveAllWired agent w clock candidates f) (progress.result, progress.feed)
      progress.messages := by
  induction candidates generalizing f with
  | nil => exact .pure _
  | cons candidate rest ih =>
    have fetched := Feed.fetchWired_tells (w := w) f (clock.fetching candidate.id) candidate.id
    unfold resolveAllWired resolveAll
    dsimp only
    generalize f.fetch (clock.fetching candidate.id) candidate.id = answered at fetched ⊢
    cases built : entryOf candidate (clock.detected candidate.id) answered.answer with
    | error e =>
      refine fetched.bind ?_
      dsimp only
      rw [built]
      exact (Tells.emit (say agent (.failed agent (some candidate.id) (.ofError e)))).bind_pure rfl
    | ok entry =>
      have told := Tells.emit (w := w) (say agent (.emitted candidate.id entry.severity))
      have further := ih answered.feed
      dsimp only at further ⊢
      rw [List.append_assoc]
      refine fetched.bind ?_
      dsimp only
      rw [built]
      refine told.bind (further.bind_pure ?_)
      unfold Progress.result
      dsimp only
      cases (resolveAll agent clock rest answered.feed).failure with
      | none => rfl
      | some refused => rfl

/-- Nothing is told after the results have changed but that they have. -/
theorem Context.synthesizeWired_tells (c : Context) (f : Feed) (clock : Clock) :
    let outcome := c.synthesize f clock
    Tells w (c.synthesizeWired w f clock) (outcome.result, outcome.context, outcome.feed)
      outcome.messages := by
  unfold synthesizeWired synthesize
  by_cases vacant : c.elements.isEmpty = true
  · rw [if_pos vacant, if_pos vacant]
    exact .pure _
  · rw [if_neg vacant, if_neg vacant]
    have started := Tells.emit (w := w) (say c.agent.id
      (.started c.agent.id c.scanner.name (UInt64.ofNat c.elements.size)))
    dsimp only
    cases itemIdOf c with
    | error e =>
      have failed := Tells.emit (w := w) (say c.agent.id (.failed c.agent.id none (.ofError e)))
      exact started.bind (failed.bind_pure rfl)
    | ok itemId =>
      have resolved := resolveAllWired_tells (w := w) c.agent.id clock (candidatesOf c itemId) f
      dsimp only at resolved ⊢
      generalize resolveAll c.agent.id clock (candidatesOf c itemId) f = progress at resolved ⊢
      obtain ⟨entries, failure, messages, feed⟩ := progress
      cases failure with
      | some refused => exact started.bind (resolved.bind_pure rfl)
      | none =>
        have completed := Tells.emit (w := w) (say c.agent.id
          (.completed c.agent.id (UInt64.ofNat entries.length)))
        exact started.bind (resolved.bind (completed.bind_pure rfl))

/-! ## Runs -/

/-- What a step came to. -/
def Effect.taken (e : Effect) : Taken := ⟨e.result, e.state⟩

namespace State

theorem stepWired_tells (s : State) (clock : Clock) (step : Step) :
    Tells w (s.stepWired w clock step) (s.step clock step).taken (s.step clock step).messages := by
  cases step with
  | fetch id =>
    have fetched := Feed.fetchWired_tells (w := w) s.feed (clock.fetching id) id
    unfold stepWired State.step
    dsimp only
    generalize s.feed.fetch (clock.fetching id) id = answered at fetched ⊢
    obtain ⟨answer, events, feed⟩ := answered
    cases answer with
    | error e => exact fetched.bind_pure rfl
    | ok record => exact fetched.bind_pure rfl
  | synthesize => exact (s.context.synthesizeWired_tells s.feed clock).bind_pure rfl
  | put id record =>
    have silent : (s.step clock (.put id record)).messages = [] := by
      simp only [State.step]
      cases s.feed.store.put id record <;> rfl
    rw [silent]
    exact .pure _
  | _ => exact .pure _

/-- A run of wired components is the run of silent ones, and what arrives is what their channels
deliver. -/
theorem walkWired_tells (s : State) (steps : List (Clock × Step)) :
    Tells w (s.walkWired w steps) ((s.walk steps).map Effect.taken)
      ((s.walk steps).flatMap Effect.messages) := by
  induction steps generalizing s with
  | nil => exact .pure _
  | cons timed rest ih =>
    obtain ⟨clock, step⟩ := timed
    have first := stepWired_tells (w := w) s clock step
    have further := ih (s.step clock step).state
    rw [walk, List.map_cons, List.flatMap_cons]
    exact first.bind (further.bind_pure rfl)

end State

/-! ## Observation -/

/-- Steps that came to the same, but for the times at which entries were built and at which
descriptions were cached. -/
structure Taken.SameButTimes (t u : Taken) : Prop where
  result : t.result.map Reply.undated = u.result.map Reply.undated
  context : t.state.context.undated = u.state.context.undated
  store : t.state.feed.store = u.state.feed.store
  cached : t.state.feed.cachedIds = u.state.feed.cachedIds

theorem Feed.cachedIds_later (span : Nat) (f : Feed) : (f.later span).cachedIds = f.cachedIds := by
  obtain ⟨store, cache, lookups⟩ := f
  cases cache with
  | none => rfl
  | some cache => exact Keyed.keys_map (Cached.later span) cache.entries

theorem Effect.sameButTimes {e d : Effect} {span span' : Nat}
    (same : e.later span = d.later span') :
    e.taken.SameButTimes d.taken := by
  have states : e.state.later span = d.state.later span' := congrArg Effect.state same
  have feeds : e.state.feed.later span = d.state.feed.later span' := congrArg State.feed states
  have store : (e.state.feed.later span).store = (d.state.feed.later span').store :=
    congrArg Feed.store feeds
  have cached := congrArg Feed.cachedIds feeds
  rw [Feed.cachedIds_later, Feed.cachedIds_later] at cached
  exact ⟨congrArg Effect.result same, congrArg State.context states, store, cached⟩

namespace State

/-- Runs that would be the same if the one had been taken later, and the other too, came to the
same but for times. -/
theorem walk_sameButTimes {s t : State} {steps steps' : List (Clock × Step)} {span span' : Nat}
    (begun : s.later span = t.later span')
    (taken : laterSteps span steps = laterSteps span' steps') :
    List.Forall₂ Taken.SameButTimes ((s.walk steps).map Effect.taken)
      ((t.walk steps').map Effect.taken) := by
  have walked : (s.walk steps).map (Effect.later span) =
      (t.walk steps').map (Effect.later span') := by
    rw [← walk_later, ← walk_later, begun, taken]
  have equal : List.Forall₂ Eq ((s.walk steps).map (Effect.later span))
      ((t.walk steps').map (Effect.later span')) := by
    rw [List.forall₂_eq_eq_eq]
    exact walked
  apply List.forall₂_map_left_iff.mpr
  apply List.forall₂_map_right_iff.mpr
  exact (List.forall₂_map_right_iff.mp (List.forall₂_map_left_iff.mp equal)).imp
    fun _ _ => Effect.sameButTimes

/-- Events are observation only. However the store, the cache and the synthesis are wired, with a
channel that is received, with one that nobody receives any more, or with none, the same steps come
to the same results and states; two runs that are taken at different times, with the same spans
between their steps, differ in these times only. What arrives are the messages of the components
whose channels are received, each of them and in their order, and nothing where no channel is. -/
theorem walk_tells_only {s t : State} {steps steps' : List (Clock × Step)} {span span' : Nat}
    (begun : s.later span = t.later span')
    (taken : laterSteps span steps = laterSteps span' steps') (w w' : Wiring)
    (arrived arrived' : List Message) :
    let one := s.walkWired w steps arrived
    let other := t.walkWired w' steps' arrived'
    let told := (s.walk steps).flatMap Effect.messages
    List.Forall₂ Taken.SameButTimes one.1 other.1 ∧
    (s = t → steps = steps' → one.1 = other.1) ∧
    one.2 = arrived ++ told.filter (fun message => w.channelOf message = .received) ∧
    (w = ⟨.received, .received, .received⟩ → one.2 = arrived ++ told) ∧
    (w.store ≠ .received → w.cache ≠ .received → w.synthesis ≠ .received → one.2 = arrived) := by
  intro one other told
  have ran : one = ((s.walk steps).map Effect.taken, arrived ++ w.deliver told) :=
    s.walkWired_tells steps arrived
  have ran' : other.1 = (t.walk steps').map Effect.taken :=
    congrArg Prod.fst (t.walkWired_tells steps' arrived')
  rw [ran, ran']
  refine ⟨walk_sameButTimes begun taken, ?_, rfl, ?_, ?_⟩
  · intro start equal
    rw [start, equal]
  · intro heard
    rw [heard, Wiring.deliver_of_heard]
  · intro store cache synthesis
    rw [Wiring.deliver_of_silent store cache synthesis, List.append_nil]

/-- In the first run only the store is heard, in the second, five nanoseconds later, only the other
components are. -/
theorem walk_tells_only_repeated :
    let s := stocked.behind (some (.span 3))
    let steps := repeated "early"
    let one := s.walkWired ⟨.received, .dropped, .absent⟩ steps []
    let other := s.walkWired ⟨.absent, .received, .received⟩ (laterSteps 5 steps) []
    s.later 5 = s.later 0 ∧ laterSteps 5 steps = laterSteps 0 (laterSteps 5 steps) ∧
      List.Forall₂ Taken.SameButTimes one.1 other.1 ∧
      one.2.map Message.event = [.feed (.miss "CVE-2")] := by
  intro s steps one other
  have begun : s.later 5 = s.later 0 := rfl
  have taken : laterSteps 5 steps = laterSteps 0 (laterSteps 5 steps) := rfl
  have alike := walk_tells_only begun taken ⟨.received, .dropped, .absent⟩
    ⟨.absent, .received, .received⟩ [] []
  refine ⟨begun, taken, alike.1, ?_⟩
  decide +kernel

end State

end Findings
