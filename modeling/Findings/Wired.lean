import Findings.Run

/-!
Components that tell what they do while they do it. The store, the cache and the synthesis each have
a channel of their own, or none, and send every message the moment there is something to tell, in
the middle of an operation that goes on afterwards. Sending fails where the receiver is gone.
-/

namespace Findings

/-! ## Sending -/

/-- The sending end of a channel. -/
structure Sender where
  /-- Somebody holds the receiving end. -/
  heard : Bool
  deriving DecidableEq, Repr

/-- The sending end a component has, if it has one. -/
def Channel.sender : Channel → Option Sender
  | received => some ⟨true⟩
  | dropped => some ⟨false⟩
  | absent => none

/-- What is done while messages arrive one behind the other. -/
abbrev Sending := StateM (List Message)

/-- Sends a message; one that cannot arrive comes back. -/
def Sender.send (sender : Sender) (message : Message) : Sending (Except Message Unit) := do
  if sender.heard then
    modify fun arrived => arrived ++ [message]
    return .ok ()
  else return .error message

/-- Tells something, and goes on whatever becomes of it. -/
def Channel.emit (channel : Channel) (message : Message) : Sending Unit := do
  if let some sender := channel.sender then
    let _ ← sender.send message

/-- The channels of the components. A store in memory tells nothing, whatever it is given. -/
structure Wiring where
  store : Channel
  cache : Channel
  synthesis : Channel
  deriving DecidableEq, Repr

/-! ## Feeds -/

/-- Fetches a description from a store. -/
def Store.fetchWired (s : Store) (channel : Channel) (id : String) :
    Sending (Except FeedError Record) := do
  match s.backing with
  | .memory => return s.fetchMemory id
  | .database =>
    match checkIdentifier id with
    | .error e => return .error e
    | .ok () =>
      match s.rows.get? id with
      | none =>
        channel.emit (Synthesis.pass (.miss id))
        return .error (.notFound id)
      | some bytes =>
        match read id bytes with
        | .ok r => return .ok r
        | .error e =>
          channel.emit (Synthesis.pass (.undecodable id e.message))
          return .error e
  | .faulty fault =>
    match checkIdentifier id with
    | .error e => return .error e
    | .ok () => return .error (.database fault.message)

namespace Feed

/-- Fetches a description from the store of a feed. -/
def fetchStoredWired (f : Feed) (w : Wiring) (id : String) :
    Sending (Except FeedError Record × Feed) := do
  let answer ← f.store.fetchWired w.store id
  return (answer, { f with lookups := f.lookups + 1 })

/-- Fetches a description. -/
def fetchWired (f : Feed) (w : Wiring) (times : Readings) (id : String) :
    Sending (Except FeedError Record × Feed) := do
  match f.cache with
  | none => f.fetchStoredWired w id
  | some cache =>
    match cache.lookUp times.asked id with
    | (some r, cache) =>
      w.cache.emit (Synthesis.pass (.hit id))
      return (.ok r, { f with cache := some cache })
    | (none, cache) =>
      let (answer, feed) ← { f with cache := some cache }.fetchStoredWired w id
      match answer with
      | .error e => return (.error e, feed)
      | .ok r => return (.ok r, { feed with cache := some (cache.remember times id r) })

end Feed

/-! ## Synthesis -/

namespace Synthesis

/-- Resolves candidates up to the first that cannot be resolved. -/
def resolveAllWired (agent : String) (w : Wiring) (clock : Clock) :
    List Candidate → Feed → Sending (Except Error (List Entry) × Feed)
  | [], feed => return (.ok [], feed)
  | candidate :: rest, feed => do
    let (answer, feed) ← feed.fetchWired w (clock.fetching candidate.id) candidate.id
    match entryOf candidate (clock.detected candidate.id) answer with
    | .error e =>
      w.synthesis.emit (say agent (.failed agent (some candidate.id) (.ofError e)))
      return (.error e, feed)
    | .ok entry =>
      w.synthesis.emit (say agent (.emitted candidate.id entry.severity))
      let (further, feed) ← resolveAllWired agent w clock rest feed
      return (further.map (entry :: ·), feed)

end Synthesis

open Synthesis in
/-- Reports the candidates of a context. -/
def Context.synthesizeWired (c : Context) (w : Wiring) (feed : Feed) (clock : Clock) :
    Sending (Except Error (List Entry) × Context × Feed) := do
  if c.elements.isEmpty then return (.ok [], c, feed)
  let agent := c.agent.id
  w.synthesis.emit
    (say agent (.started agent c.scanner.name (UInt64.ofNat c.elements.size)))
  match itemIdOf c with
  | .error e =>
    w.synthesis.emit (say agent (.failed agent none (.ofError e)))
    return (.error e, c, feed)
  | .ok itemId =>
    let (resolved, feed) ← resolveAllWired agent w clock (candidatesOf c itemId) feed
    match resolved with
    | .error e => return (.error e, c, feed)
    | .ok entries =>
      let extended := { c with results := c.results ++ entries }
      w.synthesis.emit (say agent (.completed agent (UInt64.ofNat entries.length)))
      return (.ok entries, extended, feed)

/-! ## Runs -/

/-- What a step comes to, whatever is told of it. -/
structure Taken where
  result : Except Error Reply
  state : State

namespace State

/-- Takes a step. -/
def stepWired (s : State) (w : Wiring) (clock : Clock) : Step → Sending Taken
  | .fetch id => do
    let (answer, feed) ← s.feed.fetchWired w (clock.fetching id) id
    match answer with
    | .ok record => return ⟨.ok (.record record), { s with feed }⟩
    | .error e => return ⟨.error (.feed e), { s with feed }⟩
  | .synthesize => do
    let (result, context, feed) ← s.context.synthesizeWired w s.feed clock
    return ⟨result.map Reply.entries, { context, feed }⟩
  | step =>
    let effect := s.step clock step
    return ⟨effect.result, effect.state⟩

/-- Takes steps one after the other, each by a clock of its own. -/
def walkWired (s : State) (w : Wiring) : List (Clock × Step) → Sending (List Taken)
  | [] => return []
  | (clock, step) :: rest => do
    let taken ← s.stepWired w clock step
    let further ← taken.state.walkWired w rest
    return taken :: further

end State

end Findings
