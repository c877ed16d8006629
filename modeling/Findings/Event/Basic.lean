import Findings.Error

/-!
Events: what a synthesis and a feed tell of what they do while they do it. Level, source and target
of an event follow from the event itself.
-/

namespace Findings

/-- How loud an event is. -/
inductive Level where
  | trace
  | debug
  | info
  | warn
  | error
  deriving DecidableEq, Repr, Inhabited

namespace Level

/-- The written name. -/
def name : Level → String
  | trace => "trace"
  | debug => "debug"
  | info => "info"
  | warn => "warn"
  | error => "error"

/-- The name in capitals, as log lines show it. -/
def capitals : Level → String
  | trace => "TRACE"
  | debug => "DEBUG"
  | info => "INFO"
  | warn => "WARN"
  | error => "ERROR"

/-- Every level, the quietest first. -/
def all : List Level := [trace, debug, info, warn, error]

/-- The place of a level among all. -/
def rank : Level → Nat
  | trace => 0
  | debug => 1
  | info => 2
  | warn => 3
  | error => 4

/-- Louder levels come later. -/
def order (a b : Level) : Ordering := compare a.rank b.rank

end Level

/-- Where an event comes from. -/
inductive Domain where
  | scan
  | feed
  deriving DecidableEq, Repr, Inhabited

namespace Domain

/-- The written name. -/
def name : Domain → String
  | scan => "scan"
  | feed => "feed"

/-- The target of log lines. -/
def target : Domain → String
  | scan => "vds::events::scan"
  | feed => "vds::events::feed"

end Domain

/-- What a synthesis tells. Counts are words of 64 bits. -/
inductive ScanEvent where
  | started (agent scanner : String) (candidates : UInt64)
  | emitted (id severity : String)
  | completed (agent : String) (entries : UInt64)
  | failed (agent : String) (id : Option String) (failure : Failure)
  deriving DecidableEq, Repr

/-- What a feed tells. -/
inductive FeedEvent where
  | miss (id : String)
  | hit (id : String)
  | undecodable (id message : String)
  deriving DecidableEq, Repr

/-- An event. -/
inductive Event where
  | scan (event : ScanEvent)
  | feed (event : FeedEvent)
  deriving DecidableEq, Repr

namespace Event

/-- Where the event comes from. -/
def source : Event → Domain
  | scan _ => .scan
  | feed _ => .feed

/-- How loud the event is. -/
def level : Event → Level
  | scan (.failed _ _ _) => .error
  | feed (.miss _) | feed (.undecodable _ _) => .warn
  | scan (.emitted _ _) => .debug
  | feed (.hit _) => .trace
  | scan (.started _ _ _) | scan (.completed _ _) => .info

end Event

/-- An event on its way. -/
structure Message where
  /-- What ties the events of one synthesis together. -/
  correlation : Option String
  event : Event
  deriving DecidableEq, Repr

/-- What becomes of messages: they are received, nobody holds the receiving end, or there is
nothing to send them with. -/
inductive Channel where
  | received
  | dropped
  | absent
  deriving DecidableEq, Repr, Inhabited

/-- The messages that arrive. -/
def Channel.deliver : Channel → List Message → List Message
  | received, messages => messages
  | dropped, _ | absent, _ => []

end Findings
