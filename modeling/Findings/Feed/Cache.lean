import Findings.Keyed
import Findings.Record.Basic

/-!
Caches of fetched descriptions. An entry lives for as long as its cache lets it, and one whose life
is over is still held until it is asked for or swept out. Sweeps run by hand and after every 128th
entry that is made. Times are read from a clock of nanoseconds.
-/

namespace Findings

/-- How long the entries of a cache live. -/
inductive Lifetime where
  | endless
  | span (nanoseconds : Nat)
  deriving DecidableEq, Repr, Inhabited

namespace Lifetime

/-- No entry lives at all. -/
def zero : Lifetime := .span 0

/-- A life of some seconds. -/
def ofSeconds (count : UInt64) : Lifetime := .span (count.toNat * 1000000000)

end Lifetime

/-- A description in a cache. -/
structure Cached where
  record : Record
  madeAt : Nat
  deriving DecidableEq, Repr, Inhabited

/-- The life of an entry is not over yet. -/
def Cached.isAlive (entry : Cached) (lifetime : Lifetime) (now : Nat) : Bool :=
  match lifetime with
  | .endless => true
  | .span nanoseconds => now - entry.madeAt < nanoseconds

/-- What a fetch reads from the clock. -/
structure Readings where
  /-- When the entry is looked up. -/
  asked : Nat
  /-- When an entry is made. -/
  made : Nat
  /-- When a sweep comes to the entry of an identifier. -/
  swept : String → Nat

/-- A cache. -/
structure Cache where
  lifetime : Lifetime
  entries : Keyed Cached := ∅
  /-- How many entries were made so far, modulo the size of a word. -/
  made : UInt64 := 0

namespace Cache

/-- A sweep follows every entry whose number is a multiple of this. -/
def sweepInterval : UInt64 := 128

/-- Drops the entries whose life is over when the sweep comes to them. -/
def purge (c : Cache) (now : String → Nat) : Cache :=
  { c with entries := c.entries.filter fun id entry => entry.isAlive c.lifetime (now id) }

/-- Looks an entry up; one whose life is over is dropped. -/
def lookUp (c : Cache) (now : Nat) (id : String) : Option Record × Cache :=
  match c.entries.get? id with
  | some entry =>
    if entry.isAlive c.lifetime now then (some entry.record, c)
    else (none, { c with entries := c.entries.erase id })
  | none => (none, c)

/-- Makes an entry. -/
def remember (c : Cache) (times : Readings) (id : String) (r : Record) : Cache :=
  let next :=
    { c with entries := c.entries.insert id ⟨r, times.made⟩, made := c.made + 1 }
  if c.made % sweepInterval = sweepInterval - 1 then next.purge times.swept else next

end Cache

end Findings
