import Findings.Error
import Findings.Event.Basic
import Findings.Keyed
import Findings.Text.Blank

/-!
Stores of descriptions. A store holds the bytes that were written last under each identifier, and
reads them when a description is fetched. A store in memory is silent; a database tells of
identifiers it does not have and of bytes that it cannot read.
-/

namespace Findings

/-- Where a store keeps its bytes. -/
inductive Backing where
  | memory
  | database
  /-- A database that answers every question with the same fault. -/
  | faulty (fault : DatabaseFault)
  deriving DecidableEq, Repr, Inhabited

/-- A store of descriptions. -/
structure Store where
  backing : Backing
  /-- The bytes written last under each identifier. -/
  rows : Keyed (List UInt8) := ∅

namespace Store

/-- Writes bytes as they are. -/
def putRaw (s : Store) (id : String) (bytes : List UInt8) : Store :=
  { s with rows := s.rows.insert id bytes }

/-- Writes a description. -/
def put (s : Store) (id : String) (r : Record) : Except FeedError Store :=
  match r.encode with
  | .ok bytes => .ok (s.putRaw id bytes)
  | .error oversize => .error (.unencodable oversize.message)

/-- Writes descriptions one after the other. -/
def putAll (s : Store) : List (String × Record) → Except FeedError Store
  | [] => .ok s
  | (id, r) :: rest => do
    let next ← s.put id r
    next.putAll rest

/-- An identifier has to show. -/
def checkIdentifier (id : String) : Except FeedError Unit :=
  if Text.isBlankText id then .error (.invalidIdentifier id) else .ok ()

/-- Reads the bytes stored under an identifier. -/
def read (id : String) (bytes : List UInt8) : Except FeedError Record :=
  match Record.decode bytes with
  | .ok r => .ok r
  | .error fault => .error (.ofFault id fault)

/-- Fetches from memory. -/
def fetchMemory (s : Store) (id : String) : Except FeedError Record := do
  checkIdentifier id
  match s.rows.get? id with
  | some bytes => read id bytes
  | none => throw (.notFound id)

/-- Fetches from a database, with the events it tells. -/
def fetchDatabase (s : Store) (id : String) : Except FeedError Record × List FeedEvent :=
  match checkIdentifier id with
  | .error e => (.error e, [])
  | .ok () =>
    match s.rows.get? id with
    | none => (.error (.notFound id), [.miss id])
    | some bytes =>
      match read id bytes with
      | .ok r => (.ok r, [])
      | .error e => (.error e, [.undecodable id e.message])

/-- Fetches a description, with the events that tell of it. -/
def fetch (s : Store) (id : String) : Except FeedError Record × List FeedEvent :=
  match s.backing with
  | .memory => (s.fetchMemory id, [])
  | .database => s.fetchDatabase id
  | .faulty fault =>
    match checkIdentifier id with
    | .error e => (.error e, [])
    | .ok () => (.error (.database fault.message), [])

end Store

end Findings
