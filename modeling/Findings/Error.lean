import Findings.Record.Layout
import Findings.Text.Quoted

/-!
What can go wrong, by cause. Each cause has a sentence, a stable code, at most one hint, and says
whether the same attempt may succeed later.
-/

namespace Findings

/-- Faults of a scan. -/
inductive ScanError where
  | invalidPayload (message : String)
  | unknownScanner (name : String)
  | malformedRecord (id field : String)
  | invalidCondition (id operator : String)
  deriving DecidableEq, Repr

/-- Faults of a feed. -/
inductive FeedError where
  | notFound (id : String)
  | undecodable (id message : String)
  | unencodable (message : String)
  | unsupported (revision : Record.Revision)
  | invalidIdentifier (id : String)
  | database (message : String)
  deriving DecidableEq, Repr

/-- Faults of a configuration. -/
inductive ConfigError where
  | notFound (path : String)
  | unparsable (message : String)
  | missing (field : String)
  | invalid (field value : String)
  deriving DecidableEq, Repr

/-- Whatever can go wrong. -/
inductive Error where
  | scan (error : ScanError)
  | feed (error : FeedError)
  | config (error : ConfigError)
  | internal (message : String)
  | io (message : String) (path : Option String)
  deriving DecidableEq, Repr

/-! ## Scans -/

namespace ScanError

/-- The sentence. -/
def message : ScanError → String
  | invalidPayload message => "invalid subject payload: " ++ message
  | unknownScanner name => "invalid scanner type: " ++ name
  | malformedRecord id field =>
    "malformed record for " ++ id ++ ": missing or invalid " ++ field
  | invalidCondition id operator => "invalid match condition for " ++ id ++ ": " ++ operator

/-- What to do about it. -/
def hint : ScanError → Option String
  | invalidPayload _ =>
    some "Package scans require a non-empty item_id in the inventory payload."
  | malformedRecord _ _ =>
    some "The vulnerability feed entry is incomplete; refresh the feed store."
  | invalidCondition _ _ =>
    some "The upstream matcher produced an unknown condition for this candidate."
  | unknownScanner _ => none

/-- The stable code. -/
def code : ScanError → String
  | invalidPayload _ => "scan.invalid_subject_payload"
  | unknownScanner _ => "scan.invalid_scanner_type"
  | malformedRecord _ _ => "scan.malformed_record"
  | invalidCondition _ _ => "scan.invalid_match_condition"

end ScanError

/-! ## Feeds -/

/-- The sentence for bytes that are no description; an unsupported revision is a cause of its own
and has its sentence there. -/
def Record.Fault.message : Record.Fault → String
  | headerTooShort => "header too short"
  | badMagic => "invalid magic bytes"
  | unsupported revision => s!"unsupported revision {revision.major}.{revision.minor}"
  | endOfRecord offset => s!"unexpected end of record at offset {offset}"
  | invalidText offset fault => s!"invalid UTF-8 at offset {offset}: " ++ fault.message
  | trailing count => s!"{count} trailing bytes"

namespace FeedError

/-- The error of a stored description that cannot be read. -/
def ofFault (id : String) : Record.Fault → FeedError
  | .unsupported revision => unsupported revision
  | fault => undecodable id fault.message

/-- The sentence. -/
def message : FeedError → String
  | notFound id => "no feed record for " ++ id
  | undecodable id message => "failed to decode feed record for " ++ id ++ ": " ++ message
  | unencodable message => "failed to encode feed record: " ++ message
  | unsupported revision =>
    s!"unsupported feed record schema {revision.major}.{revision.minor}"
  | invalidIdentifier id => "invalid vulnerability identifier: " ++ Text.quote id
  | database message => "feed database error: " ++ message

/-- What to do about it. -/
def hint : FeedError → Option String
  | notFound _ => some "The feed store may be out of date; update it and rescan."
  | undecodable _ _ | unsupported _ =>
    some "The feed store was written by an incompatible version; rebuild it."
  | database _ => some "Check that the feed database path is readable."
  | invalidIdentifier _ | unencodable _ => none

/-- The same attempt may succeed later. -/
def retryable : FeedError → Bool
  | database _ => true
  | _ => false

/-- The stable code. -/
def code : FeedError → String
  | notFound _ => "feed.record_not_found"
  | undecodable _ _ => "feed.decode_error"
  | unencodable _ => "feed.encode_error"
  | unsupported _ => "feed.unsupported_schema"
  | invalidIdentifier _ => "feed.invalid_identifier"
  | database _ => "feed.database"

end FeedError

/-! ## Configurations -/

namespace ConfigError

/-- The sentence. -/
def message : ConfigError → String
  | notFound path => "config file not found: " ++ path
  | unparsable message => "parse error: " ++ message
  | missing field => "missing required field: " ++ field
  | invalid field value => "invalid value for " ++ field ++ ": " ++ value

/-- What to do about it. -/
def hint : ConfigError → Option String
  | notFound _ => some "Pass --config with an existing file or omit it."
  | missing "feed.database_path" =>
    some "Set feed.database_path in the config file, VDS_FEED_PATH, or --feed."
  | missing _ => some "Add the missing configuration field noted in the error message."
  | invalid _ _ | unparsable _ => some "Fix the configuration value and retry the command."

/-- The stable code. -/
def code : ConfigError → String
  | notFound _ => "config.not_found"
  | unparsable _ => "config.parse"
  | missing _ => "config.missing_field"
  | invalid _ _ => "config.invalid_value"

end ConfigError

/-! ## All of them -/

namespace Error

/-- The sentence with the part of the program it comes from. -/
def message : Error → String
  | scan error => "scan error: " ++ error.message
  | feed error => "feed error: " ++ error.message
  | config error => "config error: " ++ error.message
  | internal message => "internal error: " ++ message
  | io message _ => "I/O error: " ++ message

/-- The sentence for the user. -/
def userMessage : Error → String
  | scan error => error.message
  | feed error => error.message
  | config error => error.message
  | io message _ => message
  | internal message => "internal error: " ++ message

/-- What to do about it. -/
def hint : Error → Option String
  | scan error => error.hint
  | feed error => error.hint
  | config error => error.hint
  | internal _ | io _ _ => none

/-- The same attempt may succeed later. -/
def retryable : Error → Bool
  | feed error => error.retryable
  | io _ _ => true
  | scan _ | config _ | internal _ => false

/-- The stable code. -/
def code : Error → String
  | scan error => error.code
  | feed error => error.code
  | config error => error.code
  | internal _ => "error.internal"
  | io _ _ => "error.io"

/-- The report on the command line: the sentence, then the code, the hint and a word on trying
again, a line each. -/
def report (e : Error) : String :=
  let hint := match e.hint with
    | some hint => "\n  Hint: " ++ hint
    | none => ""
  let again := if e.retryable then "\n  Retry: safe to retry this operation." else ""
  e.userMessage ++ "\n  Code: " ++ e.code ++ hint ++ again

end Error

/-! ## Errors of what lies beneath -/

/-- Why a database does not answer. -/
inductive DatabaseFault where
  | noRow
  | protocol (message : String)
  /-- The database refuses, with a code of its own. -/
  | refused (code : Nat) (message : String)
  deriving DecidableEq, Repr

/-- The sentence. -/
def DatabaseFault.message : DatabaseFault → String
  | noRow => "no rows returned by a query that expected to return at least one row"
  | protocol message => "encountered unexpected or invalid data: " ++ message
  | refused code message => s!"error returned from database: (code: {code}) {message}"

namespace DatabaseFault

/-- The database has no table of descriptions. -/
def noTable : DatabaseFault := refused 1 "no such table: descriptions"

/-- The file holds something else. -/
def notADatabase : DatabaseFault := refused 26 "file is not a database"

/-- The file begins like a database but is none throughout. -/
def damaged : DatabaseFault := refused 11 "database disk image is malformed"

/-- The file is a database of a later format. -/
def later : DatabaseFault := refused 1 "unsupported file format"

/-- The path leads to a directory. -/
def unreadable : DatabaseFault := refused 266 "disk I/O error"

end DatabaseFault

/-- The error of a database that does not answer. -/
def Error.ofDatabase (fault : DatabaseFault) : Error := .feed (.database fault.message)

/-- The error of a text that is not JSON. -/
def Error.ofJson (complaint : String) : Error := .internal ("JSON error: " ++ complaint)

/-- What an event tells of a failure. -/
structure Failure where
  code : Option String
  message : String
  hint : Option String
  retryable : Bool
  deriving DecidableEq, Repr

/-- What an event tells of an error. -/
def Failure.ofError (error : Error) : Failure :=
  ⟨some error.code, error.userMessage, error.hint, error.retryable⟩

end Findings
