import Findings.Proofs.Command.Stages
import Findings.Proofs.Feed.Actions

/-!
What is shown of a stage that fails. Each stage has faults of its own, and each of them is shown in
words of its own: a sentence, and behind it, for most of them, a code, a hint and a word on trying
again, a line each (`Fails.exists_shown`).
-/

namespace Findings

open Synthesis

/-! ## Lines -/

/-- The lines of the report of an error. -/
def Error.lines (e : Error) : List String :=
  [e.userMessage, "  Code: " ++ e.code] ++ (e.hint.map ("  Hint: " ++ ·)).toList ++
    if e.retryable then ["  Retry: safe to retry this operation."] else []

theorem Error.report_eq_intercalate (e : Error) : e.report = "\n".intercalate e.lines := by
  have code (rest : String) : "\n" ++ ("  Code: " ++ rest) = "\n  Code: " ++ rest :=
    (String.append_assoc ..).symm
  have hint (rest : String) : "\n" ++ ("  Hint: " ++ rest) = "\n  Hint: " ++ rest :=
    (String.append_assoc ..).symm
  unfold report lines
  cases e.hint <;> cases e.retryable <;>
    simp [String.intercalate_cons_cons, code, hint, String.append_assoc]

/-- The fields that a description may have to be refused for. -/
def Record.demanded : List String :=
  ["classification", "description", "reference", "date_published", "score_version", "severity",
    "score_base"]

theorem Record.faultyField_mem_demanded {r : Record} {field : String}
    (faulty : r.faultyField = some field) : field ∈ demanded := by
  obtain ⟨demand, found, rfl⟩ := Option.map_eq_some_iff.mp faulty
  have names : r.demands.map Prod.fst = demanded := rfl
  rw [← names]
  exact List.mem_map_of_mem (List.mem_of_find?_eq_some found)

/-! ## Sentences -/

/-- What is said of a text that is JSON and of another shape than the one read. -/
inductive Json.ShapeError.Says : ShapeError → String → Prop
  | type (found : Found) (expected : String) :
    Says (.type found expected) ("invalid type: " ++ found.text ++ ", expected " ++ expected)
  | value (found : Found) (expected : String) :
    Says (.value found expected) ("invalid value: " ++ found.text ++ ", expected " ++ expected)
  | length (count : Nat) (expected : String) :
    Says (.length count expected) (s!"invalid length {count}, expected " ++ expected)
  | missing (field : String) : Says (.missing field) ("missing field " ++ backquoted field)
  | duplicate (field : String) : Says (.duplicate field) ("duplicate field " ++ backquoted field)
  | variant (name : String) (known : List String) : Says (.variant name known)
      ("unknown variant " ++ backquoted name ++ ", expected " ++ choice known)
  | spelling (message : String) : Says (.spelling message) message

/-- What is said of bytes that are no description, unless they are of another schema. -/
inductive Record.Fault.Says : Record.Fault → String → Prop
  | headerTooShort : Says .headerTooShort "header too short"
  | badMagic : Says .badMagic "invalid magic bytes"
  | endOfRecord (offset : Nat) :
    Says (.endOfRecord offset) s!"unexpected end of record at offset {offset}"
  | invalid (offset index count : Nat) : Says (.invalidText offset ⟨index, some count⟩)
      (s!"invalid UTF-8 at offset {offset}: " ++
        s!"invalid utf-8 sequence of {count} bytes from index {index}")
  | incomplete (offset index : Nat) : Says (.invalidText offset ⟨index, none⟩)
      (s!"invalid UTF-8 at offset {offset}: " ++
        s!"incomplete utf-8 byte sequence from index {index}")
  | trailing (count : Nat) : Says (.trailing count) s!"{count} trailing bytes"

/-- What is said of a database that does not answer. -/
inductive DatabaseFault.Says : DatabaseFault → String → Prop
  | noRow : Says .noRow "no rows returned by a query that expected to return at least one row"
  | protocol (message : String) :
    Says (.protocol message) ("encountered unexpected or invalid data: " ++ message)
  | refused (code : Nat) (message : String) :
    Says (.refused code message) s!"error returned from database: (code: {code}) {message}"

theorem Json.ShapeError.says_message {e : ShapeError} (spelled : e ≠ .malformed) :
    e.Says e.message := by
  cases e with
  | malformed => exact absurd rfl spelled
  | type found expected => exact .type found expected
  | value found expected => exact .value found expected
  | length count expected => exact .length count expected
  | missing field => exact .missing field
  | duplicate field => exact .duplicate field
  | variant name known => exact .variant name known
  | spelling message => exact .spelling message

theorem Json.ShapeError.Says.message_eq {e : ShapeError} {sentence : String}
    (words : e.Says sentence) : e.message = sentence := by
  cases words <;> rfl

theorem DatabaseFault.says_message (fault : DatabaseFault) : fault.Says fault.message := by
  cases fault with
  | noRow => exact .noRow
  | protocol message => exact .protocol message
  | refused code message => exact .refused code message

/-- Bytes that are no description are of another schema, or there is a sentence for them. -/
theorem Record.Fault.ofFault_cases (id : String) (fault : Record.Fault) :
    (∃ revision, FeedError.ofFault id fault = .unsupported revision) ∨
      ∃ sentence, fault.Says sentence ∧ FeedError.ofFault id fault = .undecodable id sentence := by
  cases fault with
  | unsupported revision => exact .inl ⟨revision, rfl⟩
  | headerTooShort => exact .inr ⟨_, .headerTooShort, rfl⟩
  | badMagic => exact .inr ⟨_, .badMagic, rfl⟩
  | endOfRecord offset => exact .inr ⟨_, .endOfRecord offset, rfl⟩
  | trailing count => exact .inr ⟨_, .trailing count, rfl⟩
  | invalidText offset fault =>
    obtain ⟨index, _ | count⟩ := fault
    · exact .inr ⟨_, .incomplete offset index, rfl⟩
    · exact .inr ⟨_, .invalid offset index count, rfl⟩

namespace Command

/-- What is shown of a fault, by the stage that fails, line by line. -/
inductive Shown (s : Surroundings) (a : Arguments) : Stage → Fault → List String → Prop
  | unread {path : String} (looked : a.config.or s.defaultConfig = some path) :
    Shown s a .configuration (.error (.config (.notFound path)))
      ["config file not found: " ++ path,
        "  Code: config.not_found",
        "  Hint: Pass --config with an existing file or omit it."]
  | nowhere (unasked : a.config = none) (placeless : s.defaultConfig = none) :
    Shown s a .configuration (.error (.config (.notFound "config directory")))
      ["config file not found: config directory",
        "  Code: config.not_found",
        "  Hint: Pass --config with an existing file or omit it."]
  | unparsable :
    Shown s a .configuration
      (.error (.config (.unparsable "the document is not a configuration")))
      ["parse error: the document is not a configuration",
        "  Code: config.parse",
        "  Hint: Fix the configuration value and retry the command."]
  | invalid {before after : List Config.Key} {key : Config.Key} {name word : String}
    (stop : Config.FirstUnacceptable s.environment Config.Key.overridden before key after name
      word) :
    Shown s a .environment (.error (.config (.invalid name word)))
      ["invalid value for " ++ name ++ ": " ++ word,
        "  Code: config.invalid_value",
        "  Hint: Fix the configuration value and retry the command."]
  | file {message : String} (unread : (s.contents a.context).text = .error message) :
    Shown s a .context (.error (.io message (some a.context)))
      [message,
        "  Code: error.io",
        "  Retry: safe to retry this operation."]
  | input {fault : Utf8.Fault} (asked : isInput a.context = true)
    (unread : Utf8.decode s.input = .error fault) :
    Shown s a .context (.input fault.message) ["I/O error: " ++ fault.message]
  | unspelled : Shown s a .context (.context .malformed) ["Invalid scan context: not a JSON text"]
  | shape {e : Json.ShapeError} {sentence : String} (words : e.Says sentence) :
    Shown s a .context (.context e) ["Invalid scan context: " ++ sentence]
  | unset :
    Shown s a .feedPath (.error (.config (.missing "feed.database_path")))
      ["missing required field: feed.database_path",
        "  Code: config.missing_field",
        "  Hint: Set feed.database_path in the config file, VDS_FEED_PATH, or --feed."]
  | absent {path : String} (gone : s.database path = .absent) :
    Shown s a .database (.error (.feed (.database ("feed database not found: " ++ path))))
      ["feed database error: feed database not found: " ++ path,
        "  Code: feed.database",
        "  Hint: Check that the feed database path is readable.",
        "  Retry: safe to retry this operation."]
  | closed {path : String} {fault : DatabaseFault} {sentence : String}
    (closed : s.database path = .closed fault) (words : fault.Says sentence) :
    Shown s a .database (.error (.feed (.database sentence)))
      ["feed database error: " ++ sentence,
        "  Code: feed.database",
        "  Hint: Check that the feed database path is readable.",
        "  Retry: safe to retry this operation."]
  | unidentified :
    Shown s a .synthesis (.error (.scan (.invalidPayload "package item id is empty")))
      ["invalid subject payload: package item id is empty",
        "  Code: scan.invalid_subject_payload",
        "  Hint: Package scans require a non-empty item_id in the inventory payload."]
  | faulty {id field : String} (demanded : field ∈ Record.demanded) :
    Shown s a .synthesis (.error (.scan (.malformedRecord id field)))
      ["malformed record for " ++ id ++ ": missing or invalid " ++ field,
        "  Code: scan.malformed_record",
        "  Hint: The vulnerability feed entry is incomplete; refresh the feed store."]
  | condition (id : String) :
    Shown s a .synthesis (.error (.scan (.invalidCondition id "unknown")))
      ["invalid match condition for " ++ id ++ ": unknown",
        "  Code: scan.invalid_match_condition",
        "  Hint: The upstream matcher produced an unknown condition for this candidate."]
  | notFound (id : String) :
    Shown s a .synthesis (.error (.feed (.notFound id)))
      ["no feed record for " ++ id,
        "  Code: feed.record_not_found",
        "  Hint: The feed store may be out of date; update it and rescan."]
  | undecodable (id : String) {fault : Record.Fault} {sentence : String}
    (words : fault.Says sentence) :
    Shown s a .synthesis (.error (.feed (.undecodable id sentence)))
      ["failed to decode feed record for " ++ id ++ ": " ++ sentence,
        "  Code: feed.decode_error",
        "  Hint: The feed store was written by an incompatible version; rebuild it."]
  | unsupported (revision : Record.Revision) :
    Shown s a .synthesis (.error (.feed (.unsupported revision)))
      [s!"unsupported feed record schema {revision.major}.{revision.minor}",
        "  Code: feed.unsupported_schema",
        "  Hint: The feed store was written by an incompatible version; rebuild it."]
  | blank {id : String} (blank : Text.isBlankText id = true) :
    Shown s a .synthesis (.error (.feed (.invalidIdentifier id)))
      ["invalid vulnerability identifier: " ++ Text.quote id,
        "  Code: feed.invalid_identifier"]
  | refused {fault : DatabaseFault} {sentence : String} (words : fault.Says sentence) :
    Shown s a .synthesis (.error (.feed (.database sentence)))
      ["feed database error: " ++ sentence,
        "  Code: feed.database",
        "  Hint: Check that the feed database path is readable.",
        "  Retry: safe to retry this operation."]

variable {s : Surroundings} {time : String} {a : Arguments} {stage : Stage} {fault : Fault}

/-- What is shown is the report. -/
theorem Shown.report_eq {lines : List String} (shown : Shown s a stage fault lines) :
    fault.report = "\n".intercalate lines := by
  cases shown with
  | input => exact String.intercalate_singleton.symm
  | unspelled => exact String.intercalate_singleton.symm
  | shape words =>
    rw [String.intercalate_singleton, ← words.message_eq]
    cases words <;> rfl
  | condition id =>
    have sentence : "invalid match condition for " ++ id ++ ": " ++ "unknown" =
      "invalid match condition for " ++ id ++ ": unknown" := String.append_assoc ..
    rw [← sentence]
    exact (Error.report_eq_intercalate _).trans rfl
  | _ => exact (Error.report_eq_intercalate _).trans rfl

/-! ## What each stage can fail with -/

theorem exists_shown_of_loadFile {path : String} {contents : Contents} {e : ConfigError}
    (looked : a.config.or s.defaultConfig = some path)
    (unread : Config.loadFile path contents = .error e) :
    ∃ lines, Shown s a .configuration (.error (.config e)) lines := by
  unfold Config.loadFile at unread
  split at unread
  · cases unread
    exact ⟨_, .unread looked⟩
  · split at unread
    · cases unread
    · cases unread
      exact ⟨_, .unparsable⟩

/-- A configuration is not loaded for want of a file, of a place for it, or of sense in it. -/
theorem exists_shown_of_load {e : ConfigError} (unread : load s a = .error e) :
    ∃ lines, Shown s a .configuration (.error (.config e)) lines := by
  unfold load at unread
  cases asked : a.config with
  | some path =>
    rw [asked] at unread
    exact exists_shown_of_loadFile (by rw [asked, Option.some_or]) unread
  | none =>
    rw [asked] at unread
    cases place : s.defaultConfig with
    | none =>
      rw [place] at unread
      cases unread
      exact ⟨_, .nowhere asked place⟩
    | some path =>
      rw [place] at unread
      dsimp only [Config.load, Config.loadDefault] at unread
      split at unread
      · exact exists_shown_of_loadFile (by rw [asked, place, Option.none_or]) unread
      · cases unread

/-- The environment is not merged for the first variable that cannot be accepted. -/
theorem exists_shown_of_merge {e : ConfigError}
    (unread : (Config.merge s.environment {}).2 = .error e) :
    ∃ lines, Shown s a .environment (.error (.config e)) lines := by
  rw [Config.merge, Config.overrides_eq] at unread
  rcases Config.mergeAll_ends s.environment Config.Key.overridden with
    ⟨_, merged⟩ | ⟨before, key, after, name, word, stop, merged⟩
  · rw [merged] at unread
    cases unread
  · rw [merged] at unread
    cases unread
    exact ⟨_, .invalid stop⟩

theorem exists_shown_of_readText (unread : readText s a.context = .error fault) :
    ∃ lines, Shown s a .context fault lines := by
  unfold readText at unread
  split at unread
  next asked =>
    cases read : Utf8.decode s.input with
    | ok text =>
      rw [read] at unread
      cases unread
    | error garbled =>
      rw [read] at unread
      cases unread
      exact ⟨_, .input asked read⟩
  next =>
    cases read : (s.contents a.context).text with
    | ok text =>
      rw [read] at unread
      cases unread
    | error message =>
      rw [read] at unread
      cases unread
      exact ⟨_, .file read⟩

/-- A context is not read for want of a text, or of sense in it. -/
theorem exists_shown_of_readContext (unread : readContext s a.context = .error fault) :
    ∃ lines, Shown s a .context fault lines := by
  cases read : readText s a.context with
  | error e =>
    rw [readContext, read] at unread
    cases unread
    exact exists_shown_of_readText read
  | ok text =>
    rw [readContext, read] at unread
    change (Json.parse (Context.read .text) text).mapError Fault.context = .error fault at unread
    cases parsed : Json.parse (Context.read .text) text with
    | ok context =>
      rw [parsed] at unread
      cases unread
    | error e =>
      rw [parsed] at unread
      cases unread
      by_cases spelled : e = .malformed
      · subst spelled
        exact ⟨_, .unspelled⟩
      · exact ⟨_, .shape (Json.ShapeError.says_message spelled)⟩

theorem exists_shown_of_feedPath {c : Config} {e : ConfigError} (unset : c.feedPath = .error e) :
    ∃ lines, Shown s a .feedPath (.error (.config e)) lines := by
  unfold Config.feedPath at unset
  split at unset
  · cases unset
  · cases unset
    exact ⟨_, .unset⟩

/-- A database whose path is set is not opened for want of it, or for a fault of its own. -/
theorem exists_shown_of_openFeed {c : Config} {path : String} {e : Error}
    (chosen : c.feedPath = .ok path) (unopened : openFeed s c = .error e) :
    ∃ lines, Shown s a .database (.error e) lines := by
  rw [openFeed, chosen] at unopened
  dsimp only [Except.mapError, Except.bind, bind] at unopened
  split at unopened
  next gone =>
    cases unopened
    exact ⟨_, .absent gone⟩
  next closed =>
    cases unopened
    exact ⟨_, .closed closed (DatabaseFault.says_message _)⟩
  next => cases unopened

/-- A description is not fetched for an identifier that does not show, for want of bytes under it,
for bytes that are no description, or for a fault of the database. -/
theorem exists_shown_of_fetch {f : Feed} {times : Readings} {id : String} {e : FeedError}
    (failed : (f.fetch times id).answer = .error e) :
    ∃ lines, Shown s a .synthesis (.error (.feed e)) lines := by
  rw [f.answer_fetch] at failed
  split at failed
  · cases failed
  · have answers := f.store.fetch_answers id
    generalize f.store.fetch id = answer at failed answers
    cases answers with
    | refused blank =>
      cases failed
      exact ⟨_, .blank blank⟩
    | broken =>
      cases failed
      exact ⟨_, .refused (DatabaseFault.says_message _)⟩
    | missing =>
      cases failed
      exact ⟨_, .notFound id⟩
    | decoded => cases failed
    | garbled _ _ _ rejected =>
      cases failed
      unfold Store.read at rejected
      split at rejected
      · cases rejected
      · cases rejected
        rcases Record.Fault.ofFault_cases id _ with ⟨revision, same⟩ | ⟨_, words, same⟩
        · rw [same]
          exact ⟨_, .unsupported revision⟩
        · rw [same]
          exact ⟨_, .undecodable id words⟩

/-- A candidate is refused because its description is not fetched or lacks a field, or for its match
condition. -/
theorem exists_shown_of_refusal {candidate : Candidate} {f : Feed} {clock : Clock} {e : Error}
    (refused : candidate.refusal f clock = some e) :
    ∃ lines, Shown s a .synthesis (.error e) lines := by
  unfold Candidate.refusal refusal at refused
  split at refused
  next failed =>
    cases refused
    exact exists_shown_of_fetch failed
  next =>
    split at refused
    next faulty =>
      cases refused
      exact ⟨_, .faulty (Record.faultyField_mem_demanded faulty)⟩
    next =>
      split at refused
      · cases refused
      · split at refused
        next unknown =>
          cases refused
          rw [unknown]
          exact ⟨_, .condition candidate.id⟩
        next => cases refused

theorem exists_shown_of_synthesize {c : Context} {f : Feed} {clock : Clock} {e : Error}
    (failed : (c.synthesize f clock).result = .error e) :
    ∃ lines, Shown s a .synthesis (.error e) lines := by
  have course := synthesize_course c f clock
  generalize c.synthesize f clock = outcome at failed course
  cases course with
  | idle => cases failed
  | unidentified =>
    cases failed
    exact ⟨_, .unidentified⟩
  | completed => cases failed
  | refused _ _ _ stopped =>
    cases failed
    exact exists_shown_of_refusal (Candidate.refusal_of_resolve_eq_error stopped)

/-- A stage that fails has words for it. -/
theorem Fails.exists_shown (fails : Fails s time a stage fault) :
    ∃ lines, Shown s a stage fault lines := by
  cases fails with
  | configuration unread => exact exists_shown_of_load unread
  | environment unread => exact exists_shown_of_merge unread
  | context unread => exact exists_shown_of_readContext unread
  | feedPath _ unset => exact exists_shown_of_feedPath unset
  | database _ chosen unopened => exact exists_shown_of_openFeed chosen unopened
  | synthesis _ _ _ failed => exact exists_shown_of_synthesize failed

end Command

end Findings
