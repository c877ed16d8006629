import Findings.Synthesis

/-!
When a candidate is refused. A fetch that fails refuses it; or else the first field that a report
cannot do without and that the description lacks; or else a match condition whose operator is
unknown. `refusal` says so without building an entry, and `Synthesis.entryOf_cases` shows that an
entry is built exactly when nothing refuses the candidate.
-/

namespace Findings

/-! ## Descriptions that cannot be reported -/

namespace Record

/-- The fields a report cannot do without, in the order they are asked for, each with whether the
description has it. A text has to be there, though it may be empty; a score has to be finite. -/
def demands (r : Record) : List (String × Bool) := [
  ("classification", r.classification.isSome),
  ("description", r.description.isSome),
  ("reference", r.reference.isSome),
  ("date_published", r.datePublished.isSome),
  ("score_version", r.scoreVersion.isSome),
  ("severity", r.severity.isSome),
  ("score_base", !(r.score.isNaN || r.score.magnitude == Number.Format.single.infinity))]

/-- The first field that a report cannot do without and that the description lacks. -/
def faultyField (r : Record) : Option String :=
  (r.demands.find? fun demand => !demand.2).map Prod.fst

end Record

/-- A pattern without a value and an infinite one are those that are not finite. -/
theorem Number.Single.isNaN_or_infinite (x : Number.Single) :
    (x.isNaN || x.magnitude == Number.Format.single.infinity) = !x.isFinite := by
  rw [isFinite, isNaN, Bool.eq_iff_iff]
  simp only [Bool.or_eq_true, decide_eq_true_eq, beq_iff_eq, Bool.not_eq_true',
    decide_eq_false_iff_not]
  omega

/-- Why a candidate is refused, told from its match condition and what its fetch answered. -/
def refusal (id : String) (condition : Option Condition) : Except FeedError Record → Option Error
  | .error e => some (.feed e)
  | .ok r =>
    match r.faultyField with
    | some field => some (.scan (.malformedRecord id field))
    | none =>
      match condition with
      | none => none
      | some c =>
        if c.operator = .unknown then some (.scan (.invalidCondition id c.operator.name)) else none

namespace Entry

/-- What an entry says of a candidate and its description, where a text that the description lacks
is taken as empty. -/
def composed (candidate : Candidate) (detectedAt : String) (r : Record)
    (condition : Option String) : Entry where
  category := candidate.scanner.category
  classification := r.classification.getD ""
  description := r.description.getD ""
  detectedAt := detectedAt
  enumeration := enumerationName
  id := candidate.id
  itemId := candidate.itemId
  publishedAt := r.datePublished.getD ""
  reference := r.reference.getD ""
  score := ⟨Number.roundPlaces r.score scorePlaces, r.scoreVersion.getD ""⟩
  severity := Text.sentenceCase (r.severity.getD "")
  assigner := r.assignerShortName
  cweReference := r.cweId
  updated := r.dateUpdated
  condition := condition
  cvss := cvssOf (r.scoreVersion.getD "") r.metrics
  remarks := passedThrough candidate.remark

/-- The first field that is lacking is the one the error names, whatever else is wrong. -/
theorem build_of_faultyField {candidate : Candidate} {time field : String} {r : Record}
    (faulty : r.faultyField = some field) :
    build candidate time r = .error (.malformedRecord candidate.id field) := by
  -- One case for each demand in its order: where it is not met, both sides stop there.
  rcases r with ⟨assigner, classification, cwe, published, updated, description, reference, score,
    version, severity, metrics⟩
  cases classification with
  | none => cases faulty; rfl
  | some classification =>
  cases description with
  | none => cases faulty; rfl
  | some description =>
  cases reference with
  | none => cases faulty; rfl
  | some reference =>
  cases published with
  | none => cases faulty; rfl
  | some published =>
  cases version with
  | none => cases faulty; rfl
  | some version =>
  cases severity with
  | none => cases faulty; rfl
  | some severity =>
    simp only [Record.faultyField, Record.demands, Number.Single.isNaN_or_infinite] at faulty
    cases finite : score.isFinite with
    | true => simp [finite] at faulty
    | false =>
      simp only [finite] at faulty
      cases faulty
      simp only [build, require, finite]
      rfl

/-- A description that lacks nothing is composed into an entry once the condition has words. -/
theorem build_of_not_faulty {candidate : Candidate} {time : String} {r : Record}
    (sound : r.faultyField = none) :
    build candidate time r =
      (conditionOf candidate.id candidate.condition).map (composed candidate time r) := by
  rcases r with ⟨assigner, classification, cwe, published, updated, description, reference, score,
    version, severity, metrics⟩
  cases classification with
  | none => cases sound
  | some classification =>
  cases description with
  | none => cases sound
  | some description =>
  cases reference with
  | none => cases sound
  | some reference =>
  cases published with
  | none => cases sound
  | some published =>
  cases version with
  | none => cases sound
  | some version =>
  cases severity with
  | none => cases sound
  | some severity =>
    simp only [Record.faultyField, Record.demands, Number.Single.isNaN_or_infinite] at sound
    cases finite : score.isFinite with
    | false => simp [finite] at sound
    | true =>
      simp only [build, require, finite]
      cases conditionOf candidate.id candidate.condition with
      | error e => rfl
      | ok words => rfl

/-- An entry is composed of a candidate, a description that lacks nothing, and the words of the
match condition. -/
theorem build_eq_ok_iff {candidate : Candidate} {time : String} {r : Record} {entry : Entry} :
    build candidate time r = .ok entry ↔
      r.faultyField = none ∧ ∃ words, conditionOf candidate.id candidate.condition = .ok words ∧
        entry = composed candidate time r words := by
  cases faulty : r.faultyField with
  | some field => simp [build_of_faultyField faulty]
  | none =>
    rw [build_of_not_faulty faulty]
    cases described : conditionOf candidate.id candidate.condition with
    | error e => simp [Except.map]
    | ok words => simp [Except.map, eq_comm]

/-- A condition has words unless its operator is unknown. -/
theorem conditionOf_some (id : String) (c : Condition) :
    conditionOf id (some c) =
      if c.operator = .unknown then .error (.invalidCondition id c.operator.name)
      else .ok c.describe := by
  obtain ⟨version, operator⟩ := c
  cases operator <;> rfl

end Entry

/-! ## Candidates that are refused -/

namespace Synthesis

/-- Either something refuses the candidate, and then that is the error, or nothing does, and then
there is an entry of that candidate. -/
theorem entryOf_cases (candidate : Candidate) (time : String) (answer : Except FeedError Record) :
    (∃ e, refusal candidate.id candidate.condition answer = some e ∧
        entryOf candidate time answer = .error e) ∨
      refusal candidate.id candidate.condition answer = none ∧
        ∃ entry, entry.id = candidate.id ∧ entryOf candidate time answer = .ok entry := by
  cases answer with
  | error e => exact .inl ⟨_, rfl, rfl⟩
  | ok r =>
    cases faulty : r.faultyField with
    | some field =>
      simp only [refusal, entryOf, faulty, Entry.build_of_faultyField faulty]
      exact .inl ⟨_, rfl, rfl⟩
    | none =>
      simp only [refusal, entryOf, faulty, Entry.build_of_not_faulty faulty]
      cases candidate.condition with
      | none => exact .inr ⟨rfl, _, rfl, rfl⟩
      | some c =>
        dsimp only
        rw [Entry.conditionOf_some]
        split
        next => exact .inl ⟨_, rfl, rfl⟩
        next => exact .inr ⟨rfl, _, rfl, rfl⟩

end Synthesis

end Findings
