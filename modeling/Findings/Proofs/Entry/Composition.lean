import Findings.Proofs.Keyed
import Findings.Proofs.Number.Places
import Findings.Proofs.Synthesis.Refusal

/-!
What an entry says, against its candidate and its description. The texts of the description are
taken over as they are, the score is rounded once, and of the metrics those of the standard that the
score version begins with are shown, beside the three that both standards have
(`Entry.build_reports`). A description may therefore change in the metrics of another standard, and
in no others, without its entry changing.
-/

namespace Findings

/-! ## The metrics of one standard -/

/-- A vector shows metrics as one standard has them: the three impacts always, and of the others
those of that standard. -/
structure Vector.Shows (v : Vector) (standard : Char) (m : Metrics) : Prop where
  availability : v.availability = m.availabilityImpact
  confidentiality : v.confidentialityImpact = m.confidentialityImpact
  integrity : v.integrityImpact = m.integrityImpact
  accessComplexity : v.accessComplexity = if standard = '2' then m.accessComplexity else none
  authentication : v.authentication = if standard = '2' then m.authentication else none
  attackVector : v.attackVector = if standard = '3' then m.attackVector else none
  privilegesRequired : v.privilegesRequired = if standard = '3' then m.privilegesRequired else none
  scope : v.scope = if standard = '3' then m.scope else none
  userInteraction : v.userInteraction = if standard = '3' then m.userInteraction else none

/-- Metrics agree for a standard when they differ in those of other standards only. -/
structure Metrics.AgreeFor (standard : Char) (m n : Metrics) : Prop where
  availability : m.availabilityImpact = n.availabilityImpact
  confidentiality : m.confidentialityImpact = n.confidentialityImpact
  integrity : m.integrityImpact = n.integrityImpact
  second : standard = '2' →
    m.accessComplexity = n.accessComplexity ∧ m.authentication = n.authentication
  third : standard = '3' →
    m.attackVector = n.attackVector ∧ m.privilegesRequired = n.privilegesRequired ∧
      m.scope = n.scope ∧ m.userInteraction = n.userInteraction

namespace Entry

theorem shows_vectorOf (standard : Char) (m : Metrics) :
    (vectorOf standard m).Shows standard m := by
  by_cases second : standard = '2'
  · subst second
    constructor <;> rfl
  by_cases third : standard = '3'
  · subst third
    constructor <;> rfl
  rw [vectorOf, if_neg second, if_neg third]
  constructor <;> simp [second, third]

/-- The vector tells the metrics of its own standard apart, and no others. -/
theorem vectorOf_eq_iff (standard : Char) (m n : Metrics) :
    vectorOf standard m = vectorOf standard n ↔ Metrics.AgreeFor standard m n := by
  have left := shows_vectorOf standard m
  have right := shows_vectorOf standard n
  constructor
  · intro same
    rw [same] at left
    refine ⟨left.availability.symm.trans right.availability,
      left.confidentiality.symm.trans right.confidentiality,
      left.integrity.symm.trans right.integrity, fun second => ?_, fun third => ?_⟩
    · have complexity := left.accessComplexity.symm.trans right.accessComplexity
      have authentication := left.authentication.symm.trans right.authentication
      rw [if_pos second, if_pos second] at complexity authentication
      exact ⟨complexity, authentication⟩
    · have attack := left.attackVector.symm.trans right.attackVector
      have privileges := left.privilegesRequired.symm.trans right.privilegesRequired
      have scope := left.scope.symm.trans right.scope
      have interaction := left.userInteraction.symm.trans right.userInteraction
      rw [if_pos third, if_pos third] at attack privileges scope interaction
      exact ⟨attack, privileges, scope, interaction⟩
  · intro agree
    unfold vectorOf
    rw [agree.availability, agree.confidentiality, agree.integrity]
    split
    next second => rw [(agree.second second).1, (agree.second second).2]
    next =>
      split
      next third =>
        obtain ⟨attack, privileges, scope, interaction⟩ := agree.third third
        rw [attack, privileges, scope, interaction]
      next => rfl

theorem cvssOf_eq_iff (version : String) (m n : Metrics) :
    cvssOf version m = cvssOf version n ↔
      ∀ standard ∈ version.toList.head?, Metrics.AgreeFor standard m n := by
  unfold cvssOf
  cases version.toList with
  | nil => simp
  | cons standard rest =>
    simp only [List.head?_cons, Option.mem_some_iff, forall_eq', ← vectorOf_eq_iff]
    constructor
    · intro same
      have entries := congrArg Keyed.entries same
      injection entries with head
      injection head
    · intro same
      rw [same]

/-! ## The whole entry -/

/-- An entry reports its description for a candidate. -/
structure Reports (entry : Entry) (candidate : Candidate) (r : Record) : Prop where
  classification : r.classification = some entry.classification
  description : r.description = some entry.description
  reference : r.reference = some entry.reference
  publishedAt : r.datePublished = some entry.publishedAt
  version : r.scoreVersion = some entry.score.version
  assigner : entry.assigner = r.assignerShortName
  cweReference : entry.cweReference = r.cweId
  updated : entry.updated = r.dateUpdated
  category : entry.category = candidate.scanner.category
  itemId : entry.itemId = candidate.itemId
  condition : entry.condition.isSome = candidate.condition.isSome
  words : entry.condition = candidate.condition.bind Condition.describe
  /-- A score without a version has no metrics. -/
  unversioned : entry.cvss = ∅ ↔ r.scoreVersion = some ""
  /-- Any other has those of one standard, under its name. -/
  metrics : ∀ standard rest, entry.score.version.toList = standard :: rest →
    ∃ vector, entry.cvss.entries = [("cvss".push standard, vector)] ∧
      vector.Shows standard r.metrics

/-- An entry is listed as the inventory of its context has it: a package by the identifier it has
there, an operating system by none. -/
def ListedIn (entry : Entry) (c : Context) : Prop :=
  match c.scanner with
  | .package => entry.category = "Packages" ∧ ∃ package id, c.payload = .package package ∧
      package.itemId = some id ∧ id ≠ "" ∧ entry.itemId = some id
  | .os => entry.category = "OS" ∧ entry.itemId = none

end Entry

/-- A description lacks nothing when each text is there and the score is finite. -/
theorem Record.demands_of_faultyField_eq_none {r : Record} (sound : r.faultyField = none) :
    (∃ classification, r.classification = some classification) ∧
    (∃ description, r.description = some description) ∧
    (∃ reference, r.reference = some reference) ∧
    (∃ published, r.datePublished = some published) ∧
    (∃ version, r.scoreVersion = some version) ∧
    (∃ severity, r.severity = some severity) ∧ r.score.isFinite := by
  have met : ∀ demand ∈ r.demands, demand.2 = true := by
    simpa [Record.faultyField] using sound
  simpa [Record.demands, Number.Single.isNaN_or_infinite, Option.isSome_iff_exists] using met

namespace Entry

/-- The words of a condition are there when the condition is. -/
theorem words_of_conditionOf_eq_ok {id : String} {condition : Option Condition}
    {words : Option String} (described : conditionOf id condition = .ok words) :
    words.isSome = condition.isSome ∧ words = condition.bind Condition.describe := by
  cases condition with
  | none =>
    cases described
    exact ⟨rfl, rfl⟩
  | some c =>
    cases spoken : c.describe with
    | none =>
      rw [conditionOf, spoken] at described
      cases described
    | some text =>
      rw [conditionOf, spoken] at described
      cases described
      exact ⟨rfl, spoken.symm⟩

theorem cvssOf_eq_empty_iff (version : String) (m : Metrics) :
    cvssOf version m = ∅ ↔ version = "" := by
  rw [cvssOf, ← String.toList_eq_nil_iff]
  cases version.toList with
  | nil => simp
  | cons standard rest =>
    simp only [reduceCtorEq, iff_false]
    intro none
    cases congrArg Keyed.entries none

theorem reports_composed {candidate : Candidate} {time : String} {r : Record}
    {words : Option String} (sound : r.faultyField = none)
    (described : conditionOf candidate.id candidate.condition = .ok words) :
    (composed candidate time r words).Reports candidate r := by
  obtain ⟨⟨classification, classified⟩, ⟨description, detailed⟩, ⟨reference, referred⟩,
    ⟨published, dated⟩, ⟨version, versioned⟩, _⟩ := r.demands_of_faultyField_eq_none sound
  obtain ⟨present, spoken⟩ := words_of_conditionOf_eq_ok described
  constructor
  case unversioned =>
    simp only [composed, versioned, Option.getD_some, Option.some_inj]
    exact cvssOf_eq_empty_iff version r.metrics
  case metrics =>
    intro standard rest begins
    simp only [composed] at begins ⊢
    rw [cvssOf, begins]
    exact ⟨_, rfl, shows_vectorOf standard r.metrics⟩
  case condition => exact present
  case words => exact spoken
  all_goals first | rfl | simp only [composed, classified, detailed, referred, dated, versioned,
    Option.getD_some]

/-- Rounding keeps the score of a description that lacks nothing finite. -/
theorem isFinite_composed {candidate : Candidate} {time : String} {r : Record}
    {words : Option String} (sound : r.faultyField = none) :
    (composed candidate time r words).score.base.isFinite := by
  obtain ⟨_, _, _, _, _, _, finite⟩ := r.demands_of_faultyField_eq_none sound
  obtain ⟨_, _, _, nearest, _⟩ := Number.roundPlaces_isNearest finite (show 2 ≤ 12 by decide)
  exact nearest.finite

/-- The candidates of a context are listed as its inventory has them. -/
theorem listedIn_of_mem_candidatesOf {c : Context} {itemId : Option String}
    {candidate : Candidate} {r : Record} {entry : Entry} (reports : entry.Reports candidate r)
    (identified : Synthesis.itemIdOf c = .ok itemId)
    (member : candidate ∈ Synthesis.candidatesOf c itemId) : entry.ListedIn c := by
  obtain ⟨⟨id, remark⟩, _, rfl⟩ := List.mem_map.mp member
  have category := reports.category
  have shown := reports.itemId
  unfold ListedIn
  unfold Synthesis.itemIdOf at identified
  cases kind : c.scanner with
  | os =>
    rw [kind] at identified category
    cases identified
    exact ⟨category, shown⟩
  | package =>
    rw [kind] at identified category
    refine ⟨category, ?_⟩
    cases payload : c.payload with
    | empty =>
      rw [Context.itemId, payload] at identified
      cases identified
    | package package =>
      cases known : c.itemId with
      | none =>
        rw [known] at identified
        cases identified
      | some id =>
        rw [known] at identified
        cases identified
        rw [Context.itemId, payload] at known
        obtain ⟨stored, some⟩ := Option.filter_eq_some_iff.mp known
        exact ⟨package, id, rfl, stored, of_decide_eq_true some, shown⟩

/-- An entry reports exactly its description, and only the metrics of its own standard. Built for a
candidate of a context, it is listed as the inventory of that context has it; and of the same
description with other metrics the same entry is built just when those of its own standard are
kept. -/
theorem build_reports {candidate : Candidate} {time : String} {r : Record} {entry : Entry}
    (built : build candidate time r = .ok entry) :
    entry.Reports candidate r ∧
    (∀ c itemId, Synthesis.itemIdOf c = .ok itemId →
      candidate ∈ Synthesis.candidatesOf c itemId → entry.ListedIn c) ∧
    ∀ metrics, build candidate time { r with metrics } = .ok entry ↔
      ∀ standard ∈ entry.score.version.toList.head?,
        Metrics.AgreeFor standard r.metrics metrics := by
  obtain ⟨sound, words, described, rfl⟩ := build_eq_ok_iff.mp built
  have reports : (composed candidate time r words).Reports candidate r :=
    reports_composed sound described
  refine ⟨reports, fun c itemId => listedIn_of_mem_candidatesOf reports, fun metrics => ?_⟩
  rw [build_eq_ok_iff]
  have same : ({ r with metrics } : Record).faultyField = r.faultyField := rfl
  rw [same, described]
  constructor
  · intro rebuilt
    obtain ⟨_, _, _, equal⟩ := rebuilt
    exact (cvssOf_eq_iff _ _ _).mp (congrArg Entry.cvss equal)
  · intro agree
    refine ⟨sound, words, rfl, ?_⟩
    simp only [composed, (cvssOf_eq_iff (r.scoreVersion.getD "") _ _).mpr agree]

/-- An operating system scan of a package, with metrics of both standards. -/
theorem build_reports_third_standard :
    let candidate : Candidate := ⟨"CVE-1", .os, none, .null, none⟩
    let metrics : Metrics := {
      attackVector := some "NETWORK", authentication := some "NONE", scope := some "CHANGED",
      availabilityImpact := some "HIGH" }
    let r : Record := {
      classification := some "", description := some "", reference := some "",
      datePublished := some "2024-01-01", scoreVersion := some "3.1", severity := some "high",
      metrics }
    ∃ entry, build candidate "now" r = .ok entry ∧
      entry.publishedAt = "2024-01-01" ∧ entry.updated = none ∧
      entry.category = "OS" ∧ entry.itemId = none ∧
      build candidate "now"
        { r with metrics := { metrics with authentication := some "SINGLE" } } = .ok entry := by
  intro candidate metrics r
  let c : Context := {
    scanner := .os, payload := .package { itemId := some "7" },
    elements := .ofList [("CVE-1", .null)] }
  have built : build candidate "now" r = .ok (composed candidate "now" r none) :=
    build_of_not_faulty (by decide +kernel)
  obtain ⟨reports, listed, kept⟩ := build_reports built
  obtain ⟨category, unlisted⟩ := listed c none rfl (List.mem_singleton.mpr rfl)
  refine ⟨_, built, ?_, reports.updated, category, unlisted, (kept _).mpr ?_⟩
  · exact (Option.some_inj.mp reports.publishedAt).symm
  · intro standard first
    have begins : "3.1".toList.head? = some '3' := by decide
    obtain rfl : '3' = standard := Option.some_inj.mp (begins.symm.trans first)
    exact ⟨rfl, rfl, rfl, by decide, fun _ => ⟨rfl, rfl, rfl, rfl⟩⟩

end Entry

/-! ## The score -/

open Number in
/-- The score is rounded once. For every finite stored score and up to twelve places, the product
with the power of ten is exact, and so is the whole number it is rounded to, a half going away from
zero; the score that is shown is the double nearest to that decimal, under the sign of the stored
one. -/
theorem Entry.score_isNearest {stored : Single} (finite : stored.isFinite) {places : Nat}
    (few : places ≤ 12) :
    (((Double.ofSingle stored).mul (powerOfTen places)).isFinite ∧
      ((Double.ofSingle stored).mul (powerOfTen places)).toRat = stored.toRat * 10 ^ places ∧
      ((Double.ofSingle stored).mul (powerOfTen places)).round.toRat =
        halfAway (stored.toRat * 10 ^ places) ∧
      (roundPlaces stored places).IsNearest
        (halfAway (stored.toRat * 10 ^ places) / 10 ^ places) ∧
      (roundPlaces stored places).negative = stored.negative) ∧
    ∀ candidate time (r : Record) entry, r.score = stored →
      build candidate time r = .ok entry →
      entry.score.base.IsNearest (halfAway (stored.toRat * 10 ^ 2) / 10 ^ 2) ∧
        entry.score.base.negative = stored.negative := by
  refine ⟨roundPlaces_isNearest finite few, fun candidate time r entry same built => ?_⟩
  obtain ⟨_, words, _, rfl⟩ := build_eq_ok_iff.mp built
  rw [← same] at finite ⊢
  exact (roundPlaces_isNearest finite (show 2 ≤ 12 by decide)).2.2.2

open Number in
/-- A tie below zero goes away from zero. -/
theorem Entry.score_isNearest_at_tie :
    let stored : Single := ⟨0xC0840000⟩
    let candidate : Candidate := ⟨"CVE-1", .os, none, .null, none⟩
    let r : Record := {
      classification := some "", description := some "", reference := some "",
      datePublished := some "", scoreVersion := some "", severity := some "", score := stored }
    stored.toRat * 10 ^ 2 = -825 / 2 ∧
      (roundPlaces stored 2).IsNearest (-413 / 100) ∧ (roundPlaces stored 2).negative = true ∧
      ∃ entry, build candidate "now" r = .ok entry ∧
        entry.score.base.IsNearest (-413 / 100) := by
  intro stored candidate r
  have scaled : stored.toRat * 10 ^ 2 = -825 / 2 := by
    have sign : stored.negative = true := by decide
    have units : Format.single.units stored.magnitude = 33 * 2 ^ 146 := by decide
    rw [Single.toRat, sign, Format.value, units, Format.single]
    norm_num [signed]
  have rounded : (halfAway (stored.toRat * 10 ^ 2) : ℚ) / 10 ^ 2 = -413 / 100 := by
    have half : round (825 / 2 : ℚ) = 413 := by
      rw [round_eq]
      norm_num
    rw [scaled, halfAway]
    norm_num [half]
  have finite : stored.isFinite := by decide
  obtain ⟨⟨_, _, _, nearest, sign⟩, shown⟩ := score_isNearest finite (show 2 ≤ 12 by decide)
  rw [rounded] at nearest shown
  have built : build candidate "now" r = .ok (composed candidate "now" r none) :=
    build_of_not_faulty (by decide +kernel)
  exact ⟨scaled, nearest, sign, _, built, (shown _ _ _ _ rfl built).1⟩

end Findings
