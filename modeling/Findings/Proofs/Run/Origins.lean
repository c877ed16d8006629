import Findings.Proofs.Entry.Members
import Findings.Proofs.Run.Results

/-!
Where the results of a run come from. An entry that no context came with was built in some synthesis
of the run, of a candidate the context had then and of the description its fetch answered
(`State.origin_of_mem_results`). Whatever the matcher said of the candidate, the entry is written
with its fields as they were built: what the matcher says can neither override nor repeat a field,
nor pass for one that was not built (`State.remarks_forge_no_field`).
-/

namespace Findings

open Synthesis

/-! ## One candidate -/

/-- An entry is composed of a candidate, a description that lacks nothing, and the words of the
match condition. -/
theorem Synthesis.composed_of_entryOf_eq_ok {candidate : Candidate} {time : String}
    {answer : Except FeedError Record} {entry : Entry}
    (built : entryOf candidate time answer = .ok entry) :
    ∃ r words, answer = .ok r ∧ r.faultyField = none ∧
      Entry.conditionOf candidate.id candidate.condition = .ok words ∧
      entry = Entry.composed candidate time r words := by
  cases answer with
  | error e => cases built
  | ok r =>
    cases reported : Entry.build candidate time r with
    | error e =>
      rw [entryOf, reported] at built
      cases built
    | ok entry =>
      rw [entryOf, reported] at built
      cases built
      obtain ⟨sound, words, described, composed⟩ := Entry.build_eq_ok_iff.mp reported
      exact ⟨r, words, rfl, sound, described, composed⟩

theorem Resolved.exists_candidate {f : Feed} {clock : Clock} {candidates : List Candidate}
    {entries : List Entry} (resolved : Resolved f clock candidates entries) {entry : Entry}
    (member : entry ∈ entries) :
    ∃ candidate ∈ candidates, candidate.resolve f clock = .ok entry := by
  induction resolved with
  | nil => cases member
  | @cons candidate _ rest _ built _ ih =>
    rcases List.mem_cons.mp member with rfl | later
    · exact ⟨candidate, List.mem_cons_self, built⟩
    · obtain ⟨other, found, built⟩ := ih later
      exact ⟨other, List.mem_cons_of_mem _ found, built⟩

/-- The candidates of a context are told from it, each by its identifier. -/
theorem Context.eq_of_mem_candidates {c : Context} {candidate : Candidate}
    (member : candidate ∈ c.candidates) :
    ∃ remark, c.elements.get? candidate.id = some remark ∧
      candidate = ⟨candidate.id, c.scanner, c.shownItemId, remark,
        c.conditions.get? candidate.id⟩ := by
  obtain ⟨⟨id, remark⟩, found, rfl⟩ := List.mem_map.mp member
  exact ⟨remark, Keyed.mem_entries_iff.mp found, rfl⟩

/-! ## Runs -/

namespace State

variable {s : State} {steps : List (Clock × Step)} {entry : Entry}

/-- The entry was built in a synthesis of the run, of a candidate the context had then. -/
def Builds (s : State) (steps : List (Clock × Step)) (entry : Entry) : Prop :=
  ∃ past clock later candidate, steps = past ++ (clock, .synthesize) :: later ∧
    candidate ∈ (s.after past).context.candidates ∧
    candidate.resolve (s.after past).feed clock = .ok entry

theorem mem_results_step {clock : Clock} {step : Step}
    (member : entry ∈ (s.step clock step).state.context.results) :
    entry ∈ s.context.results ∨ (∃ c, step = .begin c ∧ entry ∈ c.results) ∨
      step = .synthesize ∧ ∃ candidate ∈ s.context.candidates,
        candidate.resolve s.feed clock = .ok entry := by
  cases step with
  | begin c => exact .inr (.inl ⟨c, rfl, member⟩)
  | synthesize =>
    have course := synthesize_course s.context s.feed clock
    simp only [State.step] at member
    generalize s.context.synthesize s.feed clock = outcome at course member
    cases course with
    | completed _ _ resolved =>
      rcases List.mem_append.mp member with old | new
      · exact .inl old
      · exact .inr (.inr ⟨rfl, resolved.exists_candidate new⟩)
    | _ => exact .inl member
  | put id record =>
    simp only [State.step] at member
    split at member <;> exact .inl member
  | _ => exact .inl member

/-- What is among the results came with a context or was built in the run. -/
theorem origin_of_mem_results (member : entry ∈ (s.after steps).context.results) :
    entry ∈ s.context.results ∨
      (∃ timed ∈ steps, ∃ c, timed.2 = .begin c ∧ entry ∈ c.results) ∨ s.Builds steps entry := by
  induction steps generalizing s with
  | nil => exact .inl member
  | cons timed rest ih =>
    obtain ⟨clock, step⟩ := timed
    rw [after_cons] at member
    rcases ih member with before | ⟨timed, found, c, begun, brought⟩ | built
    · rcases mem_results_step before with old | ⟨c, begun, brought⟩ | ⟨rfl, candidate, found, built⟩
      · exact .inl old
      · exact .inr (.inl ⟨_, List.mem_cons_self, c, begun, brought⟩)
      · exact .inr (.inr ⟨[], clock, rest, candidate, rfl, found, built⟩)
    · exact .inr (.inl ⟨timed, List.mem_cons_of_mem _ found, c, begun, brought⟩)
    · obtain ⟨past, clock', later, candidate, rfl, found, built⟩ := built
      refine .inr (.inr ⟨(clock, step) :: past, clock', later, candidate, rfl, ?_, ?_⟩)
      · rwa [after_cons]
      · rwa [after_cons]

end State

/-! ## What is written of an entry -/

/-- What passes through to an entry keeps apart from its fields. -/
theorem Entry.apart_composed (candidate : Candidate) (time : String) (r : Record)
    (words : Option String) : (composed candidate time r words).Apart := by
  intro key field
  exact (get?_passedThrough candidate.remark key).trans (if_pos field)

/-- The entries of a synthesis that succeeds are composed, each of a candidate of the context and of
a description that lacks nothing. -/
theorem Course.exists_composed_of_ok {c : Context} {f : Feed} {clock : Clock} {outcome : Outcome}
    {entries : List Entry} (course : Course c f clock outcome)
    (succeeded : outcome.result = .ok entries) : ∀ entry ∈ entries,
      ∃ candidate ∈ c.candidates, ∃ time r words, r.faultyField = none ∧
        entry = Entry.composed candidate time r words := by
  cases course with
  | idle =>
    cases succeeded
    simp
  | unidentified => cases succeeded
  | completed _ _ resolved =>
    cases succeeded
    intro entry member
    obtain ⟨candidate, found, built⟩ := resolved.exists_candidate member
    obtain ⟨r, words, _, sound, _, composed⟩ := composed_of_entryOf_eq_ok built
    exact ⟨candidate, found, _, r, words, sound, composed⟩
  | refused => cases succeeded

/-- So they keep what the matcher says apart from their fields. -/
theorem Course.apart_of_ok {c : Context} {f : Feed} {clock : Clock} {outcome : Outcome}
    {entries : List Entry} (course : Course c f clock outcome)
    (succeeded : outcome.result = .ok entries) : ∀ entry ∈ entries, entry.Apart := by
  intro entry member
  obtain ⟨candidate, _, time, r, words, _, rfl⟩ :=
    course.exists_composed_of_ok succeeded entry member
  exact Entry.apart_composed candidate time r words

/-- Under a name that is no name of a field stands what the matcher says under it. -/
theorem Entry.lookup_members_composed (candidate : Candidate) (time : String) (r : Record)
    (words : Option String) {key : String} (other : key ∉ fieldNames) :
    (composed candidate time r words).members.lookup key =
      candidate.remark.value.member? key := by
  have passed : (composed candidate time r words).remarks.get? key =
      candidate.remark.members?.bind (·.get? key) :=
    (get?_passedThrough candidate.remark key).trans (if_neg other)
  rw [lookup_members_of_not_mem _ other, passed, Remark.member?_eq]

/-- Every entry that a run reports was composed in one of its syntheses, of a candidate the context
had then and of the description that was fetched for it, and it is written as an object without a
key twice. Under the name of a field stands what was composed for it, and nothing where nothing was:
no inventory identifier of an operating system, and no condition where the matcher gave none. Under
any other key stands what the matcher says of the candidate under it, which is nothing unless it is
an object, and there are no other keys. -/
theorem State.remarks_forge_no_field (s : State) (steps : List (Clock × Step)) (entry : Entry)
    (reported : entry ∈ (s.after steps).context.results) (new : entry ∉ s.context.results)
    (unbrought : ∀ timed ∈ steps, ∀ c, timed.2 = .begin c → entry ∉ c.results) :
    ∃ past clock later, steps = past ++ (clock, .synthesize) :: later ∧
      let context := (s.after past).context
      ∃ id remark r words,
        context.elements.get? id = some remark ∧
        ((s.after past).feed.fetch (clock.fetching id) id).answer = .ok r ∧
        Entry.conditionOf id (context.conditions.get? id) = .ok words ∧
        entry = Entry.composed ⟨id, context.scanner, context.shownItemId, remark,
          context.conditions.get? id⟩ (clock.detected id) r words ∧
        ∃ members, entry.toJson = .object members ∧
          (members.map Prod.fst).Nodup ∧
          entry.fields.map Prod.fst = Entry.fieldNames ∧
          (∀ name ∈ Entry.fieldNames, members.lookup name = (entry.fields.lookup name).join) ∧
          (context.scanner = .os → members.lookup "item_id" = none) ∧
          (context.conditions.get? id = none → members.lookup "condition" = none) ∧
          ∀ key, key ∉ Entry.fieldNames → members.lookup key = remark.value.member? key := by
  rcases origin_of_mem_results reported with old | ⟨timed, found, c, begun, brought⟩ | built
  · exact absurd old new
  · exact absurd brought (unbrought timed found c begun)
  · obtain ⟨past, clock, later, candidate, split, found, built⟩ := built
    obtain ⟨remark, said, told⟩ := Context.eq_of_mem_candidates found
    obtain ⟨r, words, answered, _, described, rfl⟩ := composed_of_entryOf_eq_ok built
    generalize candidate.id = id at said told answered described
    subst told
    have apart := Entry.apart_composed ⟨id, (s.after past).context.scanner,
      (s.after past).context.shownItemId, remark, (s.after past).context.conditions.get? id⟩
      (clock.detected id) r words
    refine ⟨past, clock, later, split, id, remark, r, words, said, answered, described, rfl, _,
      Entry.toJson_eq_object _, Entry.nodup_keys_members apart, Entry.names_fields _,
      fun name field => Entry.lookup_members_of_mem apart field, fun system => ?_, fun absent => ?_,
      fun key other => Entry.lookup_members_composed _ _ _ _ other⟩
    · have hidden : (s.after past).context.shownItemId = none := by
        rw [Context.shownItemId, system]
        rfl
      rw [Entry.lookup_members_of_mem apart (by decide), hidden]
      rfl
    · rw [absent] at described
      cases described
      rw [Entry.lookup_members_of_mem apart (by decide)]
      rfl

/-- What a matcher may say that knows the names of the fields. -/
def impostor : Remark := .ofJson (.object [("severity", .string "none"), ("item_id", .string "x"),
  ("condition", .null), ("feed_source", .string "nvd")])

theorem State.remarks_forge_no_field_impostor :
    ∃ entry ∈ (warm.after
        [(.still "now", .add "CVE-1" impostor), (.still "now", .synthesize)]).context.results,
      ∃ members, entry.toJson = .object members ∧
        members.lookup "severity" = some (.string "High") ∧ members.lookup "item_id" = none ∧
        members.lookup "condition" = none ∧
        members.lookup "feed_source" = some (.string "nvd") := by
  have one : (warm.after
      [(.still "now", .add "CVE-1" impostor), (.still "now", .synthesize)]).context.results.length =
      1 := by decide +kernel
  obtain ⟨entry, only⟩ := List.length_eq_one_iff.mp one
  have reported := only.symm ▸ List.mem_singleton_self entry
  refine ⟨entry, reported, ?_⟩
  obtain ⟨past, clock, later, split, id, remark, r, words, said, answered, _, composed, members,
    written, _, _, fields, hidden, unconditional, passed⟩ :=
    remarks_forge_no_field _ _ entry reported List.not_mem_nil (by simp)
  -- The only synthesis comes after the only candidate was added.
  have before : past = [(.still "now", .add "CVE-1" impostor)] ∧ clock = .still "now" := by
    rcases past with _ | ⟨first, _ | ⟨second, rest⟩⟩
    · cases split
    · cases split
      exact ⟨rfl, rfl⟩
    · simp at split
  obtain ⟨rfl, rfl⟩ := before
  have candidate : id = "CVE-1" ∧ remark = impostor := by
    change (Keyed.empty.insert "CVE-1" impostor).get? id = some remark at said
    rw [Keyed.get?_insert] at said
    split at said
    next same => exact ⟨same, (Option.some.inj said).symm⟩
    next => cases said
  obtain ⟨rfl, rfl⟩ := candidate
  cases answered
  refine ⟨members, written, ?_, hidden rfl, unconditional rfl, ?_⟩
  · have cased : Text.sentenceCase "high" = "High" := by decide +kernel
    rw [fields "severity" (by decide), composed]
    exact congrArg (fun text => some (Json.string text)) cased
  · rw [passed "feed_source" (by decide)]
    rfl

end Findings
