import Findings.Proofs.Synthesis.Course
import Findings.Run

/-!
The results of a context over a run. Every synthesis reports all candidates or none, and nothing
else touches the results, so at every point of a run they are what the context came with and then
the batches of the syntheses that succeeded (`State.walk_appends_whole_batches`).
-/

namespace Findings

/-! ## One synthesis -/

/-- A synthesis that fails leaves the context as it was. -/
theorem Course.context_eq_of_error {c : Context} {f : Feed} {clock : Clock} {outcome : Outcome}
    {e : Error} (course : Course c f clock outcome) (failed : outcome.result = .error e) :
    outcome.context = c := by
  cases course with
  | idle => rfl
  | unidentified => rfl
  | completed => cases failed
  | refused => rfl

/-- A synthesis that succeeds appends its batch, and the batch has the candidates in their order. -/
theorem Course.context_eq_of_ok {c : Context} {f : Feed} {clock : Clock} {outcome : Outcome}
    {batch : List Entry} (course : Course c f clock outcome)
    (succeeded : outcome.result = .ok batch) :
    outcome.context = { c with results := c.results ++ batch } ∧
      batch.map Entry.id = c.elements.keys := by
  cases course with
  | idle vacant =>
    cases succeeded
    rw [List.append_nil, vacant]
    exact ⟨rfl, rfl⟩
  | unidentified => cases succeeded
  | completed _ _ resolved =>
    cases succeeded
    exact ⟨rfl, resolved.ids.trans c.ids_candidates⟩
  | refused => cases succeeded

/-! ## Runs -/

/-- The batch of a synthesis that succeeded. -/
def Step.batch? : Step → Except Error Reply → Option (List Entry)
  | .synthesize, .ok (.entries batch) => some batch
  | _, _ => none

namespace State

/-- Where a run ends. -/
def after (s : State) (steps : List (Clock × Step)) : State :=
  ((s.walk steps).getLast?.map Effect.state).getD s

theorem after_nil (s : State) : s.after [] = s := rfl

theorem after_cons (s : State) (clock : Clock) (step : Step) (rest : List (Clock × Step)) :
    s.after ((clock, step) :: rest) = (s.step clock step).state.after rest := by
  unfold after
  rw [walk, List.getLast?_cons]
  cases (((s.step clock step).state.walk rest).getLast?) <;> rfl

/-- The batches of the syntheses that succeed in a run, in the order of the calls. -/
def batches (s : State) (steps : List (Clock × Step)) : List (List Entry) :=
  (steps.zip (s.walk steps)).filterMap fun (timed, effect) => timed.2.batch? effect.result

theorem batches_cons (s : State) (clock : Clock) (step : Step) (rest : List (Clock × Step)) :
    s.batches ((clock, step) :: rest) =
      (step.batch? (s.step clock step).result).toList ++
        (s.step clock step).state.batches rest := by
  unfold batches
  rw [walk, List.zip_cons_cons, List.filterMap_cons]
  dsimp only
  cases step.batch? (s.step clock step).result <;> rfl

/-- A step that does not begin another context appends the batch of a synthesis that succeeds, and
leaves the results alone otherwise. -/
theorem results_step {s : State} {clock : Clock} {step : Step}
    (kept : ∀ context, step ≠ .begin context) :
    (s.step clock step).state.context.results =
      s.context.results ++ (step.batch? (s.step clock step).result).toList.flatten := by
  cases step with
  | begin context => exact absurd rfl (kept context)
  | synthesize =>
    have course := synthesize_course s.context s.feed clock
    simp only [State.step]
    cases result : (s.context.synthesize s.feed clock).result with
    | error e =>
      rw [course.context_eq_of_error result]
      exact (List.append_nil _).symm
    | ok batch =>
      rw [(course.context_eq_of_ok result).1]
      simp [Except.map, Step.batch?]
  | put id record =>
    simp only [State.step]
    cases s.feed.store.put id record <;> exact (List.append_nil _).symm
  | _ => exact (List.append_nil _).symm

theorem results_after {s : State} {steps : List (Clock × Step)}
    (kept : ∀ timed ∈ steps, ∀ context, timed.2 ≠ .begin context) :
    (s.after steps).context.results = s.context.results ++ (s.batches steps).flatten := by
  induction steps generalizing s with
  | nil => exact (List.append_nil _).symm
  | cons timed rest ih =>
    obtain ⟨clock, step⟩ := timed
    rw [after_cons, ih fun later member => kept later (List.mem_cons_of_mem _ member),
      results_step (kept _ List.mem_cons_self), batches_cons, List.flatten_append,
      List.append_assoc]

/-- At every point of a run on one context the results are those the context came with and then, in
the order of the calls, the batches of the syntheses that succeeded. A call that fails leaves the
context as it was; a call that succeeds changes nothing in it but the results, and its batch has
one entry for each candidate, in strictly ascending order of the identifiers. -/
theorem walk_appends_whole_batches (s : State) (steps : List (Clock × Step))
    (kept : ∀ timed ∈ steps, ∀ context, timed.2 ≠ .begin context) :
    (s.after steps).context.results = s.context.results ++ (s.batches steps).flatten ∧
      ∀ clock : Clock,
        let before := (s.after steps).context
        let call := (s.after steps).step clock .synthesize
        (∀ e, call.result = .error e → call.state.context = before) ∧
          ∀ reply, call.result = .ok reply → ∃ batch, reply = .entries batch ∧
            call.state.context = { before with results := before.results ++ batch } ∧
            batch.map Entry.id = before.elements.keys ∧
            (batch.map Entry.id).Pairwise Utf8.Before := by
  refine ⟨results_after kept, fun clock => ?_⟩
  have course := synthesize_course (s.after steps).context (s.after steps).feed clock
  dsimp only [State.step]
  cases result : ((s.after steps).context.synthesize (s.after steps).feed clock).result with
  | error e => exact ⟨fun _ _ => course.context_eq_of_error result, fun _ equal => (by cases equal)⟩
  | ok batch =>
    obtain ⟨appended, ids⟩ := course.context_eq_of_ok result
    refine ⟨fun _ equal => (by cases equal), fun reply equal => ?_⟩
    cases equal
    exact ⟨batch, rfl, appended, ids, ids ▸ Keyed.keys_ascending _⟩

/-- An operating system is scanned, and one description is cached. -/
def warm : State where
  context := { scanner := .os }
  feed := {
    store := { backing := .memory }
    cache := some { lifetime := .ofSeconds 300, entries := Keyed.empty.insert "CVE-1" ⟨{
      classification := some "c", description := some "d", reference := some "r",
      datePublished := some "p", scoreVersion := some "3.1", severity := some "high" }, 0⟩ } }

/-- Two syntheses succeed, and one between them fails at its second candidate. -/
def interrupted : List (Clock × Step) :=
  [.add "CVE-1" .null, .synthesize, .add "CVE-2" .null, .synthesize, .remove "CVE-2",
    .synthesize].map fun step => (.still "now", step)

theorem walk_appends_whole_batches_interrupted :
    (∀ timed ∈ interrupted, ∀ context, timed.2 ≠ .begin context) ∧
      (warm.after interrupted).context.results = (warm.batches interrupted).flatten ∧
      (warm.batches interrupted).map (List.map Entry.id) = [["CVE-1"], ["CVE-1"]] := by
  have kept : ∀ timed ∈ interrupted, ∀ context, timed.2 ≠ .begin context := by
    simp [interrupted]
  exact ⟨kept, (walk_appends_whole_batches warm interrupted kept).1, by decide +kernel⟩

end State

end Findings
