import Findings.Proofs.Run.Transparency

/-!
What is reported of a candidate is told from its own remark, its own match condition and what its
own fetch answers (`Candidate.report`), so nothing passes from one candidate to the next. Reporting
a context is reporting its candidates one by one (`Context.report_eq_some_iff`), whence leaving
candidates out, taking one alone and saying something anew about one of them can all be told from
lists of candidates (`synthesize_union`).
-/

namespace Findings

open Synthesis

/-! ## What a feed answers -/

namespace Feed

/-- What the feed answers to the fetches of a synthesis. -/
def answers (f : Feed) (clock : Clock) (id : String) : Except FeedError Record :=
  (f.fetch (clock.fetching id) id).answer

variable {f g : Feed}

theorem Alike.answers_eq (alike : f.Alike g) (clock clock' : Clock) :
    g.answers clock' = f.answers clock := by
  funext id
  exact (alike.answer_fetch (clock.fetching id) (clock'.fetching id) id).symm

/-- Looking up and sweeping keeps an honest feed honest. -/
theorem Honest.perform (honest : f.Honest) {actions : List Action}
    (unwritten : ∀ id bytes, Action.write id bytes ∉ actions) : f.Alike (f.perform actions) := by
  induction actions generalizing f with
  | nil => exact ⟨rfl, honest, honest⟩
  | cons action rest ih =>
    have further : ∀ id bytes, Action.write id bytes ∉ rest := fun id bytes member =>
      unwritten id bytes (List.mem_cons_of_mem _ member)
    cases action with
    | write id bytes => exact absurd List.mem_cons_self (unwritten id bytes)
    | fetch times id =>
      have later := ih (honest.fetch times id) further
      exact ⟨(f.store_fetch times id).symm.trans later.store, honest, later.right⟩
    | purge now =>
      have later := ih (honest.purge now) further
      exact ⟨later.store, honest, later.right⟩

/-- What is written under one identifier changes no answer under another. -/
theorem answers_of_row_eq {f : Feed} {rows : Keyed (List UInt8)} {k : String}
    (same : rows.get? k = f.store.rows.get? k) (clock : Clock) :
    answers { f with store := { f.store with rows } } clock k = f.answers clock k := by
  have answered : (Store.fetch { f.store with rows } k).1 = (f.store.fetch k).1 := by
    simp only [Store.fetch, Store.fetchMemory, Store.fetchDatabase, same]
  rw [answers, answers, answer_fetch, answer_fetch, answered]
  rfl

end Feed

/-! ## What is reported of one candidate -/

namespace Candidate

variable {candidate : Candidate} {f g : Feed} {clock clock' : Clock} {entry : Entry}

/-- The inventory knows what is scanned, where it has to. -/
def isKnown (candidate : Candidate) : Bool :=
  !candidate.scanner.requiresItemId || candidate.itemId.isSome

/-- What is reported of a candidate but for the time, or nothing where it is refused. -/
def report (candidate : Candidate) (f : Feed) (clock : Clock) : Option Entry :=
  if candidate.isKnown then (candidate.resolve f clock).toOption.map Entry.undated else none

theorem report_of_resolve (known : candidate.isKnown = true)
    (built : candidate.resolve f clock = .ok entry) :
    candidate.report f clock = some entry.undated := by
  rw [report, if_pos known, built]
  rfl

theorem report_of_refused {e : Error} (failed : candidate.resolve f clock = .error e) :
    candidate.report f clock = none := by
  rw [report, failed]
  exact ite_self none

theorem report_eq_of_answers
    (same : g.answers clock' candidate.id = f.answers clock candidate.id) :
    candidate.report g clock' = candidate.report f clock := by
  have answered : (g.fetch (clock'.fetching candidate.id) candidate.id).answer =
      (f.fetch (clock.fetching candidate.id) candidate.id).answer := same
  unfold report resolve
  rw [answered]
  rcases entryOf_undated candidate (clock'.detected candidate.id) (clock.detected candidate.id)
      (f.fetch (clock.fetching candidate.id) candidate.id).answer with
    ⟨e, first, second⟩ | ⟨entry, entry', first, second, undated⟩
  · rw [first, second]
  · have reported : (Except.ok entry : Except Error Entry).toOption.map Entry.undated =
        (Except.ok entry' : Except Error Entry).toOption.map Entry.undated :=
      congrArg some undated
    rw [first, second, reported]

theorem id_of_report (reported : candidate.report f clock = some entry) :
    entry.id = candidate.id := by
  cases result : candidate.resolve f clock with
  | error e => cases (report_of_refused result).symm.trans reported
  | ok built =>
    obtain ⟨_, reported⟩ := Option.ite_none_right_eq_some.mp reported
    rw [result] at reported
    cases reported
    exact (of_resolve_eq_ok result).1

end Candidate

/-- Each candidate is reported by the entry at its place. -/
def Reported (f : Feed) (clock : Clock) (candidates : List Candidate) (entries : List Entry) :
    Prop :=
  List.Forall₂ (fun candidate entry => candidate.report f clock = some entry) candidates entries

namespace Reported

variable {f g : Feed} {clock clock' : Clock} {candidates : List Candidate} {entries : List Entry}

theorem ids (reported : Reported f clock candidates entries) :
    entries.map Entry.id = candidates.map Candidate.id := by
  induction reported with
  | nil => rfl
  | cons here _ ih => rw [List.map_cons, List.map_cons, ih, Candidate.id_of_report here]

theorem unique {others : List Entry} (one : Reported f clock candidates entries)
    (other : Reported f clock candidates others) : entries = others := by
  induction one generalizing others with
  | nil =>
    cases other
    rfl
  | cons here _ ih =>
    cases other with
    | cons here' there' =>
      rw [ih there']
      exact congrArg (· :: _) (Option.some.inj (here.symm.trans here'))

theorem of_resolved {built : List Entry} (resolved : Resolved f clock candidates built)
    (known : ∀ candidate ∈ candidates, candidate.isKnown = true) :
    Reported f clock candidates (built.map Entry.undated) := by
  induction resolved with
  | nil => exact .nil
  | @cons candidate _ rest _ here _ ih =>
    have now := Candidate.report_of_resolve (known candidate List.mem_cons_self) here
    exact .cons now (ih fun other member => known other (List.mem_cons_of_mem _ member))

/-- All candidates are reported if each of them is. -/
theorem exists_iff : (∃ entries, Reported f clock candidates entries) ↔
    ∀ candidate ∈ candidates, (candidate.report f clock).isSome := by
  constructor
  · rintro ⟨entries, reported⟩
    induction reported with
    | nil => exact fun _ member => absurd member List.not_mem_nil
    | @cons first entry _ _ here _ ih =>
      intro candidate member
      rcases List.mem_cons.mp member with rfl | later
      · exact Option.isSome_iff_exists.mpr ⟨entry, here⟩
      · exact ih candidate later
  · intro each
    induction candidates with
    | nil => exact ⟨[], .nil⟩
    | cons candidate rest ih =>
      obtain ⟨entry, here⟩ := Option.isSome_iff_exists.mp (each candidate List.mem_cons_self)
      obtain ⟨entries, reported⟩ := ih fun other member =>
        each other (List.mem_cons_of_mem _ member)
      exact ⟨entry :: entries, .cons here reported⟩

theorem of_answers
    (same : ∀ id ∈ candidates.map Candidate.id, g.answers clock' id = f.answers clock id)
    (reported : Reported f clock candidates entries) : Reported g clock' candidates entries := by
  induction reported with
  | nil => exact .nil
  | @cons candidate _ rest _ here _ ih =>
    have answered := same candidate.id List.mem_cons_self
    exact .cons ((Candidate.report_eq_of_answers answered).trans here)
      (ih fun id member => same id (List.mem_cons_of_mem _ member))

/-- Of fewer candidates fewer entries are reported, and nothing else changes. -/
theorem filter (reported : Reported f clock candidates entries) (keep : String → Bool) :
    Reported f clock (candidates.filter fun candidate => keep candidate.id)
      (entries.filter fun entry => keep entry.id) := by
  induction reported with
  | nil => exact .nil
  | cons here _ ih =>
    rw [List.filter_cons, List.filter_cons, Candidate.id_of_report here]
    split
    · exact .cons here ih
    · exact ih

/-- Entries are those of a list of candidates if they are those of each candidate, one by one. -/
theorem iff_singles : Reported f clock candidates entries ↔ ∃ batches : List (List Entry),
    List.Forall₂ (fun candidate one => Reported f clock [candidate] one) candidates batches ∧
      entries = batches.flatten := by
  constructor
  · intro reported
    induction reported with
    | nil => exact ⟨[], .nil, rfl⟩
    | @cons candidate entry _ _ here _ ih =>
      obtain ⟨batches, singles, rfl⟩ := ih
      exact ⟨[entry] :: batches, .cons (.cons here .nil) singles, rfl⟩
  · rintro ⟨batches, singles, rfl⟩
    induction singles with
    | nil => exact .nil
    | cons one _ ih =>
      cases one with
      | cons here none =>
        cases none
        exact .cons here ih

end Reported

/-! ## What a synthesis reports -/

namespace Context

/-- The context with those of its candidates whose identifiers pass a test. -/
def restrict (c : Context) (keep : String → Bool) : Context :=
  { c with elements := c.elements.filter fun id _ => keep id }

/-- The context with one of its candidates. -/
def only (c : Context) (id : String) : Context := c.restrict (· == id)

/-- What a synthesis reports but for the times, or nothing where it fails. -/
def report (c : Context) (f : Feed) (clock : Clock) : Option (List Entry) :=
  (c.synthesize f clock).result.toOption.map (List.map Entry.undated)

variable {c d : Context} {f g : Feed} {clock clock' : Clock} {batch : List Entry}

theorem candidates_eq_nil_iff : c.candidates = [] ↔ c.elements.keys = [] := by
  rw [← ids_candidates, List.map_eq_nil_iff]

/-- What is scanned is the same for all candidates. -/
theorem isKnown_iff {candidate : Candidate} (member : candidate ∈ c.candidates) :
    candidate.isKnown = true ↔ ¬ c.Unidentified := by
  obtain ⟨e, _, rfl⟩ := List.mem_map.mp member
  unfold Candidate.isKnown Unidentified shownItemId
  rw [← itemId_eq_none_iff]
  cases c.scanner <;> simp [Scanner.requiresItemId, Option.isSome_iff_ne_none]

/-- A context is reported by what is reported of its candidates one by one. -/
theorem report_eq_some_iff :
    c.report f clock = some batch ↔ Reported f clock c.candidates batch := by
  have course := synthesize_course c f clock
  unfold report
  generalize c.synthesize f clock = outcome at course
  cases course with
  | idle vacant =>
    rw [candidates_eq_nil_iff.mpr vacant]
    constructor
    · rintro ⟨⟩
      exact .nil
    · rintro ⟨⟩
      rfl
  | unidentified occupied lacking =>
    constructor
    · rintro ⟨⟩
    -- The synthesis does not look at candidates then, and none of them is known.
    · intro reported
      obtain ⟨candidate, member⟩ :=
        List.exists_mem_of_ne_nil _ (mt candidates_eq_nil_iff.mp occupied)
      have each := Reported.exists_iff.mp ⟨batch, reported⟩ candidate member
      rw [Candidate.report, if_neg (mt (isKnown_iff member).mp (not_not_intro lacking))] at each
      cases each
  | completed occupied identified resolved notes =>
    have built := Reported.of_resolved resolved fun _ member => (isKnown_iff member).mpr identified
    constructor
    · rintro ⟨⟩
      exact built
    · intro reported
      exact congrArg some (built.unique reported)
  | @refused identified before rest candidate entries e split resolved failed notes =>
    constructor
    · rintro ⟨⟩
    · intro reported
      have member : candidate ∈ c.candidates := by
        rw [split]
        exact List.mem_append_right before List.mem_cons_self
      have each := Reported.exists_iff.mp ⟨batch, reported⟩ candidate member
      rw [Candidate.report_of_refused failed] at each
      cases each

theorem isSome_report_iff : (c.report f clock).isSome ↔
    ∀ candidate ∈ c.candidates, (candidate.report f clock).isSome := by
  rw [← Reported.exists_iff, Option.isSome_iff_exists]
  exact exists_congr fun _ => report_eq_some_iff

theorem candidates_restrict (c : Context) (keep : String → Bool) :
    (c.restrict keep).candidates = c.candidates.filter fun candidate => keep candidate.id := by
  unfold candidates candidatesOf
  rw [List.filter_map]
  rfl

theorem keys_restrict (c : Context) (keep : String → Bool) :
    (c.restrict keep).elements.keys = c.elements.keys.filter keep := by
  rw [← ids_candidates, candidates_restrict, ← ids_candidates, List.filter_map]
  rfl

/-- With one candidate left, it is the only one: identifiers are not repeated. -/
theorem candidates_only {candidate : Candidate} (member : candidate ∈ c.candidates) :
    (c.only candidate.id).candidates = [candidate] := by
  have ascending : (c.candidates.map Candidate.id).Pairwise Utf8.Before := by
    rw [c.ids_candidates]
    exact c.elements.keys_ascending
  obtain ⟨before, rest, split⟩ := List.append_of_mem member
  rw [split, List.map_append, List.map_cons] at ascending
  obtain ⟨_, tail, across⟩ := List.pairwise_append.mp ascending
  have left : before.filter (fun other => other.id == candidate.id) = [] :=
    List.filter_eq_nil_iff.mpr fun other earlier same =>
      (across _ (List.mem_map_of_mem earlier) _ List.mem_cons_self).ne (beq_iff_eq.mp same)
  have right : rest.filter (fun other => other.id == candidate.id) = [] :=
    List.filter_eq_nil_iff.mpr fun other later same =>
      ((List.pairwise_cons.mp tail).1 _ (List.mem_map_of_mem later)).ne (beq_iff_eq.mp same).symm
  rw [only, candidates_restrict, split, List.filter_append, left,
    List.filter_cons, if_pos (beq_self_eq_true candidate.id), right]
  rfl

/-- Of fewer candidates fewer entries are reported, and nothing else changes. -/
theorem report_restrict (keep : String → Bool)
    (same : ∀ id ∈ c.elements.keys, g.answers clock' id = f.answers clock id)
    (reported : c.report f clock = some batch) :
    (c.restrict keep).report g clock' = some (batch.filter fun entry => keep entry.id) := by
  rw [← ids_candidates] at same
  rw [report_eq_some_iff, candidates_restrict]
  exact ((report_eq_some_iff.mp reported).of_answers same).filter keep

/-- What is reported is told from the candidates and what their fetches answer. -/
theorem report_congr (candidates : d.candidates = c.candidates)
    (same : ∀ id ∈ c.elements.keys, g.answers clock' id = f.answers clock id) :
    d.report g clock' = c.report f clock := by
  rw [← ids_candidates] at same
  ext batch
  rw [report_eq_some_iff, report_eq_some_iff, candidates]
  exact ⟨.of_answers fun id member => (same id member).symm, .of_answers same⟩

section Singles

variable {feeds : String → Feed} {clocks : String → Clock}
  (same : ∀ id ∈ c.elements.keys, (feeds id).answers (clocks id) id = f.answers clock id)

include same

/-- Alone a candidate is reported as it is among the others. -/
theorem report_only_eq_some_iff {candidate : Candidate} {one : List Entry}
    (member : candidate ∈ c.candidates) :
    (c.only candidate.id).report (feeds candidate.id) (clocks candidate.id) = some one ↔
      Reported f clock [candidate] one := by
  have here : ∀ id ∈ [candidate].map Candidate.id,
      (feeds candidate.id).answers (clocks candidate.id) id = f.answers clock id := by
    intro id single
    cases List.mem_singleton.mp single
    exact same candidate.id (c.ids_candidates ▸ List.mem_map_of_mem member)
  rw [report_eq_some_iff, candidates_only member]
  exact ⟨.of_answers fun id single => (here id single).symm, .of_answers here⟩

theorem isSome_report_iff_only : (c.report f clock).isSome ↔
    ∀ id ∈ c.elements.keys, ((c.only id).report (feeds id) (clocks id)).isSome := by
  have single (candidate : Candidate) (member : candidate ∈ c.candidates) :
      ((c.only candidate.id).report (feeds candidate.id) (clocks candidate.id)).isSome ↔
        (candidate.report f clock).isSome := by
    rw [Option.isSome_iff_exists, exists_congr fun _ => report_only_eq_some_iff same member,
      Reported.exists_iff, List.forall_mem_singleton]
  rw [isSome_report_iff, ← ids_candidates, List.forall_mem_map]
  exact forall₂_congr fun candidate member => (single candidate member).symm

/-- The batch of a context is made of the batches of its candidates, put together in order. -/
theorem report_eq_some_iff_only : c.report f clock = some batch ↔
    ∃ batches : List (List Entry),
      List.Forall₂ (fun id one => (c.only id).report (feeds id) (clocks id) = some one ∧
        one.map Entry.id = [id]) c.elements.keys batches ∧ batch = batches.flatten := by
  rw [report_eq_some_iff, Reported.iff_singles]
  refine exists_congr fun batches => and_congr_left fun _ => ?_
  rw [← ids_candidates, List.forall₂_map_left_iff]
  constructor
  · intro singles
    have located := (List.forall₂_and_left _ _).mpr ⟨fun _ member => member, singles⟩
    exact located.imp fun candidate one ⟨member, reported⟩ =>
      ⟨(report_only_eq_some_iff same member).mpr reported, reported.ids⟩
  · intro singles
    have located := (List.forall₂_and_left _ _).mpr ⟨fun _ member => member, singles⟩
    exact located.imp fun candidate one ⟨member, reported, _⟩ =>
      (report_only_eq_some_iff same member).mp reported

end Singles

/-- Of the match conditions only those of candidates matter. -/
theorem candidatesOf_congr (scanners : d.scanner = c.scanner) (elements : d.elements = c.elements)
    (conditions : ∀ k ∈ c.elements.keys, d.conditions.get? k = c.conditions.get? k)
    (itemId : Option String) : candidatesOf d itemId = candidatesOf c itemId := by
  unfold candidatesOf
  rw [elements]
  refine List.map_congr_left ?_
  rintro ⟨k, remark⟩ member
  have condition := conditions k (List.mem_map_of_mem member)
  simp only [scanners, condition]

theorem synthesize_setCondition {id : String} (stranger : id ∉ c.elements.keys)
    (condition : Condition) : (c.setCondition id condition).synthesize f clock =
      { c.synthesize f clock with
        context := (c.synthesize f clock).context.setCondition id condition } := by
  have candidates (itemId : Option String) :
      candidatesOf (c.setCondition id condition) itemId = candidatesOf c itemId := by
    refine candidatesOf_congr (c := c) (d := c.setCondition id condition) rfl rfl
      (fun k member => ?_) itemId
    exact Keyed.get?_insert_of_ne condition fun same => stranger (same ▸ member)
  have items : itemIdOf (c.setCondition id condition) = itemIdOf c := rfl
  have elements : (c.setCondition id condition).elements = c.elements := rfl
  have agents : (c.setCondition id condition).agent = c.agent := rfl
  unfold synthesize
  rw [items, elements, agents]
  by_cases vacant : c.elements.isEmpty = true
  · rw [if_pos vacant, if_pos vacant]
  · rw [if_neg vacant, if_neg vacant]
    cases itemIdOf c with
    | error e => rfl
    | ok itemId =>
      simp only [candidates]
      cases (resolveAll c.agent.id clock (candidatesOf c itemId) f).failure with
      | some failure => rfl
      | none => rfl

end Context

/-! ## What is done under one identifier -/

/-- What may be said anew under an identifier; where nothing is said, what was said before is taken
away. -/
inductive Amendment where
  | remark (said : Option Remark)
  | condition (said : Option Condition)
  | record (said : Option (List UInt8))

namespace Amendment

/-- The context with what is said anew. -/
def inContext (c : Context) (id : String) : Amendment → Context
  | remark (some said) => c.add id said
  | remark none => c.remove id
  | condition (some said) => c.setCondition id said
  | condition none => { c with conditions := c.conditions.erase id }
  | record _ => c

/-- The feed with what is said anew. -/
def inFeed (f : Feed) (id : String) : Amendment → Feed
  | remark _ | condition _ => f
  | record (some said) => { f with store := f.store.putRaw id said }
  | record none => { f with store := { f.store with rows := f.store.rows.erase id } }

variable {c : Context} {f : Feed} {id k : String}

theorem scanner_inContext (amendment : Amendment) :
    (amendment.inContext c id).scanner = c.scanner := by
  rcases amendment with (_ | _) | (_ | _) | _ <;> rfl

theorem payload_inContext (amendment : Amendment) :
    (amendment.inContext c id).payload = c.payload := by
  rcases amendment with (_ | _) | (_ | _) | _ <;> rfl

theorem element_inContext (amendment : Amendment) (different : k ≠ id) :
    (amendment.inContext c id).elements.get? k = c.elements.get? k := by
  rcases amendment with (_ | said) | (_ | _) | _
  · exact Keyed.get?_erase_of_ne different
  · exact Keyed.get?_insert_of_ne said different
  all_goals rfl

theorem condition_inContext (amendment : Amendment) (different : k ≠ id) :
    (amendment.inContext c id).conditions.get? k = c.conditions.get? k := by
  rcases amendment with (_ | _) | (_ | said) | _
  · rfl
  · rfl
  · exact Keyed.get?_erase_of_ne different
  · exact Keyed.get?_insert_of_ne said different
  · rfl

theorem answers_inFeed (amendment : Amendment) (different : k ≠ id) (clock : Clock) :
    (amendment.inFeed f id).answers clock k = f.answers clock k := by
  rcases amendment with _ | _ | (_ | said)
  · rfl
  · rfl
  · exact Feed.answers_of_row_eq (Keyed.get?_erase_of_ne different) clock
  · exact Feed.answers_of_row_eq (Keyed.get?_insert_of_ne said different) clock

variable {keep : String → Bool}

theorem ne_of_dropped (dropped : keep id = false) (kept : keep k = true) : k ≠ id := by
  rintro rfl
  cases dropped.symm.trans kept

theorem elements_inContext (amendment : Amendment) (dropped : keep id = false) :
    ((amendment.inContext c id).restrict keep).elements = (c.restrict keep).elements := by
  apply Keyed.ext_get?
  intro k
  unfold Context.restrict
  rw [Keyed.get?_filter, Keyed.get?_filter]
  cases kept : keep k with
  | true => rw [amendment.element_inContext (ne_of_dropped dropped kept)]
  | false =>
    have gone (said : Option Remark) : said.filter (fun _ => false) = none :=
      Option.filter_eq_none_iff.mpr fun _ _ => Bool.false_ne_true
    rw [gone, gone]

/-- The other candidates are what they were. -/
theorem candidates_inContext (amendment : Amendment) (dropped : keep id = false) :
    ((amendment.inContext c id).restrict keep).candidates = (c.restrict keep).candidates := by
  have items : ((amendment.inContext c id).restrict keep).shownItemId =
      (c.restrict keep).shownItemId := by
    unfold Context.shownItemId Context.itemId Context.restrict
    rw [amendment.scanner_inContext, amendment.payload_inContext]
  unfold Context.candidates
  rw [items]
  refine Context.candidatesOf_congr (c := c.restrict keep)
    (d := (amendment.inContext c id).restrict keep) amendment.scanner_inContext
    (amendment.elements_inContext dropped) (fun k member => ?_) _
  rw [Context.keys_restrict] at member
  exact amendment.condition_inContext (ne_of_dropped dropped (List.mem_filter.mp member).2)

end Amendment

/-- Where the identifier is left out, nothing is reported otherwise. -/
theorem Amendment.report_restrict {c : Context} {f g : Feed} {clock clock' : Clock} {id : String}
    (amendment : Amendment) (keep : String → Bool) (dropped : keep id = false)
    (same : ∀ k ≠ id, g.answers clock' k = f.answers clock k) :
    ((amendment.inContext c id).restrict keep).report (amendment.inFeed g id) clock' =
      (c.restrict keep).report f clock := by
  refine Context.report_congr (amendment.candidates_inContext dropped) fun k member => ?_
  rw [Context.keys_restrict] at member
  have different := ne_of_dropped dropped (List.mem_filter.mp member).2
  rw [amendment.answers_inFeed different, same k different]

/-- A batch is the ordered union of what its candidates come to one by one. While nothing is written
to the store, its descriptions are answered alike at any time and behind any cache, and then it does
not matter when the single candidates are reported, nor through which feed: all candidates of a
context are reported exactly when each is on its own, and the batch is made of their batches of one
entry, put together in ascending order. Of fewer candidates the same batch is reported without the
entries of those left out. Saying anew what one identifier has for a remark, a match condition or a
stored description changes the entry of no other. A match condition of what is no candidate changes
nothing at all: it only stays in the context. -/
theorem synthesize_union (c : Context) (f : Feed) (clock : Clock) :
    (f.Honest → ∀ actions : List Action, (∀ id bytes, Action.write id bytes ∉ actions) →
      ∀ clock', (f.perform actions).answers clock' = f.answers clock) ∧
    (∀ (feeds : String → Feed) (clocks : String → Clock),
      (∀ id ∈ c.elements.keys, (feeds id).answers (clocks id) id = f.answers clock id) →
      ((c.report f clock).isSome ↔
        ∀ id ∈ c.elements.keys, ((c.only id).report (feeds id) (clocks id)).isSome) ∧
      ∀ batch, c.report f clock = some batch ↔ ∃ batches : List (List Entry),
        List.Forall₂ (fun id one => (c.only id).report (feeds id) (clocks id) = some one ∧
          one.map Entry.id = [id]) c.elements.keys batches ∧ batch = batches.flatten) ∧
    (∀ (g : Feed) (clock' : Clock),
      (∀ id ∈ c.elements.keys, g.answers clock' id = f.answers clock id) →
      ∀ (keep : String → Bool) (batch : List Entry), c.report f clock = some batch →
        (c.restrict keep).report g clock' = some (batch.filter fun entry => keep entry.id)) ∧
    (∀ (id : String) (amendment : Amendment) (g : Feed) (clock' : Clock),
      (∀ k ≠ id, g.answers clock' k = f.answers clock k) →
      (∀ k ≠ id, ((amendment.inContext c id).only k).report (amendment.inFeed g id) clock' =
        (c.only k).report f clock) ∧
      ∀ batch batch', c.report f clock = some batch →
        (amendment.inContext c id).report (amendment.inFeed g id) clock' = some batch' →
        (batch'.filter fun entry => entry.id ≠ id) = batch.filter fun entry => entry.id ≠ id) ∧
    (∀ id ∉ c.elements.keys, ∀ condition : Condition,
      (c.setCondition id condition).synthesize f clock =
        { c.synthesize f clock with
          context := (c.synthesize f clock).context.setCondition id condition }) := by
  refine ⟨fun honest actions unwritten clock' => ?_, fun feeds clocks same => ?_,
    fun g clock' same keep batch reported => ?_, fun id amendment g clock' same => ?_,
    fun id stranger condition => ?_⟩
  · exact (honest.perform unwritten).answers_eq clock clock'
  · exact ⟨Context.isSome_report_iff_only same, fun batch => Context.report_eq_some_iff_only same⟩
  · exact Context.report_restrict keep same reported
  · refine ⟨fun k different => ?_, fun batch batch' before after => ?_⟩
    · exact amendment.report_restrict (· == k) (beq_false_of_ne different.symm) same
    · have others := amendment.report_restrict (c := c) (fun k => decide (k ≠ id))
        (decide_eq_false (not_not_intro rfl)) same
      rw [Context.report_restrict _ (fun _ _ => rfl) before,
        Context.report_restrict _ (fun _ _ => rfl) after] at others
      exact Option.some.inj others
  · exact Context.synthesize_setCondition stranger condition

/-- An operating system with three candidates, the last of them under a condition. -/
def Context.triple : Context where
  scanner := .os
  elements := .ofList [("CVE-1", .null), ("CVE-2", .null), ("CVE-3", .null)]
  conditions := .ofList [("CVE-3", { version := "1.5", operator := .lessThan })]

/-- A feed with descriptions of these candidates that differ in what they say of the severity. -/
def Feed.describing : Feed where
  store := {
    backing := .memory
    rows := .ofList ([("CVE-1", "high"), ("CVE-2", "low"), ("CVE-3", "none")].map fun (id, word) =>
      (id, (Record.encode {
        classification := some "c", description := some "d", reference := some "r",
        datePublished := some "p", scoreVersion := some "3.1",
        severity := some word }).toOption.getD [])) }

/-- Three candidates are reported at once, alone at another time, and without the second of them. -/
theorem synthesize_union_triple :
    ∃ first second third : Entry,
      [first, second, third].map (fun entry => (entry.id, entry.severity, entry.condition)) =
        [("CVE-1", "High", none), ("CVE-2", "Low", none),
          ("CVE-3", "None", some "Package less than 1.5")] ∧
      Context.triple.report .describing (.still "now") = some [first, second, third] ∧
      (Context.triple.only "CVE-1").report .describing (.still "later") = some [first] ∧
      (Context.triple.only "CVE-2").report .describing (.still "later") = some [second] ∧
      (Context.triple.only "CVE-3").report .describing (.still "later") = some [third] ∧
      (Context.triple.restrict (· != "CVE-2")).report .describing (.still "later") =
        some [first, third] := by
  have shown : (Context.triple.report .describing (.still "now")).map
      (List.map fun entry => (entry.id, entry.severity, entry.condition)) =
        some [("CVE-1", "High", none), ("CVE-2", "Low", none),
          ("CVE-3", "None", some "Package less than 1.5")] := by
    decide +kernel
  obtain ⟨batch, reported, spelled⟩ := Option.map_eq_some_iff.mp shown
  obtain ⟨-, singly, fewer, -⟩ := synthesize_union .triple .describing (.still "now")
  have apart := singly (fun _ => .describing) (fun _ => .still "later") fun _ _ => rfl
  obtain ⟨batches, singles, joined⟩ := (apart.2 batch).mp reported
  have without := fewer .describing (.still "later") (fun _ _ => rfl) (· != "CVE-2") batch reported
  have keys : Context.triple.elements.keys = ["CVE-1", "CVE-2", "CVE-3"] := by decide +kernel
  rw [keys] at singles
  rcases singles with _ | ⟨⟨alone₁, ids₁⟩, _ | ⟨⟨alone₂, ids₂⟩, _ | ⟨⟨alone₃, ids₃⟩, _ | _⟩⟩⟩
  obtain ⟨first, rfl, id₁⟩ := List.map_eq_singleton_iff.mp ids₁
  obtain ⟨second, rfl, id₂⟩ := List.map_eq_singleton_iff.mp ids₂
  obtain ⟨third, rfl, id₃⟩ := List.map_eq_singleton_iff.mp ids₃
  subst joined
  refine ⟨first, second, third, spelled, reported, alone₁, alone₂, alone₃, without.trans ?_⟩
  simp [id₁, id₂, id₃]

end Findings
