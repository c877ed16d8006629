import Findings.Proofs.Synthesis.Course

/-!
Which fault decides a synthesis. A package without an inventory identifier is refused before any
candidate is looked up; otherwise the least candidate that is refused decides, whatever is wrong
with greater ones (`synthesize_first_fault`), and greater ones are not even fetched.
-/

namespace Findings

open Synthesis

/-- Why a candidate of a context is refused when its turn comes to be fetched, told from the feed
as it stands before any other is. -/
def Context.refusalOf (c : Context) (f : Feed) (clock : Clock) (id : String) : Option Error :=
  refusal id (c.conditions.get? id) (f.fetch (clock.fetching id) id).answer

theorem Context.refusal_of_mem_candidates {c : Context} {candidate : Candidate} (f : Feed)
    (clock : Clock) (member : candidate ∈ c.candidates) :
    candidate.refusal f clock = c.refusalOf f clock candidate.id := by
  rw [Candidate.refusal, condition_of_mem_candidates member, refusalOf]

/-- The refused candidate of a walk, among the keys of the context. -/
theorem Context.keys_of_split {c : Context} {before rest : List Candidate} {candidate : Candidate}
    (split : c.candidates = before ++ candidate :: rest) :
    c.elements.keys = before.map Candidate.id ++ candidate.id :: rest.map Candidate.id := by
  rw [← c.ids_candidates, split, List.map_append, List.map_cons]

/-! ## The least candidate that is refused -/

/-- The least candidate of a context that is refused, with the reason. -/
structure LeastRefused (c : Context) (f : Feed) (clock : Clock) (id : String) (e : Error) :
    Prop where
  mem : id ∈ c.elements.keys
  refused : c.refusalOf f clock id = some e
  least : ∀ k ∈ c.elements.keys, Utf8.Before k id → c.refusalOf f clock k = none

theorem LeastRefused.unique {c : Context} {f : Feed} {clock : Clock} {id k : String}
    {e e' : Error} (one : LeastRefused c f clock id e) (other : LeastRefused c f clock k e') :
    id = k ∧ e = e' := by
  have same : id = k := by
    by_contra different
    by_cases order : Utf8.Before id k
    · cases (other.least id one.mem order).symm.trans one.refused
    · have order := Utf8.before_of_not_before different order
      cases (one.least k other.mem order).symm.trans other.refused
  subst same
  exact ⟨rfl, Option.some.inj (one.refused.symm.trans other.refused)⟩

theorem Resolved.refusalOf_eq_none {c : Context} {f : Feed} {clock : Clock}
    {candidates : List Candidate} {entries : List Entry}
    (resolved : Resolved f clock candidates entries) (among : candidates ⊆ c.candidates) :
    ∀ id ∈ candidates.map Candidate.id, c.refusalOf f clock id = none := by
  intro id member
  obtain ⟨candidate, found, rfl⟩ := List.mem_map.mp member
  rw [← Context.refusal_of_mem_candidates f clock (among found)]
  exact resolved.refusal_eq_none candidate found

/-- The candidate at which a walk ends is the least that is refused. -/
theorem leastRefused_of_split {c : Context} {f : Feed} {clock : Clock}
    {before rest : List Candidate} {candidate : Candidate} {entries : List Entry} {e : Error}
    (split : c.candidates = before ++ candidate :: rest)
    (resolved : Resolved f clock before entries)
    (failed : candidate.resolve f clock = .error e) : LeastRefused c f clock candidate.id e := by
  have ascending := c.elements.keys_ascending
  have found : candidate ∈ c.candidates := by
    rw [split]
    exact List.mem_append_right _ List.mem_cons_self
  have among : before ⊆ c.candidates := by
    rw [split]
    exact List.subset_append_left _ _
  refine ⟨?_, ?_, fun k member order => ?_⟩
  · rw [← c.ids_candidates]
    exact List.mem_map_of_mem found
  · rw [← Context.refusal_of_mem_candidates f clock found]
    exact Candidate.refusal_of_resolve_eq_error failed
  · rw [Context.keys_of_split split] at ascending member
    exact resolved.refusalOf_eq_none among k (Utf8.mem_left_of_before ascending member order)

/-! ## Effects on the feed -/

/-- The events of the feed, told by the candidates that came to entries. -/
theorem Resolved.flatMap_events {f : Feed} {clock : Clock} {candidates : List Candidate}
    {entries : List Entry} (resolved : Resolved f clock candidates entries) :
    (entries.flatMap fun entry => (f.fetch (clock.fetching entry.id) entry.id).events) =
      (candidates.map Candidate.id).flatMap fun id => (f.fetch (clock.fetching id) id).events := by
  rw [← resolved.ids, List.flatMap_map]

/-- What is fetched leaves no trace of what is not: no event tells of it, and what the cache holds
of it stays, unless its life is over. -/
theorem untouched_of_before {f : Feed} {clock : Clock} {fetched : List String} {k : String}
    (earlier : ∀ id ∈ fetched, Utf8.Before id k) :
    (∀ event ∈ fetched.flatMap fun id => (f.fetch (clock.fetching id) id).events, event.id ≠ k) ∧
      ((f.after clock.fetching fetched).held k = f.held k ∨
        f.Expired (clock.fetching k).asked k ∧
          (f.after clock.fetching fetched).held k = none) := by
  refine ⟨fun event told => ?_, (f.spares_after (clock.overBefore earlier)).held_cases⟩
  obtain ⟨id, member, told⟩ := List.mem_flatMap.mp told
  rw [Feed.id_of_mem_events told]
  exact (earlier id member).ne

/-! ## The first fault decides -/

/-- Without candidates a synthesis succeeds and touches nothing, whatever its item is. A package
without an inventory identifier is refused before anything is fetched. Otherwise the synthesis
succeeds exactly when no candidate is refused, and its error is that of the least candidate that
is; what was fetched then are the candidates up to that one, in order, so no event of the feed shows
a greater one, and the cache holds what it held of it, unless that entry's life is over when its
turn would come and a sweep drops it. -/
theorem synthesize_first_fault (c : Context) (f : Feed) (clock : Clock) :
    let outcome := c.synthesize f clock
    let ids := c.elements.keys
    (ids = [] → outcome.result = .ok [] ∧ outcome.context = c ∧ outcome.feed = f ∧
      outcome.messages = []) ∧
    (ids ≠ [] → c.Unidentified →
      outcome.result = .error (.scan (.invalidPayload "package item id is empty")) ∧
      outcome.feed = f ∧ feedEvents outcome.messages = []) ∧
    (ids ≠ [] → ¬ c.Unidentified →
      ((∃ batch, outcome.result = .ok batch) ↔ ∀ id ∈ ids, c.refusalOf f clock id = none) ∧
      (∀ e, outcome.result = .error e ↔ ∃ id, LeastRefused c f clock id e) ∧
      ∀ id e, LeastRefused c f clock id e →
        let fetched := ids.filter fun k => ¬ Utf8.Before id k
        outcome.feed = f.after clock.fetching fetched ∧
        (feedEvents outcome.messages =
          fetched.flatMap fun k => (f.fetch (clock.fetching k) k).events) ∧
        ∀ k, Utf8.Before id k →
          (∀ event ∈ feedEvents outcome.messages, event.id ≠ k) ∧
          (outcome.feed.held k = f.held k ∨
            f.Expired (clock.fetching k).asked k ∧ outcome.feed.held k = none)) := by
  dsimp only
  have course := synthesize_course c f clock
  generalize c.synthesize f clock = outcome at course
  cases course with
  | idle vacant =>
    exact ⟨fun _ => ⟨rfl, rfl, rfl, rfl⟩, fun occupied => absurd vacant occupied,
      fun occupied => absurd vacant occupied⟩
  | unidentified occupied lacking =>
    exact ⟨fun vacant => absurd vacant occupied, fun _ _ => ⟨rfl, rfl, rfl⟩,
      fun _ identified => absurd lacking identified⟩
  | completed occupied identified resolved =>
    have sound : ∀ id ∈ c.elements.keys, c.refusalOf f clock id = none := by
      rw [← c.ids_candidates]
      exact resolved.refusalOf_eq_none (List.Subset.refl _)
    have nowhere (id : String) (e : Error) : ¬ LeastRefused c f clock id e := by
      intro first
      cases (sound id first.mem).symm.trans first.refused
    refine ⟨fun vacant => absurd vacant occupied, fun _ lacking => absurd lacking identified,
      fun _ _ => ⟨⟨fun _ => sound, fun _ => ⟨_, rfl⟩⟩, fun e => ⟨fun failed => ?_, ?_⟩, ?_⟩⟩
    · cases failed
    · rintro ⟨id, first⟩
      exact absurd first (nowhere id e)
    · exact fun id e first => absurd first (nowhere id e)
  | @refused identified before rest candidate entries e split resolved failed =>
    have first := leastRefused_of_split split resolved failed
    have occupied : c.elements.keys ≠ [] := List.ne_nil_of_mem first.mem
    refine ⟨fun vacant => absurd vacant occupied, fun _ lacking => absurd lacking identified,
      fun _ _ => ⟨⟨fun ⟨_, equal⟩ => (by cases equal), fun sound => ?_⟩, fun e' => ⟨?_, ?_⟩,
        fun id e' other => ?_⟩⟩
    · cases (sound _ first.mem).symm.trans first.refused
    · rintro ⟨⟩
      exact ⟨candidate.id, first⟩
    · rintro ⟨id, other⟩
      rw [(first.unique other).2]
    · obtain ⟨rfl, rfl⟩ := first.unique other
      have ascending := c.elements.keys_ascending
      rw [Context.keys_of_split split] at ascending ⊢
      have told (closing : ScanEvent) :
          feedEvents (telling c f clock entries
            (f.fetch (clock.fetching candidate.id) candidate.id).events closing) =
          (before.map Candidate.id ++ [candidate.id]).flatMap fun k =>
            (f.fetch (clock.fetching k) k).events := by
        rw [feedEvents_telling, resolved.flatMap_events, List.flatMap_append,
          List.flatMap_singleton]
      rw [Utf8.filter_not_after_eq_left ascending, told]
      refine ⟨rfl, rfl, fun k later => untouched_of_before fun id member => ?_⟩
      rcases List.mem_append.mp member with left | same
      · have across := (List.pairwise_append.mp ascending).2.2
        exact (across id left _ List.mem_cons_self).trans later
      · rw [List.mem_singleton.mp same]
        exact later

end Findings
