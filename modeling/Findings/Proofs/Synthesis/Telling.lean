import Findings.Proofs.Synthesis.FirstFault

/-!
What a synthesis tells. The scan events of a call follow one grammar, and the event that closes
them agrees with what the call answers (`synthesize_telling`): an opening, an event for each entry
that was built, and one closing event. What the feed tells stands in front of the event of the
candidate that was fetched.
-/

namespace Findings

open Synthesis

/-- Scan messages are tied to the agent, feed messages to nothing. -/
def Message.TiedTo (agent : String) (m : Message) : Prop :=
  match m.event with
  | .scan _ => m.correlation = some agent
  | .feed _ => m.correlation = none

/-- A scan message is tied to the agent it is said for. -/
theorem tiedTo_say (agent : String) (event : ScanEvent) : (say agent event).TiedTo agent := rfl

theorem tiedTo_pass (agent : String) (event : FeedEvent) :
    (Synthesis.pass event).TiedTo agent := rfl

theorem tiedTo_of_mem_map_pass {agent : String} {events : List FeedEvent} :
    ∀ m ∈ events.map Synthesis.pass, m.TiedTo agent := by
  intro m member
  obtain ⟨event, _, rfl⟩ := List.mem_map.mp member
  exact tiedTo_pass agent event

/-- In an account the messages of the feed and those of the scan each have their own tie. -/
theorem tiedTo_of_mem_account {agent : String} {f : Feed} {clock : Clock} {entries : List Entry} :
    ∀ m ∈ account agent f clock entries, m.TiedTo agent := by
  intro m member
  obtain ⟨entry, _, member⟩ := List.mem_flatMap.mp member
  rcases List.mem_append.mp member with fetched | emitted
  · exact tiedTo_of_mem_map_pass m fetched
  · rw [List.mem_singleton.mp emitted]
    exact tiedTo_say agent _

/-- All that a synthesis tells is tied as it should be. -/
theorem tiedTo_of_mem_telling {c : Context} {f : Feed} {clock : Clock} {built : List Entry}
    {last : List FeedEvent} {closing : ScanEvent} :
    ∀ m ∈ telling c f clock built last closing, m.TiedTo c.agent.id := by
  intro m member
  rcases List.mem_cons.mp member with rfl | member
  · exact tiedTo_say c.agent.id _
  rcases List.mem_append.mp member with emitted | member
  · exact tiedTo_of_mem_account m emitted
  rcases List.mem_append.mp member with fetched | closed
  · exact tiedTo_of_mem_map_pass m fetched
  · rw [List.mem_singleton.mp closed]
    exact tiedTo_say c.agent.id _

/-- The event that closes a synthesis, with the entries that were built before it and what the
feed told last, as they follow from what the synthesis answers. -/
inductive Closing (c : Context) (f : Feed) (clock : Clock) (outcome : Outcome) :
    List Entry → List FeedEvent → ScanEvent → Prop
  /-- Every candidate has its entry, and the entries are appended. -/
  | completed {batch : List Entry} (answer : outcome.result = .ok batch)
    (ids : batch.map Entry.id = c.elements.keys) (count : batch.length = c.elements.size)
    (appended : outcome.context.results = c.results ++ batch) :
    Closing c f clock outcome batch [] (.completed c.agent.id (UInt64.ofNat batch.length))
  /-- The item is not known to the inventory, and no entry was built. -/
  | unidentified (lacking : c.Unidentified) (answer : outcome.result = .error unidentifiedError) :
    Closing c f clock outcome [] [] (.failed c.agent.id none (.ofError unidentifiedError))
  /-- A candidate is refused, and exactly those that come before it have their entries. -/
  | refused {built : List Entry} {id : String} {e : Error} (answer : outcome.result = .error e)
    (first : LeastRefused c f clock id e)
    (ids : built.map Entry.id = c.elements.keys.filter fun k => Utf8.Before k id) :
    Closing c f clock outcome built (f.fetch (clock.fetching id) id).events
      (.failed c.agent.id (some id) (.ofError e))

/-- Candidates that came to entries are the first of the context, as many as there are entries. -/
theorem Resolved.take_length {c : Context} {f : Feed} {clock : Clock} {before rest : List Candidate}
    {entries : List Entry} (resolved : Resolved f clock before entries)
    (split : c.candidates = before ++ rest) :
    Resolved f clock (c.candidates.take entries.length) entries := by
  rw [split, ← List.Forall₂.length_eq resolved, List.take_left]
  exact resolved

/-- The messages of a synthesis, where somebody receives them, follow one grammar. Scan messages
are tied to the agent. There are no messages without candidates; otherwise an opening event with
the number of candidates comes first, then an event for each candidate that was resolved, in
ascending order and with the severity of its entry, and last one closing event: a completion with
the number of appended entries exactly when the synthesis succeeds, and a failure exactly when it
fails, with the first candidate that failed and with the very error that is answered. The events of
the feed stand before those of the candidate they are about. -/
theorem synthesize_telling (c : Context) (f : Feed) (clock : Clock) :
    let outcome := c.synthesize f clock
    let told := Channel.received.deliver outcome.messages
    (∀ m ∈ told, m.TiedTo c.agent.id) ∧
    (c.elements.keys = [] → told = []) ∧
    (c.elements.keys ≠ [] → ∃ built last closing,
      Closing c f clock outcome built last closing ∧
      Resolved f clock (c.candidates.take built.length) built ∧
      told = telling c f clock built last closing ∧
      scanEvents told =
        .started c.agent.id c.scanner.name (UInt64.ofNat c.elements.size) ::
          built.map (fun entry => .emitted entry.id entry.severity) ++ [closing]) := by
  dsimp only [Channel.deliver]
  have course := synthesize_course c f clock
  generalize c.synthesize f clock = outcome at course
  cases course with
  | idle vacant =>
    exact ⟨fun m member => absurd member List.not_mem_nil, fun _ => rfl,
      fun occupied => absurd vacant occupied⟩
  | unidentified occupied lacking =>
    refine ⟨tiedTo_of_mem_telling, fun vacant => absurd vacant occupied, fun _ => ?_⟩
    exact ⟨[], [], _, .unidentified lacking rfl, .nil, rfl, scanEvents_telling ..⟩
  | @completed occupied identified entries resolved notes =>
    have ids := resolved.ids.trans c.ids_candidates
    have count : entries.length = c.elements.size := by
      rw [Keyed.size_eq_length_keys, ← ids, List.length_map]
    refine ⟨tiedTo_of_mem_telling, fun vacant => absurd vacant occupied, fun _ => ?_⟩
    exact ⟨entries, [], _, .completed rfl ids count rfl,
      resolved.take_length (List.append_nil _).symm, rfl, scanEvents_telling ..⟩
  | @refused identified before rest candidate entries e split resolved failed notes =>
    have first := leastRefused_of_split split resolved failed
    have ids : entries.map Entry.id =
        c.elements.keys.filter fun k => Utf8.Before k candidate.id := by
      have ascending := c.elements.keys_ascending
      rw [Context.keys_of_split split] at ascending ⊢
      rw [Utf8.filter_before_eq_left ascending]
      exact resolved.ids
    refine ⟨tiedTo_of_mem_telling, fun vacant => absurd vacant (List.ne_nil_of_mem first.mem),
      fun _ => ?_⟩
    exact ⟨entries, _, _, .refused rfl first ids, resolved.take_length split, rfl,
      scanEvents_telling ..⟩

end Findings
