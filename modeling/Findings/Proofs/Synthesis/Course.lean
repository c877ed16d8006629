import Findings.Proofs.Feed.Fetching
import Findings.Proofs.Synthesis.Refusal
import Mathlib.Data.List.Forall2

/-!
The courses a synthesis can take. Candidates are resolved one after the other while the feed moves
on, but what each of them comes to can be told from the feed as it stands at the beginning, because
no fetch changes the answer to another one. `Course` lists the four ways in which a synthesis can
go, each with all it leaves behind, and `synthesize_course` shows that there is no other.
-/

namespace Findings

open Synthesis

/-! ## Resolving candidates one after the other -/

/-- What a candidate comes to when its turn comes to be fetched. -/
def Candidate.resolve (candidate : Candidate) (f : Feed) (clock : Clock) : Except Error Entry :=
  entryOf candidate (clock.detected candidate.id)
    (f.fetch (clock.fetching candidate.id) candidate.id).answer

/-- Why a candidate does not come to an entry. -/
def Candidate.refusal (candidate : Candidate) (f : Feed) (clock : Clock) : Option Error :=
  Findings.refusal candidate.id candidate.condition
    (f.fetch (clock.fetching candidate.id) candidate.id).answer

/-- A candidate is refused, or it comes to an entry of its own. -/
theorem Candidate.resolve_cases (candidate : Candidate) (f : Feed) (clock : Clock) :
    (∃ e, candidate.refusal f clock = some e ∧ candidate.resolve f clock = .error e) ∨
      candidate.refusal f clock = none ∧
        ∃ entry, entry.id = candidate.id ∧ candidate.resolve f clock = .ok entry :=
  entryOf_cases candidate _ _

/-- Time goes on from one fetch to the next. -/
theorem Clock.overBefore (clock : Clock) {ids : List String} {k : String}
    (earlier : ∀ id ∈ ids, Utf8.Before id k) : Feed.OverBefore clock.fetching ids k :=
  fun id member => ⟨(earlier id member).ne.symm, clock.steady id k (earlier id member) k⟩

/-- Fetches of earlier candidates do not change what a candidate comes to. -/
theorem Candidate.resolve_after (candidate : Candidate) {clock : Clock} {ids : List String}
    (f : Feed) (fetched : Feed.OverBefore clock.fetching ids candidate.id) :
    candidate.resolve (f.after clock.fetching ids) clock = candidate.resolve f clock := by
  rw [resolve, f.answer_after fetched, resolve]

theorem Candidate.refusal_of_resolve_eq_error {candidate : Candidate} {f : Feed} {clock : Clock}
    {e : Error} (failed : candidate.resolve f clock = .error e) :
    candidate.refusal f clock = some e := by
  rcases candidate.resolve_cases f clock with ⟨e', refused, result⟩ | ⟨_, entry, _, result⟩
  · cases failed.symm.trans result
    exact refused
  · cases failed.symm.trans result

theorem Candidate.of_resolve_eq_ok {candidate : Candidate} {f : Feed} {clock : Clock}
    {entry : Entry} (built : candidate.resolve f clock = .ok entry) :
    entry.id = candidate.id ∧ candidate.refusal f clock = none := by
  rcases candidate.resolve_cases f clock with ⟨e', _, result⟩ | ⟨sound, other, named, result⟩
  · cases built.symm.trans result
  · cases built.symm.trans result
    exact ⟨named, sound⟩

/-- Each candidate comes to the entry at its place. -/
def Resolved (f : Feed) (clock : Clock) (candidates : List Candidate) (entries : List Entry) :
    Prop :=
  List.Forall₂ (fun candidate entry => candidate.resolve f clock = .ok entry) candidates entries

/-- The entries bear the identifiers of their candidates. -/
theorem Resolved.ids {f : Feed} {clock : Clock} {candidates : List Candidate}
    {entries : List Entry} (resolved : Resolved f clock candidates entries) :
    entries.map Entry.id = candidates.map Candidate.id := by
  induction resolved with
  | nil => rfl
  | cons built _ ih => rw [List.map_cons, List.map_cons, ih, (Candidate.of_resolve_eq_ok built).1]

theorem Resolved.refusal_eq_none {f : Feed} {clock : Clock} {candidates : List Candidate}
    {entries : List Entry} (resolved : Resolved f clock candidates entries) :
    ∀ candidate ∈ candidates, candidate.refusal f clock = none := by
  induction resolved with
  | nil => exact fun _ member => absurd member List.not_mem_nil
  | cons built _ ih =>
    intro candidate member
    rcases List.mem_cons.mp member with rfl | later
    · exact (Candidate.of_resolve_eq_ok built).2
    · exact ih candidate later

/-- Either every candidate comes to an entry, or there is a first that does not. -/
theorem resolved_or_refused (f : Feed) (clock : Clock) (candidates : List Candidate) :
    (∃ entries, Resolved f clock candidates entries) ∨
      ∃ before candidate rest entries e, candidates = before ++ candidate :: rest ∧
        Resolved f clock before entries ∧ candidate.resolve f clock = .error e := by
  induction candidates with
  | nil => exact .inl ⟨[], .nil⟩
  | cons candidate rest ih =>
    cases result : candidate.resolve f clock with
    | error e => exact .inr ⟨[], candidate, rest, [], e, rfl, .nil, result⟩
    | ok entry =>
      rcases ih with ⟨entries, resolved⟩ |
        ⟨before, refused, later, entries, e, rfl, resolved, failed⟩
      · exact .inl ⟨entry :: entries, .cons result resolved⟩
      · exact .inr ⟨candidate :: before, refused, later, entry :: entries, e, rfl,
          .cons result resolved, failed⟩

/-! ## What is told on the way -/

namespace Message

/-- The scan event of a message that carries one. -/
def scan? (m : Message) : Option ScanEvent :=
  match m.event with
  | .scan event => some event
  | .feed _ => none

/-- The feed event of a message that carries one. -/
def feed? (m : Message) : Option FeedEvent :=
  match m.event with
  | .scan _ => none
  | .feed event => some event

end Message

/-- The scan events of messages, in order. -/
def scanEvents (messages : List Message) : List ScanEvent := messages.filterMap Message.scan?

/-- The feed events of messages, in order. -/
def feedEvents (messages : List Message) : List FeedEvent := messages.filterMap Message.feed?

section Filters

variable (agent : String) (event : ScanEvent) (events : List FeedEvent) (front back : List Message)

theorem scanEvents_append : scanEvents (front ++ back) = scanEvents front ++ scanEvents back :=
  List.filterMap_append

theorem feedEvents_append : feedEvents (front ++ back) = feedEvents front ++ feedEvents back :=
  List.filterMap_append

theorem scanEvents_say_cons :
    scanEvents (say agent event :: back) = event :: scanEvents back := rfl

theorem feedEvents_say_cons : feedEvents (say agent event :: back) = feedEvents back := rfl

theorem scanEvents_map_pass : scanEvents (events.map Synthesis.pass) = [] := by
  rw [scanEvents, List.filterMap_map]
  exact List.filterMap_eq_nil_iff.mpr fun _ _ => rfl

theorem feedEvents_map_pass : feedEvents (events.map Synthesis.pass) = events := by
  rw [feedEvents, List.filterMap_map]
  exact List.filterMap_some

end Filters

/-- What is told while entries are built: of each, what its fetch tells, and then that it is
there. -/
def account (agent : String) (f : Feed) (clock : Clock) (entries : List Entry) : List Message :=
  entries.flatMap fun entry =>
    (f.fetch (clock.fetching entry.id) entry.id).events.map Synthesis.pass ++
      [say agent (.emitted entry.id entry.severity)]

/-- The scan tells of each entry that it is there. -/
theorem scanEvents_account (agent : String) (f : Feed) (clock : Clock) (entries : List Entry) :
    scanEvents (account agent f clock entries) =
      entries.map fun entry => .emitted entry.id entry.severity := by
  induction entries with
  | nil => rfl
  | cons entry rest ih =>
    rw [account, List.flatMap_cons, scanEvents_append, scanEvents_append, scanEvents_map_pass]
    exact congrArg _ ih

/-- The feed tells of each entry what its fetch told. -/
theorem feedEvents_account (agent : String) (f : Feed) (clock : Clock) (entries : List Entry) :
    feedEvents (account agent f clock entries) =
      entries.flatMap fun entry => (f.fetch (clock.fetching entry.id) entry.id).events := by
  induction entries with
  | nil => rfl
  | cons entry rest ih =>
    rw [account, List.flatMap_cons, feedEvents_append, feedEvents_append, feedEvents_map_pass,
      feedEvents_say_cons, List.flatMap_cons]
    exact congrArg₂ _ (List.append_nil _) ih

/-- Candidates that come to entries are passed over, and the rest goes on from the feed that their
fetches leave. Some fetches may be past before. -/
theorem resolveAll_append (agent : String) {clock : Clock} {f : Feed} (past : List String)
    {before : List Candidate} {entries : List Entry} (rest : List Candidate)
    (resolved : Resolved f clock before entries)
    (ascending : (past ++ before.map Candidate.id).Pairwise Utf8.Before) :
    resolveAll agent clock (before ++ rest) (f.after clock.fetching past) =
      let further := resolveAll agent clock rest
        (f.after clock.fetching (past ++ before.map Candidate.id))
      { further with
        entries := entries ++ further.entries
        messages := account agent f clock entries ++ further.messages } := by
  induction before generalizing past entries with
  | nil =>
    cases resolved
    rw [List.map_nil, List.append_nil]
    rfl
  | cons candidate later ih =>
    cases resolved with
    | @cons _ entry _ entries built others =>
      have earlier : ∀ id ∈ past, Utf8.Before id candidate.id := fun id member =>
        (List.pairwise_append.mp ascending).2.2 id member _ List.mem_cons_self
      -- The fetches that are past change nothing for this candidate, so the induction can tell
      -- everything from the feed of the beginning.
      have fetched := clock.overBefore earlier
      have named : entry.id = candidate.id := (Candidate.of_resolve_eq_ok built).1
      rw [List.map_cons, List.append_cons] at ascending ⊢
      have continued := ih (past ++ [candidate.id]) others ascending
      rw [f.after_append, Feed.after_cons, Feed.after_nil] at continued
      rw [← candidate.resolve_after f fetched] at built
      unfold Candidate.resolve at built
      rw [List.cons_append, resolveAll]
      simp only [built]
      rw [continued, f.events_after fetched]
      simp only [account, List.flatMap_cons, named, List.cons_append, List.append_assoc]

theorem resolveAll_refused (agent : String) {clock : Clock} {f : Feed} {candidate : Candidate}
    {e : Error} (rest : List Candidate) (failed : candidate.resolve f clock = .error e) :
    resolveAll agent clock (candidate :: rest) f =
      ⟨[], some (candidate.id, e),
        (f.fetch (clock.fetching candidate.id) candidate.id).events.map Synthesis.pass ++
          [say agent (.failed agent (some candidate.id) (.ofError e))],
        (f.fetch (clock.fetching candidate.id) candidate.id).feed⟩ := by
  unfold Candidate.resolve at failed
  rw [resolveAll]
  simp only [failed]

/-- Where every candidate comes to an entry the walk gives them all. -/
theorem resolveAll_of_resolved (agent : String) {clock : Clock} {f : Feed}
    {candidates : List Candidate} {entries : List Entry}
    (resolved : Resolved f clock candidates entries)
    (ascending : (candidates.map Candidate.id).Pairwise Utf8.Before) :
    resolveAll agent clock candidates f =
      ⟨entries, none, account agent f clock entries,
        f.after clock.fetching (candidates.map Candidate.id)⟩ := by
  have walked := resolveAll_append agent [] [] resolved ascending
  rw [List.append_nil, Feed.after_nil, List.nil_append] at walked
  simp only [walked, resolveAll, List.append_nil]

/-- The first candidate that is refused ends the walk: it is fetched, and nothing after it. -/
theorem resolveAll_of_refused (agent : String) {clock : Clock} {f : Feed}
    {before : List Candidate} {candidate : Candidate} {entries : List Entry} {e : Error}
    (rest : List Candidate) (resolved : Resolved f clock before entries)
    (failed : candidate.resolve f clock = .error e)
    (ascending : (before.map Candidate.id ++ [candidate.id]).Pairwise Utf8.Before) :
    resolveAll agent clock (before ++ candidate :: rest) f =
      ⟨entries, some (candidate.id, e),
        account agent f clock entries ++
          ((f.fetch (clock.fetching candidate.id) candidate.id).events.map Synthesis.pass ++
            [say agent (.failed agent (some candidate.id) (.ofError e))]),
        f.after clock.fetching (before.map Candidate.id ++ [candidate.id])⟩ := by
  obtain ⟨earlier, _, across⟩ := List.pairwise_append.mp ascending
  have fetched : Feed.OverBefore clock.fetching (before.map Candidate.id) candidate.id :=
    clock.overBefore fun id member => across id member _ List.mem_cons_self
  have stillFailed := (candidate.resolve_after f fetched).trans failed
  have walked := resolveAll_append agent [] (candidate :: rest) resolved earlier
  rw [Feed.after_nil, List.nil_append, resolveAll_refused agent rest stillFailed,
    f.events_after fetched] at walked
  simp only [walked, List.append_nil, Feed.after_append, Feed.after_cons, Feed.after_nil]

/-! ## The candidates of a context -/

namespace Context

/-- A package is scanned whose inventory identifier is absent or empty. -/
def Unidentified (c : Context) : Prop :=
  c.scanner = .package ∧ ∀ p id, c.payload = .package p → p.itemId = some id → id = ""

/-- The inventory identifier that entries show. -/
def shownItemId (c : Context) : Option String := if c.scanner.requiresItemId then c.itemId else none

/-- The candidates in ascending order, as they are looked up. -/
def candidates (c : Context) : List Candidate := candidatesOf c c.shownItemId

theorem ids_candidatesOf (c : Context) (itemId : Option String) :
    (candidatesOf c itemId).map Candidate.id = c.elements.keys := by
  rw [candidatesOf, List.map_map]
  rfl

/-- The candidates of a context are its keys, in their order. -/
theorem ids_candidates (c : Context) : c.candidates.map Candidate.id = c.elements.keys :=
  c.ids_candidatesOf c.shownItemId

theorem condition_of_mem_candidates {c : Context} {candidate : Candidate}
    (member : candidate ∈ c.candidates) :
    candidate.condition = c.conditions.get? candidate.id := by
  obtain ⟨e, _, rfl⟩ := List.mem_map.mp member
  rfl

/-- An inventory identifier is absent when a package lacks it or has an empty one. -/
theorem itemId_eq_none_iff {c : Context} :
    c.itemId = none ↔ ∀ p id, c.payload = .package p → p.itemId = some id → id = "" := by
  rw [itemId]
  constructor
  · intro absent p id payload known
    rw [payload, Payload.itemId, known] at absent
    simpa using absent
  · intro lacking
    cases payload : c.payload with
    | empty => rfl
    | package p =>
      cases known : p.itemId with
      | none => simp [Payload.itemId, known]
      | some id => simp [Payload.itemId, known, lacking p id payload known]

end Context

/-- The error of a package without an inventory identifier. -/
def unidentifiedError : Error := .scan (.invalidPayload "package item id is empty")

/-- A package that is not identified is refused at once. -/
theorem itemIdOf_of_unidentified {c : Context} (unidentified : c.Unidentified) :
    itemIdOf c = .error unidentifiedError := by
  obtain ⟨package, lacking⟩ := unidentified
  have absent : c.itemId = none := Context.itemId_eq_none_iff.mpr lacking
  rw [itemIdOf, package, absent]
  rfl

theorem itemIdOf_of_not_unidentified {c : Context} (identified : ¬ c.Unidentified) :
    itemIdOf c = .ok c.shownItemId := by
  rw [itemIdOf, Context.shownItemId]
  cases kind : c.scanner with
  | os => rfl
  | package =>
    cases known : c.itemId with
    | some id => rfl
    | none => exact absurd ⟨kind, Context.itemId_eq_none_iff.mp known⟩ identified

/-! ## The courses -/

/-- The event a synthesis begins with. -/
def Context.opening (c : Context) : ScanEvent :=
  .started c.agent.id c.scanner.name (UInt64.ofNat c.elements.size)

/-- What a synthesis tells that looks at candidates: the opening, the account of the entries that
were built, what the fetch of a refused candidate told, and the closing. -/
def telling (c : Context) (f : Feed) (clock : Clock) (built : List Entry)
    (last : List FeedEvent) (closing : ScanEvent) : List Message :=
  say c.agent.id c.opening :: (account c.agent.id f clock built ++
    (last.map Synthesis.pass ++ [say c.agent.id closing]))

theorem scanEvents_telling (c : Context) (f : Feed) (clock : Clock) (built : List Entry)
    (last : List FeedEvent) (closing : ScanEvent) :
    scanEvents (telling c f clock built last closing) =
      c.opening :: built.map (fun entry => .emitted entry.id entry.severity) ++ [closing] := by
  rw [telling, scanEvents_say_cons, scanEvents_append, scanEvents_append, scanEvents_account,
    scanEvents_map_pass]
  rfl

theorem feedEvents_telling (c : Context) (f : Feed) (clock : Clock) (built : List Entry)
    (last : List FeedEvent) (closing : ScanEvent) :
    feedEvents (telling c f clock built last closing) =
      (built.flatMap fun entry => (f.fetch (clock.fetching entry.id) entry.id).events) ++ last := by
  rw [telling, feedEvents_say_cons, feedEvents_append, feedEvents_append, feedEvents_account,
    feedEvents_map_pass]
  exact congrArg _ (List.append_nil last)

/-- The courses a synthesis can take, each with all that it leaves behind. -/
inductive Course (c : Context) (f : Feed) (clock : Clock) : Outcome → Prop
  /-- There is nothing to report. -/
  | idle (vacant : c.elements.keys = []) : Course c f clock ⟨.ok [], c, f, [], []⟩
  /-- The item is not known to the inventory; no candidate is looked at. -/
  | unidentified (occupied : c.elements.keys ≠ []) (lacking : c.Unidentified) :
    Course c f clock ⟨.error unidentifiedError, c, f,
      telling c f clock [] [] (.failed c.agent.id none (.ofError unidentifiedError)), []⟩
  /-- Every candidate comes to an entry. -/
  | completed (occupied : c.elements.keys ≠ []) (identified : ¬ c.Unidentified)
    {entries : List Entry} (resolved : Resolved f clock c.candidates entries)
    (notes : List (String × Note)) :
    Course c f clock ⟨.ok entries, { c with results := c.results ++ entries },
      f.after clock.fetching c.elements.keys,
      telling c f clock entries [] (.completed c.agent.id (UInt64.ofNat entries.length)), notes⟩
  /-- A candidate is refused; those before it came to entries, those after it are not looked at. -/
  | refused (identified : ¬ c.Unidentified) {before rest : List Candidate} {candidate : Candidate}
    {entries : List Entry} {e : Error} (split : c.candidates = before ++ candidate :: rest)
    (resolved : Resolved f clock before entries) (failed : candidate.resolve f clock = .error e)
    (notes : List (String × Note)) :
    Course c f clock ⟨.error e, c,
      f.after clock.fetching (before.map Candidate.id ++ [candidate.id]),
      telling c f clock entries (f.fetch (clock.fetching candidate.id) candidate.id).events
        (.failed c.agent.id (some candidate.id) (.ofError e)), notes⟩

/-- Every synthesis takes one of the courses. -/
theorem synthesize_course (c : Context) (f : Feed) (clock : Clock) :
    Course c f clock (c.synthesize f clock) := by
  have ascending : (c.candidates.map Candidate.id).Pairwise Utf8.Before := by
    rw [c.ids_candidates]
    exact c.elements.keys_ascending
  unfold Context.synthesize
  split
  next vacant => exact .idle (Keyed.isEmpty_iff_keys.mp vacant)
  next occupied =>
    have occupied : c.elements.keys ≠ [] := fun none => occupied (Keyed.isEmpty_iff_keys.mpr none)
    by_cases lacking : c.Unidentified
    · simp only [itemIdOf_of_unidentified lacking]
      exact .unidentified occupied lacking
    · simp only [itemIdOf_of_not_unidentified lacking]
      rcases resolved_or_refused f clock c.candidates with
        ⟨entries, resolved⟩ | ⟨before, candidate, rest, entries, e, split, resolved, failed⟩
      · have walked := resolveAll_of_resolved c.agent.id resolved ascending
        rw [c.ids_candidates] at walked
        unfold Context.candidates at walked
        simp only [walked]
        exact .completed occupied lacking resolved _
      · rw [split, List.map_append, List.map_cons, List.append_cons] at ascending
        have walked := resolveAll_of_refused c.agent.id rest resolved failed
          (List.pairwise_append.mp ascending).1
        rw [← split] at walked
        unfold Context.candidates at walked
        simp only [walked]
        exact .refused lacking split resolved failed _

end Findings
