import Findings.Event.Json
import Findings.Proofs.Json.Recovery

/-!
Events that are written down and read back. The kind of an event stands among its members, so its
reader sets the kind apart wherever it stands and reads the others as that kind demands
(`Json.tagged_recovers`); the domain and what happened may come in either order (`Event.recovers`).
Every event is therefore read from the value it is written as and from its text
(`Event.written_event_restores_event`).
-/

namespace Findings

open Json
open Record (bind_eq_ok_iff)

/-! ## Failures -/

namespace Failure

/-- The members of a failure. -/
def members (f : Failure) : List (String × Json) :=
  optionalMember "code" f.code ++ [("message", .string f.message)] ++
    optionalMember "hint" f.hint ++ [("retryable", .bool f.retryable)]

theorem lookup_members (f : Failure) :
    f.members.lookup "code" = f.code.map Json.string ∧
      f.members.lookup "message" = some (.string f.message) ∧
      f.members.lookup "hint" = f.hint.map Json.string ∧
      f.members.lookup "retryable" = some (.bool f.retryable) := by
  obtain ⟨code, message, hint, retryable⟩ := f
  cases code <;> cases hint <;> exact ⟨rfl, rfl, rfl, rfl⟩

theorem unrepeated_toJson (f : Failure) : f.toJson.Unrepeated := by
  obtain ⟨code, message, hint, retryable⟩ := f
  cases code <;> cases hint <;> simp [toJson, optionalMember, Unrepeated, UnrepeatedMembers]

/-- A failure is read back in any order of its members. -/
theorem recovers (source : Source) (f : Failure) : (read source).Recovers f.toJson f := by
  obtain ⟨code, message, hint, retryable⟩ := f.lookup_members
  have flag := Reader.recovers_bool f.retryable
  refine Struct.recovers source f.unrepeated_toJson.1 ?_ fun members rearranged => ?_
  · show shape.Accepts f.members
    simp [Struct.Accepts, shape, code, message, hint, retryable, flag.required]
  · simp only [bind_eq_ok_iff]
    exact ⟨_, rearranged.optional code, _,
      rearranged.require message (Reader.recovers_string f.message), _, rearranged.optional hint, _,
      rearranged.require retryable flag, rfl⟩

end Failure

/-! ## Kinds -/

namespace Json

section Kinds

variable {source : Source} {kinds : List String} {kind : String}
  {members fields : List (String × Json)}

theorem draftMembers_append (before after : List (String × Json)) :
    draftMembers (before ++ after) = draftMembers before ++ draftMembers after := by
  simp only [draftMembers_eq_map, List.map_append]

/-- Members that do not name the kind are kept as they stand. -/
theorem splitKind_append {found split : Option String} {rest others : List (String × Draft)}
    (untagged : "type" ∉ members.map Prod.fst)
    (further : splitKind source kinds found rest = .ok (split, others)) :
    splitKind source kinds found (draftMembers members ++ rest) =
      .ok (split, draftMembers members ++ others) := by
  induction members with
  | nil => exact further
  | cons m members ih =>
    obtain ⟨key, value⟩ := m
    obtain ⟨different, untagged⟩ : "type" ≠ key ∧ "type" ∉ members.map Prod.fst := by
      simpa using untagged
    rw [draftMembers, List.cons_append, splitKind, if_neg different.symm, value?_draft]
    exact bind_eq_ok_iff.mpr ⟨_, ih untagged, rfl⟩

/-- The kind is found wherever its member stands among the others. -/
theorem splitKind_of_tagged {before after : List (String × Json)} (known : kind ∈ kinds)
    (first : "type" ∉ before.map Prod.fst) (last : "type" ∉ after.map Prod.fst) :
    splitKind source kinds none (draftMembers (before ++ ("type", .string kind) :: after)) =
      .ok (some kind, draftMembers (before ++ after)) := by
  have kept : splitKind source kinds (some kind) (draftMembers after ++ []) =
      .ok (some kind, draftMembers after ++ []) := splitKind_append last rfl
  rw [List.append_nil] at kept
  have named : kindOf source kinds (.string kind) = .ok kind := by
    rw [kindOf, if_pos (List.contains_iff_mem.mpr known)]
  rw [draftMembers_append, draftMembers_append]
  refine splitKind_append first ?_
  rw [draftMembers, splitKind, if_pos rfl]
  exact bind_eq_ok_iff.mpr ⟨kind, named, kept⟩

/-- The kind of an event is found wherever it stands among the members, and the others are kept. -/
theorem tagged_eq_ok (title : String) (source : Source) (known : kind ∈ kinds)
    (fresh : "type" ∉ fields.map Prod.fst)
    (rearranged : Rearranged members (("type", .string kind) :: fields)) :
    ∃ others, tagged title source kinds (draft (.object members)) =
      .ok (kind, draft (.object others)) ∧ Rearranged others fields := by
  obtain ⟨held, found, arranges⟩ := rearranged.lookup_of_some List.lookup_cons_self
  cases arranges.eq_of_plain rfl
  obtain ⟨before, after, rfl⟩ := List.append_of_mem (Keyed.mem_of_lookup found)
  obtain ⟨untagged, others⟩ := rearranged.of_middle fresh
  rw [List.map_append, List.mem_append, not_or] at untagged
  have split : splitKind source kinds none _ = _ :=
    splitKind_of_tagged known untagged.1 untagged.2
  refine ⟨before ++ after, ?_, others⟩
  exact bind_eq_ok_iff.mpr ⟨_, split, rfl⟩

/-- A value with its kind is recovered from what the kind reads from the others of its members. -/
theorem tagged_recovers {α : Type} {a : α} {build : String → Reader α} (title : String)
    (source : Source) (known : kind ∈ kinds) (distinct : ("type" :: fields.map Prod.fst).Nodup)
    (built : ∀ members, Rearranged members fields →
      build kind (draft (.object members)) = .ok a) :
    Reader.Recovers (fun d => tagged title source kinds d >>= fun (kind, rest) => build kind rest)
      (.object (("type", .string kind) :: fields)) a := by
  intro value arranges
  obtain ⟨members, rfl, rearranged⟩ := arranges.exists_members distinct
  obtain ⟨others, split, left⟩ :=
    tagged_eq_ok title source known (List.nodup_cons.mp distinct).1 rearranged
  exact bind_eq_ok_iff.mpr ⟨_, split, built others left⟩

end Kinds

end Json

/-! ## Events -/

theorem ScanEvent.unrepeated_toJson (e : ScanEvent) : e.toJson.Unrepeated := by
  cases e with
  | failed agent id failure =>
    have inner := failure.unrepeated_toJson
    simp [toJson, Unrepeated, UnrepeatedMembers, inner]
    cases id <;> trivial
  | _ => simp [toJson, Unrepeated, UnrepeatedMembers, ofNat]

namespace ScanEvent

variable {members : List (String × Json)}

/-- An opening is read from its members in any order. -/
theorem readKind_started {agent scanner : String} {candidates : UInt64}
    (rearranged : Rearranged members [("agent_id", .string agent), ("scanner", .string scanner),
      ("candidates", .ofNat candidates.toNat)]) :
    readKind "ResponseStarted" (draft (.object members)) =
      .ok (started agent scanner candidates) := by
  have count := Reader.recovers_word "usize" candidates
  have fields : (shape "ResponseStarted").fields = [.required "agent_id" Reader.string,
    .required "scanner" Reader.string, .required "candidates" (Reader.word "usize")] := rfl
  refine bind_eq_ok_iff.mpr ⟨_, Struct.known_eq_ok .kept rearranged ?_, ?_⟩
  · simp [Struct.Accepts, fields, List.lookup_cons, count.required]
  · simp only [if_true, bind_eq_ok_iff]
    exact ⟨_, rearranged.require rfl (Reader.recovers_string _), _,
      rearranged.require rfl (Reader.recovers_string _), _, rearranged.require rfl count, rfl⟩

theorem readKind_emitted {id severity : String}
    (rearranged : Rearranged members [("cve_id", .string id), ("severity", .string severity)]) :
    readKind "EntryEmitted" (draft (.object members)) = .ok (emitted id severity) := by
  have fields : (shape "EntryEmitted").fields =
    [.required "cve_id" Reader.string, .required "severity" Reader.string] := rfl
  refine bind_eq_ok_iff.mpr ⟨_, Struct.known_eq_ok .kept rearranged ?_, ?_⟩
  · simp [Struct.Accepts, fields, List.lookup_cons]
  · rw [if_neg (by decide), if_pos rfl]
    simp only [bind_eq_ok_iff]
    exact ⟨_, rearranged.require rfl (Reader.recovers_string _), _,
      rearranged.require rfl (Reader.recovers_string _), rfl⟩

theorem readKind_completed {agent : String} {entries : UInt64}
    (rearranged : Rearranged members
      [("agent_id", .string agent), ("entries", .ofNat entries.toNat)]) :
    readKind "ResponseCompleted" (draft (.object members)) = .ok (completed agent entries) := by
  have count := Reader.recovers_word "usize" entries
  have fields : (shape "ResponseCompleted").fields =
    [.required "agent_id" Reader.string, .required "entries" (Reader.word "usize")] := rfl
  refine bind_eq_ok_iff.mpr ⟨_, Struct.known_eq_ok .kept rearranged ?_, ?_⟩
  · simp [Struct.Accepts, fields, List.lookup_cons, count.required]
  · rw [if_neg (by decide), if_neg (by decide), if_pos rfl]
    simp only [bind_eq_ok_iff]
    exact ⟨_, rearranged.require rfl (Reader.recovers_string _), _, rearranged.require rfl count,
      rfl⟩

/-- A failure is read with its candidate, which may be absent. -/
theorem readKind_failed {agent : String} {id : Option String} {failure : Failure}
    (rearranged : Rearranged members [("agent_id", .string agent), ("cve_id", .ofOption id),
      ("failure", failure.toJson)]) :
    readKind "ResponseFailed" (draft (.object members)) = .ok (failed agent id failure) := by
  have candidate := Reader.recovers_ofOption id
  have cause := failure.recovers .kept
  have fields : (shape "ResponseFailed").fields = [.required "agent_id" Reader.string,
    .required "cve_id" Reader.optionalString, .required "failure" (Failure.read .kept)] := rfl
  refine bind_eq_ok_iff.mpr ⟨_, Struct.known_eq_ok .kept rearranged ?_, ?_⟩
  · simp [Struct.Accepts, fields, List.lookup_cons, candidate.required, cause.required]
  · rw [if_neg (by decide), if_neg (by decide), if_neg (by decide)]
    simp only [bind_eq_ok_iff]
    exact ⟨_, rearranged.require rfl (Reader.recovers_string _), _,
      rearranged.orElse rfl candidate, _, rearranged.require rfl cause, rfl⟩

/-- A scan event is read back by its kind. -/
theorem recovers (source : Source) (e : ScanEvent) : (read source).Recovers e.toJson e := by
  cases e with
  | started => exact tagged_recovers _ source (by decide) (by simp) fun _ => readKind_started
  | emitted => exact tagged_recovers _ source (by decide) (by simp) fun _ => readKind_emitted
  | completed => exact tagged_recovers _ source (by decide) (by simp) fun _ => readKind_completed
  | failed => exact tagged_recovers _ source (by decide) (by simp) fun _ => readKind_failed

end ScanEvent

namespace FeedEvent

variable {members : List (String × Json)} {id : String}

theorem unrepeated_toJson (e : FeedEvent) : e.toJson.Unrepeated := by
  cases e <;> simp [toJson, Unrepeated, UnrepeatedMembers]

/-- Two kinds say nothing but the identifier. -/
theorem accepts_identified {kind : String} (other : kind ≠ "DecodeFailed") (id : String) :
    (shape kind).Accepts [("cve_id", .string id)] := by
  have fields : (shape kind).fields = [.required "cve_id" Reader.string] := if_neg other
  simp [Struct.Accepts, fields, List.lookup_cons]

theorem readKind_miss (rearranged : Rearranged members [("cve_id", .string id)]) :
    readKind "LookupMiss" (draft (.object members)) = .ok (miss id) := by
  have accepts : (shape "LookupMiss").Accepts _ := accepts_identified (by decide) id
  refine bind_eq_ok_iff.mpr ⟨_, Struct.known_eq_ok .kept rearranged accepts, ?_⟩
  exact bind_eq_ok_iff.mpr ⟨id, rearranged.require rfl (Reader.recovers_string id), if_pos rfl⟩

theorem readKind_hit (rearranged : Rearranged members [("cve_id", .string id)]) :
    readKind "CacheHit" (draft (.object members)) = .ok (hit id) := by
  have accepts : (shape "CacheHit").Accepts _ := accepts_identified (by decide) id
  refine bind_eq_ok_iff.mpr ⟨_, Struct.known_eq_ok .kept rearranged accepts, ?_⟩
  refine bind_eq_ok_iff.mpr ⟨id, rearranged.require rfl (Reader.recovers_string id), ?_⟩
  rw [if_neg (by decide), if_pos rfl]
  rfl

theorem readKind_undecodable {message : String} (rearranged : Rearranged members
      [("cve_id", .string id), ("message", .string message)]) :
    readKind "DecodeFailed" (draft (.object members)) = .ok (undecodable id message) := by
  have fields : (shape "DecodeFailed").fields =
    [.required "cve_id" Reader.string, .required "message" Reader.string] := rfl
  refine bind_eq_ok_iff.mpr ⟨_, Struct.known_eq_ok .kept rearranged ?_, ?_⟩
  · simp [Struct.Accepts, fields, List.lookup_cons]
  · refine bind_eq_ok_iff.mpr ⟨id, rearranged.require rfl (Reader.recovers_string id), ?_⟩
    rw [if_neg (by decide), if_neg (by decide)]
    exact bind_eq_ok_iff.mpr
      ⟨message, rearranged.require rfl (Reader.recovers_string message), rfl⟩

/-- A feed event is read back by its kind. -/
theorem recovers (source : Source) (e : FeedEvent) : (read source).Recovers e.toJson e := by
  cases e with
  | miss => exact tagged_recovers _ source (by decide) (by simp) fun _ => readKind_miss
  | hit => exact tagged_recovers _ source (by decide) (by simp) fun _ => readKind_hit
  | undecodable =>
    exact tagged_recovers _ source (by decide) (by simp) fun _ => readKind_undecodable

end FeedEvent

namespace Event

/-- What happened, as a value, without the domain it happened in. -/
def content : Event → Json
  | scan event => event.toJson
  | feed event => event.toJson

theorem toJson_eq (e : Event) :
    e.toJson = .object [("domain", .string e.source.name), ("event", e.content)] := by
  cases e <;> rfl

theorem unrepeated_toJson (e : Event) : e.toJson.Unrepeated := by
  have content : e.content.Unrepeated := by
    cases e with
    | scan event => exact event.unrepeated_toJson
    | feed event => exact event.unrepeated_toJson
  rw [toJson_eq]
  exact ⟨by simp, trivial, content, trivial⟩

/-- What is read of an event is decided by the domain that stands beside it. -/
theorem readIn_recovers (source : Source) (e : Event) :
    (readIn source e.source).Recovers e.content e := by
  intro value arranges
  cases e with
  | scan event => exact congrArg (Except.map scan) (event.recovers source value arranges)
  | feed event => exact congrArg (Except.map feed) (event.recovers source value arranges)

/-- An event is recovered whichever comes first, its domain or what happened. -/
theorem recovers (e : Event) : read.Recovers e.toJson e := by
  have domain : readDomain (.string e.source.name) = .ok e.source := by
    cases e <;> rfl
  intro value arranges
  rw [toJson_eq] at arranges
  obtain ⟨members, rfl, rearranged⟩ := arranges.exists_members (by simp)
  obtain ⟨held, other, plain, content, rfl | rfl⟩ := rearranged.eq_pair (by decide)
  · cases plain.eq_of_plain rfl
    have event := e.readIn_recovers .text other content
    exact bind_eq_ok_iff.mpr ⟨_, domain, bind_eq_ok_iff.mpr ⟨e, event, rfl⟩⟩
  · cases plain.eq_of_plain rfl
    have event := e.readIn_recovers .kept other content
    have readable : (draft other).value?.isNone = false := by rw [value?_draft, Option.isNone_some]
    show (if (draft other).value?.isNone then _ else _) = _
    rw [readable]
    exact bind_eq_ok_iff.mpr ⟨_, domain, bind_eq_ok_iff.mpr ⟨e, event, rfl⟩⟩

end Event

/-! ## Texts of events -/

theorem Failure.legible_toJson (f : Failure) {depth : Nat} (room : depth + 1 < nestingLimit) :
    f.toJson.Legible depth := by
  obtain ⟨code, message, hint, retryable⟩ := f
  cases code <;> cases hint <;> simp [toJson, optionalMember, Legible, LegibleMembers, room]

theorem ScanEvent.legible_toJson (e : ScanEvent) : e.toJson.Legible 1 := by
  have room : 1 + 1 < nestingLimit := by decide
  have count (n : UInt64) : Legible 2 (.ofNat n.toNat) := legible_ofNat n.toNat_lt
  cases e with
  | failed agent id failure =>
    have candidate : Legible 2 (.ofOption id) := by cases id <;> trivial
    have cause : failure.toJson.Legible 2 := failure.legible_toJson (by decide)
    exact ⟨room, trivial, trivial, candidate, cause, trivial⟩
  | _ => simp [toJson, Legible, LegibleMembers, room, count]

theorem FeedEvent.legible_toJson (e : FeedEvent) : e.toJson.Legible 1 := by
  have room : 1 + 1 < nestingLimit := by decide
  cases e <;> simp [toJson, Legible, LegibleMembers, room]

namespace Event

/-- Events hold no number that would not be read back. -/
theorem legible_toJson (e : Event) : e.toJson.Legible 0 := by
  have content : e.content.Legible 1 := by
    cases e with
    | scan event => exact event.legible_toJson
    | feed event => exact event.legible_toJson
  rw [toJson_eq]
  exact ⟨by decide, trivial, content, trivial⟩

/-- An event is read back from its text. -/
theorem parse_compact (e : Event) : parse read e.toJson.compact = .ok e :=
  e.recovers.parse_compact e.unrepeated_toJson.arranges e.legible_toJson

/-- An event survives being written and read. It is read from the value it is written as with the
members of every object in any order, so also with them sorted, and from the text of the value;
hence no two events are written alike. What was read from a document is written as a text from which
it is read again, with the same level, source and target, and which it is written as again. -/
theorem written_event_restores_event :
    (∀ (e : Event) (written : Json), written.Arranges e.toJson → read (draft written) = .ok e) ∧
    (∀ e : Event, e.toJson.Arranges e.toJson ∧ e.toJson.sorted.Arranges e.toJson) ∧
    (∀ e : Event, parse read e.toJson.compact = .ok e) ∧
    (∀ e other : Event, other.toJson.compact = e.toJson.compact → other = e) ∧
    ∀ (document : String) (e : Event), parse read document = .ok e →
      ∃ again, parse read e.toJson.compact = .ok again ∧
        again.toJson.compact = e.toJson.compact ∧ again.level = e.level ∧
        again.source = e.source ∧ again.source.target = e.source.target := by
  refine ⟨fun e => e.recovers, fun e => ⟨e.unrepeated_toJson.arranges, sorted_arranges _⟩,
    parse_compact, fun e other same => ?_, fun _ e _ => ⟨e, e.parse_compact, rfl, rfl, rfl, rfl⟩⟩
  have back := other.parse_compact
  rw [same, e.parse_compact] at back
  exact (Except.ok.inj back).symm

end Event

end Findings
