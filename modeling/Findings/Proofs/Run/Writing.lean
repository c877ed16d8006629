import Findings.Proofs.Run.Actions

/-!
Stores in memory as maps whose last write wins. What was written last under an identifier decides
what a lookup of it answers (`answerAfter`): a description comes back as it was, and bytes are read
for what they are. Neither writes under other identifiers nor lookups matter, through whole runs
(`State.walk_fetches_last_write`).
-/

namespace Findings

/-! ## What was written -/

/-- What is written under an identifier. -/
inductive Written where
  | record (r : Record)
  | raw (bytes : List UInt8)
  deriving DecidableEq

/-- The bytes are stored for what was written. -/
def Written.Spells : Written → List UInt8 → Prop
  | record r, bytes => r.encode = .ok bytes
  | raw written, bytes => bytes = written

/-- What a lookup answers that meets what was written. -/
def Written.answer (id : String) : Written → Except FeedError Record
  | record r => .ok r
  | raw bytes => Store.read id bytes

/-- What a step writes. A description that has no bytes is not written. -/
def Step.written : Step → List (String × Written)
  | .put id r => if r.encode.isOk then [(id, .record r)] else []
  | .putRaw id bytes => [(id, .raw bytes)]
  | _ => []

/-- What a store begins with. -/
def presetWrites (preset : List (String × Record)) : List (String × Written) :=
  preset.map fun entry => (entry.1, .record entry.2)

/-- What was written last under an identifier. -/
def lastWritten (history : List (String × Written)) (id : String) : Option Written :=
  history.reverse.lookup id

/-- What a lookup answers after some writes. -/
def answerAfter (history : List (String × Written)) (id : String) : Except FeedError Record :=
  if Text.isBlankText id then .error (.invalidIdentifier id)
  else
    match lastWritten history id with
    | none => .error (.notFound id)
    | some w => w.answer id

/-- A description comes back as it was written, and bytes are read for what they are. -/
theorem Written.read_of_spells {w : Written} {bytes : List UInt8} (spells : w.Spells bytes)
    (id : String) : Store.read id bytes = w.answer id := by
  cases w with
  | record r => exact Store.read_of_encode spells
  | raw written =>
    cases spells
    rfl

theorem lastWritten_concat (history : List (String × Written)) (id : String) (w : Written)
    (k : String) :
    lastWritten (history ++ [(id, w)]) k = if k = id then some w else lastWritten history k := by
  rw [lastWritten, List.reverse_append]
  exact Keyed.lookup_cons_ite id w history.reverse k

/-- What was written under other identifiers does not matter. -/
theorem lastWritten_filter (history : List (String × Written)) (id : String) :
    lastWritten (history.filter fun entry => entry.1 = id) id = lastWritten history id := by
  unfold lastWritten
  rw [← List.filter_reverse]
  induction history.reverse with
  | nil => rfl
  | cons entry rest ih =>
    obtain ⟨k, w⟩ := entry
    by_cases same : k = id
    · rw [List.filter_cons_of_pos (by simpa using same), Keyed.lookup_cons_ite,
        Keyed.lookup_cons_ite, ih]
    · have other : id ≠ k := fun equal => same equal.symm
      rw [List.filter_cons_of_neg (by simpa using same), ih, Keyed.lookup_cons_ite, if_neg other]

/-! ## Stores -/

/-- A store in memory holds the bytes of what was written last under each identifier. -/
structure Store.Follows (s : Store) (history : List (String × Written)) : Prop where
  backing : s.backing = .memory
  rows : ∀ id, Option.Rel Written.Spells (lastWritten history id) (s.rows.get? id)

namespace Store

variable {s t : Store} {history : List (String × Written)} {id : String}

theorem follows_nil : ({ backing := .memory } : Store).Follows [] := ⟨rfl, fun _ => .none⟩

namespace Follows

theorem putRaw (follows : s.Follows history) {w : Written} {bytes : List UInt8}
    (spells : w.Spells bytes) : (s.putRaw id bytes).Follows (history ++ [(id, w)]) := by
  refine ⟨follows.backing, fun k => ?_⟩
  have row : (s.putRaw id bytes).rows.get? k = if k = id then some bytes else s.rows.get? k :=
    Keyed.get?_insert s.rows id bytes k
  rw [row, lastWritten_concat]
  split
  · exact .some spells
  · exact follows.rows k

theorem put (follows : s.Follows history) {r : Record} (written : s.put id r = .ok t) :
    t.Follows (history ++ [(id, .record r)]) := by
  unfold Store.put at written
  split at written
  next bytes encoded =>
    cases written
    exact follows.putRaw encoded
  next => cases written

theorem putAll (follows : s.Follows history) {preset : List (String × Record)}
    (written : s.putAll preset = .ok t) : t.Follows (history ++ presetWrites preset) := by
  induction preset generalizing s history with
  | nil =>
    cases written
    rw [presetWrites, List.map_nil, List.append_nil]
    exact follows
  | cons entry rest ih =>
    obtain ⟨id, r⟩ := entry
    obtain ⟨next, first, later⟩ := Record.bind_eq_ok_iff.mp written
    rw [presetWrites, List.map_cons, List.append_cons]
    exact ih (follows.put first) later

theorem row_cases (follows : s.Follows history) (id : String) :
    (lastWritten history id = none ∧ s.rows.get? id = none) ∨
      ∃ w bytes, lastWritten history id = some w ∧ s.rows.get? id = some bytes ∧
        read id bytes = w.answer id := by
  have row := follows.rows id
  cases last : lastWritten history id with
  | none =>
    rw [last] at row
    cases stored : s.rows.get? id with
    | none => exact .inl ⟨rfl, rfl⟩
    | some bytes =>
      rw [stored] at row
      cases row
  | some w =>
    rw [last] at row
    cases stored : s.rows.get? id with
    | none =>
      rw [stored] at row
      cases row
    | some bytes =>
      rw [stored] at row
      cases row with
      | some spells => exact .inr ⟨w, bytes, rfl, rfl, Written.read_of_spells spells id⟩

/-- Of all that was written only the last write under the identifier decides the answer. -/
theorem fetch_eq (follows : s.Follows history) (id : String) :
    s.fetch id = (answerAfter history id, []) := by
  have memory : s.fetch id = (s.fetchMemory id, []) := by rw [fetch, follows.backing]
  rw [memory, fetchMemory, answerAfter]
  cases blank : Text.isBlankText id with
  | true =>
    rw [checkIdentifier, if_pos blank, if_pos rfl]
    rfl
  | false =>
    rw [checkIdentifier_of_shows blank, if_neg Bool.false_ne_true]
    rcases follows.row_cases id with ⟨unwritten, absent⟩ | ⟨w, bytes, written, stored, answered⟩
    · rw [unwritten, absent]
      rfl
    · rw [written, stored]
      exact congrArg (·, []) answered

end Follows

/-- Descriptions are written if each of them has bytes. -/
theorem exists_putAll_iff (s : Store) (preset : List (String × Record)) :
    (∃ t, s.putAll preset = .ok t) ↔ ∀ entry ∈ preset, entry.2.encode.isOk = true := by
  induction preset generalizing s with
  | nil => exact ⟨fun _ _ member => absurd member List.not_mem_nil, fun _ => ⟨s, rfl⟩⟩
  | cons entry rest ih =>
    obtain ⟨id, r⟩ := entry
    rw [List.forall_mem_cons, putAll, put]
    cases r.encode with
    | error oversize =>
      refine ⟨fun written => ?_, fun both => absurd both.1 Bool.false_ne_true⟩
      obtain ⟨t, written⟩ := written
      cases written
    | ok bytes =>
      rw [← ih (s.putRaw id bytes)]
      exact ⟨fun written => ⟨rfl, written⟩, fun both => both.2⟩

end Store

/-! ## Feeds without a cache -/

namespace Feed

/-- A feed from memory alone holds what was written. -/
structure Follows (f : Feed) (history : List (String × Written)) : Prop where
  uncached : f.cache = none
  store : f.store.Follows history

variable {f : Feed} {history : List (String × Written)}

theorem fetch_of_uncached (uncached : f.cache = none) (times : Readings) (id : String) :
    f.fetch times id = f.fetchStored id := by
  unfold fetch
  rw [uncached]

namespace Follows

theorem fetch_eq (follows : f.Follows history) (times : Readings) (id : String) :
    f.fetch times id = ⟨answerAfter history id, [], { f with lookups := f.lookups + 1 }⟩ := by
  rw [fetch_of_uncached follows.uncached, fetchStored, follows.store.fetch_eq]

theorem after (follows : f.Follows history) (times : String → Readings) (ids : List String) :
    (f.after times ids).Follows history := by
  induction ids generalizing f with
  | nil => exact follows
  | cons id rest ih =>
    rw [after_cons, follows.fetch_eq]
    exact ih ⟨follows.uncached, follows.store⟩

theorem synthesize (follows : f.Follows history) (c : Context) (clock : Clock) :
    (c.synthesize f clock).feed.Follows history := by
  have course := synthesize_course c f clock
  generalize c.synthesize f clock = outcome at course
  cases course with
  | idle => exact follows
  | unidentified => exact follows
  | completed => exact follows.after clock.fetching _
  | refused => exact follows.after clock.fetching _

end Follows

end Feed

/-! ## Runs -/

namespace State

variable {s : State} {history : List (String × Written)}

/-- A step adds to what was written what it writes itself. -/
theorem follows_step (follows : s.feed.Follows history) (clock : Clock) (step : Step) :
    (s.step clock step).state.feed.Follows (history ++ step.written) := by
  have unchanged : s.feed.Follows (history ++ []) := by
    rw [List.append_nil]
    exact follows
  cases step with
  | put id r =>
    simp only [State.step, Step.written]
    cases encoded : r.encode with
    | error oversize =>
      have refused : s.feed.store.put id r = .error (.unencodable oversize.message) := by
        rw [Store.put, encoded]
      rw [refused]
      exact unchanged
    | ok bytes =>
      have written : s.feed.store.put id r = .ok (s.feed.store.putRaw id bytes) := by
        rw [Store.put, encoded]
      rw [written]
      exact ⟨follows.uncached, follows.store.put written⟩
  | putRaw id bytes => exact ⟨follows.uncached, follows.store.putRaw rfl⟩
  | fetch id =>
    simp only [State.step, Step.written, List.append_nil]
    rw [follows.fetch_eq]
    exact ⟨follows.uncached, follows.store⟩
  | purge =>
    refine ⟨?_, unchanged.store⟩
    simp only [State.step, State.supply, Feed.purge, follows.uncached]
    rfl
  | synthesize =>
    simp only [State.step, Step.written, List.append_nil]
    exact follows.synthesize s.context clock
  | _ => exact unchanged

theorem follows_after (follows : s.feed.Follows history) (steps : List (Clock × Step)) :
    (s.after steps).feed.Follows (history ++ steps.flatMap fun timed => timed.2.written) := by
  induction steps generalizing s history with
  | nil =>
    rw [after_nil, List.flatMap_nil, List.append_nil]
    exact follows
  | cons timed rest ih =>
    obtain ⟨clock, step⟩ := timed
    rw [after_cons, List.flatMap_cons, ← List.append_assoc]
    exact ih (follows_step follows clock step)

/-- A store in memory can begin with any descriptions that have bytes, an identifier among them
repeatedly or not. After a run of steps of any kind a lookup is refused if the identifier does not
show; or else it answers what was written last under exactly that identifier, and nothing is found
where nothing was. A description comes back as it was, bytes are read for what they are, and what
was written under other identifiers does not matter. The lookup tells nothing and leaves the context
and the store as they were. -/
theorem walk_fetches_last_write (preset : List (String × Record)) :
    ((∃ store, Store.putAll { backing := .memory } preset = .ok store) ↔
      ∀ entry ∈ preset, entry.2.encode.isOk = true) ∧
    ∀ store, Store.putAll { backing := .memory } preset = .ok store →
      ∀ (context : Context) (steps : List (Clock × Step)) (clock : Clock) (id : String),
        let s := (⟨context, { store }⟩ : State).after steps
        let history := presetWrites preset ++ steps.flatMap fun timed => timed.2.written
        let call := s.step clock (.fetch id)
        call.result = Reply.ofAnswer (answerAfter history id) ∧
          answerAfter history id = answerAfter (history.filter fun entry => entry.1 = id) id ∧
          call.messages = [] ∧
          call.state = { s with feed := { s.feed with lookups := s.feed.lookups + 1 } } := by
  refine ⟨Store.exists_putAll_iff _ preset, ?_⟩
  intro store made context steps clock id s history call
  have preset : (⟨context, { store }⟩ : State).feed.Follows (presetWrites preset) :=
    ⟨rfl, Store.follows_nil.putAll made⟩
  have follows : s.feed.Follows history := follows_after preset steps
  have fetched := follows.fetch_eq (clock.fetching id) id
  refine ⟨?_, ?_, ?_, ?_⟩
  · rw [result_fetch, fetched]
  · rw [answerAfter, answerAfter, lastWritten_filter]
  · change (s.feed.fetch (clock.fetching id) id).events.map _ = []
    rw [fetched]
    rfl
  · change { s with feed := (s.feed.fetch (clock.fetching id) id).feed } = _
    rw [fetched]

/-- A store begins with two descriptions under one identifier and one under a blank. Bytes take the
place of the second and are overwritten in turn, after a lookup that meets them and a write under
another spelling of the identifier. -/
theorem walk_fetches_last_write_rewritten :
    let preset := [("CVE-1", Store.mixed), ("CVE-1", Store.severe), (" ", Store.severe)]
    let steps : List (Clock × Step) := [.putRaw "CVE-1" [1, 2], .fetch "CVE-1",
      .put "CVE-1" Store.mixed, .putRaw "cve-1" []].map fun step => (.still "now", step)
    ∃ store, Store.putAll { backing := .memory } preset = .ok store ∧
      let s := (⟨{ scanner := .os }, { store }⟩ : State).after steps
      (s.step (.still "now") (.fetch "CVE-1")).result = .ok (.record Store.mixed) ∧
      (s.step (.still "now") (.fetch "CVE-1 ")).result = .error (.feed (.notFound "CVE-1 ")) ∧
      (s.step (.still "now") (.fetch " ")).result = .error (.feed (.invalidIdentifier " ")) := by
  intro preset steps
  have encodable : ∀ entry ∈ preset, entry.2.encode.isOk = true := by decide +kernel
  obtain ⟨store, made⟩ := (walk_fetches_last_write preset).1.mpr encodable
  have fetched (id : String) := ((walk_fetches_last_write preset).2 store made { scanner := .os }
    steps (.still "now") id).1
  let history := presetWrites preset ++ steps.flatMap fun timed => timed.2.written
  have overwritten : answerAfter history "CVE-1" = .ok Store.mixed := by decide +kernel
  have padded : answerAfter history "CVE-1 " = .error (.notFound "CVE-1 ") := by decide +kernel
  have blank : answerAfter history " " = .error (.invalidIdentifier " ") := by decide +kernel
  exact ⟨store, made, (fetched "CVE-1").trans (congrArg Reply.ofAnswer overwritten),
    (fetched "CVE-1 ").trans (congrArg Reply.ofAnswer padded),
    (fetched " ").trans (congrArg Reply.ofAnswer blank)⟩

end State

end Findings
