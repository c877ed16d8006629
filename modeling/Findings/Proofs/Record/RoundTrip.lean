import Findings.Feed.Store
import Findings.Proofs.Record.Reading

/-!
What is written is read back. A description whose texts are short enough can be written, and under
every revision that is read, its bytes give it back with whatever a newer revision appends
(`Store.read_written`).
-/

namespace Findings

namespace Record

/-- The texts of a description. -/
def texts (r : Record) : List (Option String) :=
  [r.assignerShortName, r.classification, r.cweId, r.datePublished, r.dateUpdated, r.description,
    r.reference, r.scoreVersion, r.severity, r.metrics.accessComplexity, r.metrics.attackVector,
    r.metrics.authentication, r.metrics.availabilityImpact, r.metrics.confidentialityImpact,
    r.metrics.integrityImpact, r.metrics.privilegesRequired, r.metrics.scope,
    r.metrics.userInteraction]

/-- No text is as long as the length that stands for an absent one. -/
def Brief (texts : List (Option String)) : Prop :=
  ∀ s, some s ∈ texts → Utf8.size s < 2 ^ 32 - 1

theorem textBytes_of_brief (field : String) {text : Option String}
    (brief : ∀ s, text = some s → Utf8.size s < 2 ^ 32 - 1) :
    ∃ bytes, textBytes field text = .ok bytes := by
  cases text with
  | none => exact ⟨_, rfl⟩
  | some s => exact ⟨_, textBytes_some_eq_ok_iff.mpr ⟨brief s rfl, rfl⟩⟩

theorem textsBytes_of_brief {fields : List (String × Option String)}
    (brief : Brief (fields.map Prod.snd)) : ∃ bytes, textsBytes fields = .ok bytes := by
  induction fields with
  | nil => exact ⟨[], rfl⟩
  | cons head rest ih =>
    obtain ⟨field, text⟩ := head
    obtain ⟨first, firstWritten⟩ := textBytes_of_brief field fun s same =>
      brief s (same ▸ List.mem_cons_self)
    obtain ⟨others, othersWritten⟩ := ih fun s member => brief s (List.mem_cons_of_mem text member)
    exact ⟨_, textsBytes_cons_eq_ok_iff.mpr ⟨first, others, firstWritten, othersWritten, rfl⟩⟩

/-- The layout stores no text but those of the description. -/
theorem textsBeforeScore_subset (r : Record) : r.textsBeforeScore.map Prod.snd ⊆ r.texts := by
  simp [textsBeforeScore, texts]

theorem textsAfterScore_subset (r : Record) : r.textsAfterScore.map Prod.snd ⊆ r.texts := by
  simp [textsAfterScore, texts]

/-- A description with short texts can be written. -/
theorem body_of_brief {r : Record} (brief : Brief r.texts) : ∃ bytes, r.body = .ok bytes := by
  have briefBefore : Brief (r.textsBeforeScore.map Prod.snd) :=
    fun s member => brief s (r.textsBeforeScore_subset member)
  have briefAfter : Brief (r.textsAfterScore.map Prod.snd) :=
    fun s member => brief s (r.textsAfterScore_subset member)
  obtain ⟨before, beforeWritten⟩ := textsBytes_of_brief briefBefore
  obtain ⟨after, afterWritten⟩ := textsBytes_of_brief briefAfter
  exact ⟨_, body_eq_ok_iff.mpr ⟨before, after, beforeWritten, afterWritten, rfl⟩⟩

theorem encode_of_body {r : Record} {bytes : List UInt8} (written : r.body = .ok bytes) :
    r.encode = .ok (Revision.current.header ++ bytes) := by
  rw [encode, written]
  rfl

/-- What stands behind the fields is looked at under the current revision only. -/
theorem decode_header_append {r : Record} {bytes : List UInt8} (written : r.body = .ok bytes)
    (minor : UInt16) (tail : List UInt8) :
    decode ((⟨1, minor⟩ : Revision).header ++ bytes ++ tail) =
      if minor = 0 ∧ tail ≠ [] then .error (.trailing tail.length) else .ok r := by
  have revision := Revision.ofHeader_eq_ok_iff.mpr
    ⟨bytes ++ tail, List.append_assoc (Revision.header ⟨1, minor⟩) bytes tail⟩
  have behind : ((⟨1, minor⟩ : Revision).header ++ bytes ++ tail).drop headerSize =
      bytes ++ tail := by
    rw [List.append_assoc, List.drop_left' (Revision.length_header _)]
  have fields := readFields_eq_ok_iff.mpr ⟨bytes, written, Cursor.passes_next headerSize bytes tail⟩
  have least : minor ≤ Revision.current.minor ↔ minor = 0 := UInt16.le_zero_iff
  unfold decode
  rw [revision, behind]
  change (readFields _ >>= fun next => _) = _
  rw [fields]
  change (if tail ≠ [] ∧ minor ≤ Revision.current.minor then _ else _) = _
  by_cases refused : minor = 0 ∧ tail ≠ []
  · rw [if_pos refused, if_pos ⟨refused.2, least.mpr refused.1⟩]
    rfl
  · rw [if_neg refused, if_neg fun both => refused ⟨least.mp both.2, both.1⟩]
    rfl

end Record

namespace Store

/-- A description is read back from what was written for it, and under every revision of the first
major number from a body with anything behind it. Only the current revision refuses what stands
behind the body. -/
theorem read_written (id : String) (r : Record)
    (brief : ∀ s, some s ∈ r.texts → Utf8.size s < 2 ^ 32 - 1) :
    ∃ body, r.body = .ok body ∧
      r.encode = .ok (Record.Revision.current.header ++ body) ∧
      read id (Record.Revision.current.header ++ body) = .ok r ∧
      ∀ (minor : UInt16) (tail : List UInt8),
        read id ((⟨1, minor⟩ : Record.Revision).header ++ body ++ tail) =
          if minor = 0 ∧ tail ≠ [] then .error (.undecodable id s!"{tail.length} trailing bytes")
          else .ok r := by
  obtain ⟨body, written⟩ := Record.body_of_brief brief
  have everywhere (minor : UInt16) (tail : List UInt8) :
      read id ((⟨1, minor⟩ : Record.Revision).header ++ body ++ tail) =
        if minor = 0 ∧ tail ≠ [] then .error (.undecodable id s!"{tail.length} trailing bytes")
        else .ok r := by
    unfold read
    rw [Record.decode_header_append written]
    by_cases refused : minor = 0 ∧ tail ≠ []
    · rw [if_pos refused, if_pos refused]
      rfl
    · rw [if_neg refused, if_neg refused]
  refine ⟨body, written, Record.encode_of_body written, ?_, everywhere⟩
  have current := everywhere 0 []
  rwa [List.append_nil, if_neg fun refused => refused.2 rfl] at current

/-- A description with an empty text, an absent one, one beyond the first plane and a score that is
no number. -/
def mixed : Record where
  description := some ""
  severity := some "hälfte 🦀"
  score := ⟨0xFFC00001⟩

theorem read_written_mixed :
    (∀ s, some s ∈ mixed.texts → Utf8.size s < 2 ^ 32 - 1) ∧
      ∃ body, mixed.body = .ok body ∧
        mixed.encode = .ok (Record.Revision.current.header ++ body) ∧
        read "CVE-2024-0001" (Record.Revision.current.header ++ body) = .ok mixed ∧
        read "CVE-2024-0001" ((⟨1, 7⟩ : Record.Revision).header ++ body ++ [0xFF]) = .ok mixed ∧
        read "CVE-2024-0001" ((⟨1, 0⟩ : Record.Revision).header ++ body ++ [0xFF]) =
          .error (.undecodable "CVE-2024-0001" "1 trailing bytes") := by
  have brief : ∀ s, some s ∈ mixed.texts → Utf8.size s < 2 ^ 32 - 1 := by
    intro s member
    simp only [Record.texts, mixed, List.mem_cons, Option.some.injEq, reduceCtorEq, false_or,
      List.not_mem_nil, or_false] at member
    rcases member with rfl | rfl <;> decide +kernel
  obtain ⟨body, written, encoded, decoded, everywhere⟩ := read_written "CVE-2024-0001" mixed brief
  exact ⟨brief, body, written, encoded, decoded, everywhere 7 [0xFF], everywhere 0 [0xFF]⟩

end Store

end Findings
