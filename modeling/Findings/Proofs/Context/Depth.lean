import Findings.Proofs.Context.Restoring
import Findings.Proofs.Entry.Restoring

/-!
How deep entries are. What the matcher says of a candidate stands within a context within two
containers, and in the list of entries its members stand no deeper. So where a context could be
read, its entries can be written and read again as far as their containers are concerned
(`Context.height_entries_lt`).
-/

namespace Findings

open Json
open Record (bind_eq_ok_iff)

/-! ## What is read -/

namespace Json

theorem Reader.height_le_of_remark {d : Draft} {r : Remark} (read : Reader.remark d = .ok r) :
    r.value.height ≤ d.height := by
  obtain ⟨value, spelled, same⟩ := Reader.remark_eq_ok_iff.mp read
  have whole : value.height = d.height := by rw [height, draft_of_value? spelled]
  rw [same, ← whole]
  exact height_sorted_le value

theorem Reader.exists_of_mem_entries {α : Type} {reader : Reader α}
    {members : List (String × Draft)} {values : List (String × α)}
    (read : Reader.entries reader members = .ok values) {e : String × α} (member : e ∈ values) :
    ∃ m ∈ members, reader m.2 = .ok e.2 := by
  have each := Reader.entries_eq_ok_iff.mp read
  clear read
  induction each with
  | nil => cases member
  | @cons m other _ _ first _ ih =>
    rcases List.mem_cons.mp member with rfl | later
    · exact ⟨m, List.mem_cons_self, first.2⟩
    · obtain ⟨m', listed, found⟩ := ih later
      exact ⟨m', List.mem_cons_of_mem m listed, found⟩

/-- A map is one container more than what is in it. -/
theorem Reader.height_lt_of_keyed {d : Draft} {m : Keyed Remark}
    (read : Reader.keyed Reader.remark d = .ok m) :
    ∀ e ∈ m.entries, e.2.value.height < d.height := by
  cases d with
  | object members closed =>
    obtain ⟨values, entries, whole⟩ := bind_eq_ok_iff.mp read
    cases closed with
    | false => cases whole
    | true =>
      cases whole
      intro e member
      obtain ⟨m, listed, read⟩ := Reader.exists_of_mem_entries entries (Keyed.mem_ofList member)
      have within := Draft.height_le_heightMembers m listed
      exact Nat.lt_succ_of_le ((Reader.height_le_of_remark read).trans within)
  | number n => cases n <;> cases read
  | _ => cases read

/-- A structure is one container more than its members. -/
theorem Struct.height_lt_of_known {s : Struct} {source : Source} {d : Draft}
    {members : List (String × Draft)} (known : s.known source d = .ok members) :
    ∀ m ∈ members, m.2.height < d.height := by
  cases d with
  | object given closed =>
    obtain ⟨_, _, whole⟩ := bind_eq_ok_iff.mp known
    cases closed with
    | false => cases whole
    | true =>
      cases whole
      exact fun m member => Nat.lt_succ_of_le (Draft.height_le_heightMembers m member)
  | array items =>
    obtain ⟨_, _, returned⟩ := bind_eq_ok_iff.mp known
    cases returned
    intro m member
    exact Nat.lt_succ_of_le (Draft.height_le_heightItems m.2 (List.of_mem_zip member).2)
  | number n => cases n <;> cases known
  | _ => cases known

end Json

theorem Context.height_lt_of_read {source : Source} {d : Draft} {c : Context}
    (accepted : read source d = .ok c) :
    ∀ e ∈ c.elements.entries, e.2.value.height + 1 < d.height := by
  simp only [read, bind_eq_ok_iff] at accepted
  obtain ⟨members, known, _, _, _, _, _, _, _, _, elements, read, _, _, returned⟩ := accepted
  cases returned
  intro e member
  rcases orElse_eq_ok_iff.mp read with ⟨_, rfl⟩ | ⟨part, found, read⟩
  · cases member
  · have inner := Reader.height_lt_of_keyed read e member
    have outer := Struct.height_lt_of_known known _ (Keyed.mem_of_lookup found)
    exact Nat.lt_of_le_of_lt inner outer

/-! ## What is reported -/

theorem Remark.height_lt_of_members? {remark : Remark} {members : Keyed Remark}
    (object : remark.members? = some members) :
    ∀ m ∈ members.entries, m.2.value.height < remark.value.height := by
  obtain ⟨value, canonical⟩ := remark
  cases value with
  | object held =>
    cases object
    intro m member
    have listed : (m.1, m.2.value) ∈ held := by
      rw [← map_attach held canonical.2]
      exact List.mem_map_of_mem member
    exact Nat.lt_succ_of_le (height_le_of_mem listed)
  | _ => cases object

/-- Metrics are texts in two containers. -/
theorem Vector.height_toBlock (v : Vector) : v.toBlock.height ≤ 2 := by
  have inner : v.toJson.height ≤ 1 := by
    rw [toJson_eq]
    refine Nat.succ_le_succ (heightMembers_draftMembers_le fun m member => ?_)
    obtain ⟨s, text⟩ := exists_string_of_mem m member
    rw [text]
    exact Nat.le_refl 0
  refine Nat.succ_le_succ (heightMembers_draftMembers_le fun m member => ?_)
  rw [List.mem_singleton.mp member]
  exact inner

namespace Entry

theorem height_lt_of_passedThrough {remark : Remark} :
    ∀ m ∈ (passedThrough remark).entries, m.2.value.height < remark.value.height := by
  unfold passedThrough
  cases object : remark.members? with
  | none => exact fun _ member => nomatch member
  | some members =>
    exact fun m member =>
      Remark.height_lt_of_members? object m (List.mem_of_mem_filter member)

/-- The fields of an entry are shallow: the metrics are three containers deep, and the other fields
less. -/
theorem height_fieldMembers_le (e : Entry) : ∀ m ∈ e.fieldMembers, m.2.height ≤ 3 := by
  have text (s : String) : (Json.string s).height ≤ 3 := Nat.zero_le 3
  have score : e.score.toJson.height ≤ 3 := by
    have base : (ofDouble e.score.base).height = 0 := by
      unfold ofDouble
      split <;> rfl
    have version : (Json.string e.score.version).height = 0 := rfl
    have parts : ∀ m ∈ [("base", ofDouble e.score.base), ("version", .string e.score.version)],
        m.2.height ≤ 2 := by
      simp [base, version]
    exact Nat.succ_le_succ (heightMembers_draftMembers_le parts)
  have blocks : (Json.object (e.cvss.map Vector.toBlock).entries).height ≤ 3 := by
    refine Nat.succ_le_succ (heightMembers_draftMembers_le fun m member => ?_)
    obtain ⟨block, _, rfl⟩ := List.mem_map.mp member
    exact block.2.height_toBlock
  rw [fieldMembers_eq_present]
  refine forall_mem_present (P := fun value => value.height ≤ 3) ?_
  simp [fields, text, score]
  exact fun _ => blocks

theorem height_toJson_le {e : Entry} {bound : Nat} (deep : 3 ≤ bound)
    (remarks : ∀ m ∈ e.remarks.entries, m.2.value.height ≤ bound) :
    e.toJson.height ≤ bound + 1 := by
  refine Nat.succ_le_succ (heightMembers_draftMembers_le fun m member => ?_)
  rcases List.mem_append.mp member with field | remark
  · exact (e.height_fieldMembers_le m field).trans deep
  · obtain ⟨held, listed, rfl⟩ := List.mem_map.mp remark
    exact remarks held listed

end Entry

/-- The entries of a context that was read from a text are not too deep to be read again. -/
theorem Context.height_entries_lt {text : String} {c : Context} {feed : Feed} {clock : Clock}
    {entries : List Entry} (parsed : parse (read .text) text = .ok c)
    (succeeded : (c.synthesize feed clock).result = .ok entries) :
    (Json.array (entries.map Entry.toJson)).height < nestingLimit := by
  obtain ⟨d, _, room, accepted⟩ := exists_draft_of_parse parsed
  have limit : nestingLimit = 128 := rfl
  have each : ∀ e ∈ entries, e.toJson.height ≤ 125 := by
    intro e member
    obtain ⟨candidate, listed, time, r, words, _, rfl⟩ :=
      (synthesize_course c feed clock).exists_composed_of_ok succeeded e member
    obtain ⟨element, found, rfl⟩ := List.mem_map.mp listed
    have said := height_lt_of_read accepted element found
    refine Entry.height_toJson_le (by decide) fun m passed => ?_
    have deeper := Entry.height_lt_of_passedThrough m passed
    dsimp only at deeper
    omega
  have items : Draft.heightItems (draftItems (entries.map Entry.toJson)) ≤ 125 :=
    heightItems_draftItems_le (List.forall_mem_map.mpr each)
  rw [height_array]
  omega

end Findings
