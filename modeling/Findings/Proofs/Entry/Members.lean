import Findings.Entry.Json
import Findings.Proofs.Keyed

/-!
The members an entry is written with. Each of its fields has one name, and a field that the entry
does not have is left out; the remarks follow. As long as no remark is named like a field
(`Entry.Apart`), no key is written twice, and a key shows either what the entry has under it as a
field or what the matcher says under it, and nothing else.
-/

namespace Findings

/-! ## Members that are left out where there is nothing to show -/

namespace Json

/-- The members of parts that are there. -/
def present (parts : List (String × Option Json)) : List (String × Json) :=
  parts.filterMap fun part => part.2.map fun value => (part.1, value)

theorem present_some (key : String) (value : Json) : present [(key, some value)] = [(key, value)] :=
  rfl

theorem present_append (front back : List (String × Option Json)) :
    present (front ++ back) = present front ++ present back := List.filterMap_append

theorem present_cons_cons (part next : String × Option Json) (rest : List (String × Option Json)) :
    present (part :: next :: rest) = present [part] ++ present (next :: rest) :=
  present_append [part] (next :: rest)

theorem optionalMember_eq_present (key : String) (text : Option String) :
    optionalMember key text = present [(key, text.map Json.string)] := by
  cases text <;> rfl

/-- What holds of every part that is there holds of every member. -/
theorem forall_mem_present {P : Json → Prop} {parts : List (String × Option Json)}
    (each : ∀ part ∈ parts, ∀ value ∈ part.2, P value) : ∀ m ∈ present parts, P m.2 := by
  intro m member
  obtain ⟨part, listed, shown⟩ := List.mem_filterMap.mp member
  obtain ⟨value, there, rfl⟩ := Option.map_eq_some_iff.mp shown
  exact each part listed value there

theorem keys_present_sublist (parts : List (String × Option Json)) :
    ((present parts).map Prod.fst).Sublist (parts.map Prod.fst) := by
  induction parts with
  | nil => exact .slnil
  | cons part rest ih =>
    obtain ⟨key, value⟩ := part
    cases value with
    | none => exact ih.cons key
    | some value => exact ih.cons_cons key

/-- Under a name of its own each part shows what it is, or nothing where it is not there. -/
theorem lookup_present {parts : List (String × Option Json)} (distinct : (parts.map Prod.fst).Nodup)
    (key : String) : (present parts).lookup key = (parts.lookup key).join := by
  induction parts with
  | nil => rfl
  | cons part rest ih =>
    obtain ⟨name, value⟩ := part
    obtain ⟨new, others⟩ := List.nodup_cons.mp distinct
    rw [Keyed.lookup_cons_ite]
    by_cases same : key = name
    · subst same
      rw [if_pos rfl]
      cases value with
      | none =>
        refine List.lookup_eq_none_iff.mpr fun member found => bne_iff_ne.mpr fun equal => new ?_
        rw [equal]
        exact (keys_present_sublist rest).subset (List.mem_map_of_mem found)
      | some value =>
        exact List.lookup_cons_self
    · rw [if_neg same, ← ih others]
      cases value with
      | none => rfl
      | some value => exact (Keyed.lookup_cons_ite ..).trans (if_neg same)

end Json

/-! ## Remarks -/

/-- The members of a remark that is an object are those of its value; any other remark has none. -/
theorem Remark.member?_eq (remark : Remark) (key : String) :
    remark.value.member? key = (remark.members?.bind (·.get? key)).map value := by
  obtain ⟨value, canonical⟩ := remark
  cases value with
  | object members =>
    have attached : Keyed.map Remark.value
        ⟨attach members canonical.2, ascending_attach canonical.2 canonical.1⟩ =
        ⟨members, canonical.1⟩ := Keyed.ext (map_attach members canonical.2)
    rw [members?, Option.bind_some, ← Keyed.get?_map, attached]
    rfl
  | _ => rfl

namespace Entry

open Json

/-- What passes through is what a remark says under names that are no names of fields. -/
theorem get?_passedThrough (remark : Remark) (key : String) :
    (passedThrough remark).get? key =
      if key ∈ fieldNames then none else remark.members?.bind (·.get? key) := by
  unfold passedThrough
  cases remark.members? with
  | none => exact (ite_self none).symm
  | some members =>
    dsimp only
    rw [Keyed.get?_filter, Option.bind_some]
    by_cases named : key ∈ fieldNames
    · simp [named]
    · cases members.get? key <;> simp [named]

/-- No remark is named like a field. -/
def Apart (e : Entry) : Prop := ∀ key ∈ fieldNames, e.remarks.get? key = none

/-! ## Fields -/

/-- The fields of an entry by name, each with what it shows if the entry has it. -/
def fields (e : Entry) : List (String × Option Json) := [
  ("category", some (.string e.category)),
  ("classification", some (.string e.classification)),
  ("description", some (.string e.description)),
  ("detected_at", some (.string e.detectedAt)),
  ("enumeration", some (.string e.enumeration)),
  ("id", some (.string e.id)),
  ("item_id", e.itemId.map .string),
  ("published_at", some (.string e.publishedAt)),
  ("reference", some (.string e.reference)),
  ("score", some e.score.toJson),
  ("severity", some (.string e.severity)),
  ("assigner", e.assigner.map .string),
  ("cwe_reference", e.cweReference.map .string),
  ("updated", e.updated.map .string),
  ("condition", e.condition.map .string),
  ("cvss", if e.cvss.isEmpty then none else some (.object (e.cvss.map Vector.toBlock).entries))]

theorem names_fields (e : Entry) : e.fields.map Prod.fst = fieldNames := rfl

theorem nodup_fieldNames : fieldNames.Nodup := by decide

theorem cvssMember_eq_present (cvss : Keyed Vector) :
    cvssMember cvss = present [("cvss",
      if cvss.isEmpty then none else some (.object (cvss.map Vector.toBlock).entries))] := by
  unfold cvssMember
  split <;> rfl

theorem fieldMembers_eq_present (e : Entry) : e.fieldMembers = present e.fields := by
  simp only [fieldMembers, fields, optionalMember_eq_present, cvssMember_eq_present,
    present_cons_cons, present_some, List.append_assoc, List.cons_append, List.nil_append]

theorem keys_fieldMembers_sublist (e : Entry) :
    (e.fieldMembers.map Prod.fst).Sublist fieldNames := by
  rw [fieldMembers_eq_present, ← e.names_fields]
  exact keys_present_sublist e.fields

theorem lookup_fieldMembers (e : Entry) (key : String) :
    e.fieldMembers.lookup key = (e.fields.lookup key).join := by
  rw [fieldMembers_eq_present]
  exact lookup_present (e.names_fields ▸ nodup_fieldNames) key

/-! ## Members -/

/-- The members an entry is written with. -/
def members (e : Entry) : List (String × Json) :=
  e.fieldMembers ++ (e.remarks.map Remark.value).entries

theorem toJson_eq_object (e : Entry) : e.toJson = .object e.members := rfl

/-- No key is written twice while the remarks keep apart from the fields. -/
theorem nodup_keys_members {e : Entry} (apart : e.Apart) : (e.members.map Prod.fst).Nodup := by
  rw [members, List.map_append]
  refine List.nodup_append.mpr ⟨nodup_fieldNames.sublist e.keys_fieldMembers_sublist,
    Keyed.keys_nodup _, fun name named key remarked same => ?_⟩
  have field : name ∈ fieldNames := e.keys_fieldMembers_sublist.subset named
  have known : key ∈ (e.remarks.map Remark.value).keys := remarked
  rw [Keyed.keys_map, Keyed.mem_keys_iff, ← same, apart name field] at known
  cases known

/-- Under the name of a field stands the field, if the entry has it. -/
theorem lookup_members_of_mem {e : Entry} (apart : e.Apart) {name : String}
    (field : name ∈ fieldNames) : e.members.lookup name = (e.fields.lookup name).join := by
  have unremarked : (e.remarks.map Remark.value).entries.lookup name = none :=
    (Keyed.get?_map Remark.value e.remarks name).trans (by rw [apart name field]; rfl)
  rw [members, List.lookup_append, lookup_fieldMembers, unremarked, Option.or_none]

/-- Under any other name stands what the remarks say under it. -/
theorem lookup_members_of_not_mem (e : Entry) {key : String} (other : key ∉ fieldNames) :
    e.members.lookup key = (e.remarks.get? key).map Remark.value := by
  have unnamed : e.fieldMembers.lookup key = none := by
    refine List.lookup_eq_none_iff.mpr fun member found => bne_iff_ne.mpr fun same => other ?_
    rw [same]
    exact e.keys_fieldMembers_sublist.subset (List.mem_map_of_mem found)
  rw [members, List.lookup_append, unnamed, Option.none_or]
  exact Keyed.get?_map Remark.value e.remarks key

end Entry

end Findings
