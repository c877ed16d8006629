import Findings.Proofs.Entry.Composition
import Findings.Proofs.Json.Range
import Findings.Proofs.Json.Recovery
import Findings.Proofs.Run.Origins

/-!
Entries that are written down and read back. As long as no remark is named like a field and the
score is finite, an entry is recovered from the value it is written as, in whatever order the
members of its objects stand (`Entry.recovers`). What is read as an entry has both properties
(`Entry.ReadFrom`), so that a field that was spelled as null, or as an empty map, is left out once
and the entry stays the same from then on (`Entry.written_entry_restores_entry`).
-/

namespace Findings

open Json
open Record (bind_eq_ok_iff)

/-! ## Parts that are missing -/

namespace Json

variable {α : Type} {members : List (String × Draft)} {name : String} {reader : Reader α} {a : α}

/-- Nothing stands there, or nothing in it. -/
def isBlank : Option Draft → Bool
  | none | some .null | some (.object [] _) => true
  | some _ => false

theorem isBlank_of_text {s : String} (read : require members name Reader.string = .ok s) :
    isBlank (members.lookup name) = false := by
  obtain ⟨d, found, read⟩ := require_eq_ok_iff.mp read
  rw [found]
  cases d with
  | string _ => rfl
  | number n => cases n <;> cases read
  | _ => cases read

/-- An optional text is missing when its member is, or is null. -/
theorem isBlank_of_optional {s : Option String}
    (read : orElse members name Reader.optionalString none = .ok s) :
    isBlank (members.lookup name) = s.isNone := by
  rcases orElse_eq_ok_iff.mp read with ⟨absent, rfl⟩ | ⟨d, found, read⟩
  · rw [absent]
    rfl
  rw [found]
  cases d with
  | null =>
    cases read
    rfl
  | string _ =>
    cases read
    rfl
  | number n => cases n <;> cases read
  | _ => cases read

theorem isBlank_of_keyed {m : Keyed α}
    (read : orElse members name (Reader.keyed reader) ∅ = .ok m) :
    isBlank (members.lookup name) = m.isEmpty := by
  rcases orElse_eq_ok_iff.mp read with ⟨absent, rfl⟩ | ⟨d, found, read⟩
  · rw [absent]
    rfl
  rw [found]
  cases d with
  | object inner closed =>
    obtain ⟨values, entries, returned⟩ := Record.bind_eq_ok_iff.mp read
    cases closed with
    | false => cases returned
    | true =>
      cases returned
      rw [Reader.isEmpty_of_entries entries]
      cases inner <;> rfl
  | number n => cases n <;> cases read
  | _ => cases read

end Json

/-! ## Scores -/

theorem Json.Reader.recovers_double {x : Number.Double} (finite : x.isFinite) :
    Reader.double.Recovers (.ofDouble x) x := by
  rw [ofDouble, if_pos finite]
  exact .of_plain rfl rfl

namespace Score

theorem unrepeated_toJson (s : Score) : s.toJson.Unrepeated := by
  have base : (ofDouble s.base).Unrepeated := by
    unfold ofDouble
    split <;> trivial
  exact ⟨by simp, base, trivial, trivial⟩

theorem recovers (source : Source) {s : Score} (finite : s.base.isFinite) :
    (read source).Recovers s.toJson s := by
  have base := Reader.recovers_double finite
  refine Struct.recovers source s.unrepeated_toJson.1 ?_ fun members rearranged => ?_
  · simp [Struct.Accepts, shape, List.lookup_cons, base.required]
  · simp only [bind_eq_ok_iff]
    exact ⟨_, rearranged.require rfl base, _,
      rearranged.require rfl (Reader.recovers_string s.version), rfl⟩

/-- A score is read as a finite one. -/
theorem isFinite_of_read {source : Source} {d : Draft} {s : Score} (fits : d.Fits)
    (accepted : read source d = .ok s) : s.base.isFinite := by
  obtain ⟨members, known, built⟩ := bind_eq_ok_iff.mp accepted
  obtain ⟨base, readBase, built⟩ := bind_eq_ok_iff.mp built
  obtain ⟨version, _, returned⟩ := bind_eq_ok_iff.mp built
  cases returned
  obtain ⟨part, found, read⟩ := require_eq_ok_iff.mp readBase
  have inner := Struct.fits_of_known fits known _ (Keyed.mem_of_lookup found)
  exact Reader.isFinite_of_double inner read

theorem isBlank_of_require {source : Source} {members : List (String × Draft)} {name : String}
    {s : Score} (accepted : Json.require members name (read source) = .ok s) :
    isBlank (members.lookup name) = false := by
  obtain ⟨d, found, accepted⟩ := require_eq_ok_iff.mp accepted
  rw [found]
  cases d with
  | null => cases accepted
  | object inner closed =>
    cases inner with
    | nil => cases closed <;> cases accepted
    | cons _ _ => rfl
  | _ => rfl

theorem legible_toJson {s : Score} {depth : Nat} (room : depth + 1 < nestingLimit)
    (base : (Number.float s.base).ReadsBack) : s.toJson.Legible depth := by
  have shown : (ofDouble s.base).Legible (depth + 1) := by
    unfold ofDouble
    split
    · exact base
    · trivial
  exact ⟨room, shown, trivial, trivial⟩

end Score

/-! ## Metrics -/

namespace Vector

/-- The metrics by name, each with what it shows if it is there. -/
def fields (v : Vector) : List (String × Option Json) := [
  ("access_complexity", v.accessComplexity.map .string),
  ("authentication", v.authentication.map .string),
  ("attack_vector", v.attackVector.map .string),
  ("privileges_required", v.privilegesRequired.map .string),
  ("scope", v.scope.map .string),
  ("user_interaction", v.userInteraction.map .string),
  ("availability", v.availability.map .string),
  ("confidentiality_impact", v.confidentialityImpact.map .string),
  ("integrity_impact", v.integrityImpact.map .string)]

theorem toJson_eq (v : Vector) : v.toJson = .object (present v.fields) := by
  simp only [toJson, fields, optionalMember_eq_present, present_cons_cons, List.append_assoc]

theorem nodup_names_fields (v : Vector) : (v.fields.map Prod.fst).Nodup := by
  simp [fields]

/-- Every metric that is there is a text. -/
theorem exists_string_of_mem {v : Vector} : ∀ m ∈ present v.fields, ∃ s, m.2 = .string s := by
  refine forall_mem_present (P := fun value => ∃ s, value = .string s) ?_
  simp [fields]

theorem unrepeated_toJson (v : Vector) : v.toJson.Unrepeated := by
  rw [toJson_eq]
  refine ⟨v.nodup_names_fields.sublist (keys_present_sublist _), unrepeatedMembers_iff.mpr ?_⟩
  intro m member
  obtain ⟨s, text⟩ := exists_string_of_mem m member
  rw [text]
  trivial

theorem recovers (source : Source) (v : Vector) : (read source).Recovers v.toJson v := by
  rw [toJson_eq]
  have distinct := v.nodup_names_fields
  refine Struct.recovers source (distinct.sublist (keys_present_sublist _)) ?_
    fun members rearranged => ?_
  · intro field listed value found
    obtain ⟨name, -, rfl⟩ := List.mem_map.mp listed
    obtain ⟨s, rfl⟩ := exists_string_of_mem _ (Keyed.mem_of_lookup found)
    exact Field.accepts_some_or_default name s
  · have text {name : String} {s : Option String}
        (part : (v.fields.lookup name).join = s.map string) :
        orElse (draftMembers members) name Reader.optionalString none = .ok s :=
      rearranged.optional ((lookup_present distinct name).trans part)
    simp only [bind_eq_ok_iff]
    exact ⟨_, text rfl, _, text rfl, _, text rfl, _, text rfl, _, text rfl, _, text rfl, _,
      text rfl, _, text rfl, _, text rfl, rfl⟩

theorem unrepeated_toBlock (v : Vector) : v.toBlock.Unrepeated :=
  ⟨List.pairwise_singleton _ _, v.unrepeated_toJson, trivial⟩

theorem recovers_block (source : Source) (v : Vector) :
    (readBlock source).Recovers v.toBlock v := by
  have inner := v.recovers source
  refine Struct.recovers source v.unrepeated_toBlock.1 ?_ fun members rearranged => ?_
  · simp [Struct.Accepts, blockShape, List.lookup_cons, inner.required]
  · exact rearranged.require rfl inner

theorem legible_toBlock (v : Vector) {depth : Nat} (room : depth + 2 < nestingLimit) :
    v.toBlock.Legible depth := by
  have inner : v.toJson.Legible (depth + 1) := by
    rw [toJson_eq]
    refine ⟨room, legibleMembers_iff.mpr fun m member => ?_⟩
    obtain ⟨s, text⟩ := exists_string_of_mem m member
    rw [text]
    trivial
  exact ⟨Nat.lt_of_succ_lt room, inner, trivial⟩

end Vector

/-! ## Entries -/

namespace Entry

variable {e : Entry}

theorem unrepeated_toJson (apart : e.Apart) : e.toJson.Unrepeated := by
  have blocks := unrepeated_map (m := e.cvss) Vector.unrepeated_toBlock
  have remarks := unrepeated_map (m := e.remarks) fun remark => remark.canonical.unrepeated
  have fields : ∀ m ∈ e.fieldMembers, m.2.Unrepeated := by
    rw [fieldMembers_eq_present]
    refine forall_mem_present (P := Unrepeated) ?_
    simp [fields, Unrepeated, e.score.unrepeated_toJson]
    exact fun _ => blocks
  refine ⟨nodup_keys_members apart, unrepeatedMembers_iff.mpr fun m member => ?_⟩
  rcases List.mem_append.mp member with field | remark
  · exact fields m field
  · exact unrepeatedMembers_iff.mp remarks.2 m remark

/-- All that is written of an entry can be read back but for the number of its score and those in
its remarks. -/
theorem legible_toJson {depth : Nat} (room : depth + 4 < nestingLimit)
    (score : (Number.float e.score.base).ReadsBack)
    (remarks : ∀ m ∈ e.remarks.entries, m.2.value.Legible (depth + 1)) :
    e.toJson.Legible depth := by
  have shown : e.score.toJson.Legible (depth + 1) := Score.legible_toJson (by omega) score
  have blocks : Legible (depth + 1) (.object (e.cvss.map Vector.toBlock).entries) := by
    refine ⟨by omega, legibleMembers_iff.mpr fun m member => ?_⟩
    obtain ⟨block, _, rfl⟩ := List.mem_map.mp member
    exact block.2.legible_toBlock (by omega)
  have fields : ∀ m ∈ e.fieldMembers, m.2.Legible (depth + 1) := by
    rw [fieldMembers_eq_present]
    refine forall_mem_present (P := Legible (depth + 1)) ?_
    simp [fields, Legible, shown]
    exact fun _ => blocks
  refine ⟨by omega, legibleMembers_iff.mpr fun m member => ?_⟩
  rcases List.mem_append.mp member with field | remark
  · exact fields m field
  · obtain ⟨held, listed, rfl⟩ := List.mem_map.mp remark
    exact remarks held listed

theorem accepts (source : Source) (apart : e.Apart) (finite : e.score.base.isFinite) :
    (shape source).Accepts e.members := by
  have score := Score.recovers source finite
  have cvss := Reader.recovers_keyed (m := e.cvss) fun _ v _ => Vector.recovers_block source v
  have named : ∀ field ∈ (shape source).fields, field.name ∈ fieldNames := by
    simp [shape, fieldNames]
  have fits : ∀ field ∈ (shape source).fields, ∀ value,
      (e.fields.lookup field.name).join = some value → field.Accepts value := by
    simp [shape, fields, List.lookup_cons, score.required, cvss.defaulted]
  intro field listed value found
  have answer := lookup_members_of_mem apart (named field listed)
  exact fits field listed value (answer.symm.trans found)

/-- The members that are no fields are read as the remarks. -/
theorem readRemarks_eq_ok {members : List (String × Json)}
    (rearranged : Rearranged members e.members) (apart : e.Apart) :
    readRemarks (draftMembers members) = .ok e.remarks := by
  have others : (draftMembers members).filter (fun m => !fieldNames.contains m.1) =
      draftMembers (members.filter fun m => !fieldNames.contains m.1) := by
    rw [draftMembers_eq_map, draftMembers_eq_map, List.filter_map]
    rfl
  have each : ∀ m ∈ members.filter fun m => !fieldNames.contains m.1,
      ∃ r, e.remarks.get? m.1 = some r ∧ Reader.remark (draft m.2) = .ok r := by
    intro m member
    obtain ⟨member, other⟩ := List.mem_filter.mp member
    obtain ⟨value, found, arranges⟩ := rearranged.of_mem member
    rw [lookup_members_of_not_mem e (by simpa using other)] at found
    obtain ⟨r, held, rfl⟩ := Option.map_eq_some_iff.mp found
    exact ⟨r, held, Reader.recovers_remark r _ arranges⟩
  have named (key : String) (r : Remark) (held : e.remarks.get? key = some r) :
      key ∈ (members.filter fun m => !fieldNames.contains m.1).map Prod.fst := by
    have other : key ∉ fieldNames := fun field => by
      rw [apart key field] at held
      cases held
    have written : e.members.lookup key = some r.value := by
      rw [lookup_members_of_not_mem e other, held]
      rfl
    obtain ⟨value, found, _⟩ := rearranged.lookup_of_some written
    refine List.mem_map.mpr ⟨(key, value), List.mem_filter.mpr ⟨Keyed.mem_of_lookup found, ?_⟩, rfl⟩
    simpa using other
  have distinct : ((members.filter fun m => !fieldNames.contains m.1).map Prod.fst).Nodup :=
    rearranged.distinct.sublist (List.filter_sublist.map Prod.fst)
  obtain ⟨values, read, whole⟩ := Reader.exists_entries_ofList distinct each named
  rw [readRemarks, others]
  refine bind_eq_ok_iff.mpr ⟨values, read, ?_⟩
  rw [whole]
  rfl

theorem recovers (source : Source) (apart : e.Apart) (finite : e.score.base.isFinite) :
    (read source).Recovers e.toJson e := by
  intro value arranges
  obtain ⟨members, rfl, rearranged⟩ := arranges.exists_members (nodup_keys_members apart)
  have passes : (shape source).members source (fun d => (Reader.remark d).map fun _ => ())
      (draft (.object members)) = .ok (draftMembers members) := by
    refine Struct.members_eq_ok source rearranged (accepts source apart finite) fun m _ _ => ?_
    rw [Reader.remark, value?_draft]
    rfl
  have shown {name : String} (field : name ∈ fieldNames) := lookup_members_of_mem apart field
  have text {name s : String} (field : name ∈ fieldNames)
      (part : (e.fields.lookup name).join = some (.string s)) :
      Json.require (draftMembers members) name Reader.string = .ok s :=
    rearranged.require ((shown field).trans part) (Reader.recovers_string s)
  have optional {name : String} {s : Option String} (field : name ∈ fieldNames)
      (part : (e.fields.lookup name).join = s.map .string) :
      orElse (draftMembers members) name Reader.optionalString none = .ok s :=
    rearranged.optional ((shown field).trans part)
  have score : Json.require (draftMembers members) "score" (Score.read source) = .ok e.score :=
    rearranged.require (shown (by decide)) (Score.recovers source finite)
  have cvss : orElse (draftMembers members) "cvss" (Reader.keyed (Vector.readBlock source)) ∅ =
      .ok e.cvss := by
    cases empty : e.cvss.isEmpty with
    | true =>
      have none : e.cvss = ∅ := Keyed.ext (List.isEmpty_iff.mp empty)
      rw [none]
      refine rearranged.orElse_of_none ((shown (by decide)).trans ?_)
      simp [fields, List.lookup_cons, empty]
    | false =>
      have blocks := Reader.recovers_keyed (m := e.cvss) fun _ v _ => Vector.recovers_block source v
      refine rearranged.orElse ((shown (by decide)).trans ?_) blocks
      simp [fields, List.lookup_cons, empty]
  refine bind_eq_ok_iff.mpr ⟨_, passes, ?_⟩
  simp only [bind_eq_ok_iff]
  exact ⟨_, text (by decide) rfl, _, text (by decide) rfl, _, text (by decide) rfl,
    _, text (by decide) rfl, _, text (by decide) rfl, _, text (by decide) rfl,
    _, optional (by decide) rfl, _, text (by decide) rfl, _, text (by decide) rfl, _, score,
    _, text (by decide) rfl, _, optional (by decide) rfl, _, optional (by decide) rfl,
    _, optional (by decide) rfl, _, optional (by decide) rfl, _, cvss,
    _, readRemarks_eq_ok rearranged apart, rfl⟩

/-! ## What is read -/

/-- The remarks are the members that are not named like a field, the last of several with one
key. -/
theorem get?_of_readRemarks {members : List (String × Draft)} {remarks : Keyed Remark}
    (accepted : readRemarks members = .ok remarks) (key : String) :
    Option.Rel (fun d r => Reader.remark d = .ok r)
      (if key ∈ fieldNames then none else members.reverse.lookup key) (remarks.get? key) := by
  obtain ⟨values, read, returned⟩ := bind_eq_ok_iff.mp accepted
  cases returned
  have answer := Reader.get?_ofList_of_entries read key
  rw [← List.filter_reverse, Keyed.lookup_filter (fun name => !fieldNames.contains name)] at answer
  simpa [ite_not] using answer

/-- Each part of an entry is read from members. -/
structure ReadFrom (source : Source) (members : List (String × Draft)) (e : Entry) : Prop where
  category : Json.require members "category" Reader.string = .ok e.category
  classification : Json.require members "classification" Reader.string = .ok e.classification
  description : Json.require members "description" Reader.string = .ok e.description
  detectedAt : Json.require members "detected_at" Reader.string = .ok e.detectedAt
  enumeration : Json.require members "enumeration" Reader.string = .ok e.enumeration
  id : Json.require members "id" Reader.string = .ok e.id
  itemId : orElse members "item_id" Reader.optionalString none = .ok e.itemId
  publishedAt : Json.require members "published_at" Reader.string = .ok e.publishedAt
  reference : Json.require members "reference" Reader.string = .ok e.reference
  score : Json.require members "score" (Score.read source) = .ok e.score
  severity : Json.require members "severity" Reader.string = .ok e.severity
  assigner : orElse members "assigner" Reader.optionalString none = .ok e.assigner
  cweReference : orElse members "cwe_reference" Reader.optionalString none = .ok e.cweReference
  updated : orElse members "updated" Reader.optionalString none = .ok e.updated
  condition : orElse members "condition" Reader.optionalString none = .ok e.condition
  cvss : orElse members "cvss" (Reader.keyed (Vector.readBlock source)) ∅ = .ok e.cvss
  remarks : readRemarks members = .ok e.remarks

/-- An entry is read from an object that is whole. -/
theorem exists_readFrom {source : Source} {d : Draft} (accepted : read source d = .ok e) :
    ∃ members, d = .object members true ∧ ReadFrom source members e := by
  cases d with
  | object members closed =>
    simp only [read, bind_eq_ok_iff] at accepted
    obtain ⟨all, shaped, _, category, _, classification, _, description, _, detectedAt,
      _, enumeration, _, id, _, itemId, _, publishedAt, _, reference, _, score, _, severity,
      _, assigner, _, cweReference, _, updated, _, condition, _, cvss, _, remarks, returned⟩ :=
      accepted
    cases returned
    obtain ⟨_, _, shaped⟩ := bind_eq_ok_iff.mp shaped
    cases closed with
    | false => cases shaped
    | true =>
      cases shaped
      exact ⟨members, rfl, category, classification, description, detectedAt, enumeration, id,
        itemId, publishedAt, reference, score, severity, assigner, cweReference, updated,
        condition, cvss, remarks⟩
  | number n => cases n <;> cases accepted
  | _ => cases accepted

section

variable {source : Source} {members : List (String × Draft)}

/-- No remark is read from a member that is named like a field. -/
theorem ReadFrom.apart (parts : ReadFrom source members e) : e.Apart := by
  intro key field
  have answer := get?_of_readRemarks parts.remarks key
  rw [if_pos field] at answer
  generalize e.remarks.get? key = held at answer
  cases answer
  rfl

theorem ReadFrom.isFinite (parts : ReadFrom source members e) (fits : ∀ m ∈ members, m.2.Fits) :
    e.score.base.isFinite := by
  obtain ⟨part, found, read⟩ := require_eq_ok_iff.mp parts.score
  exact Score.isFinite_of_read (fits _ (Keyed.mem_of_lookup found)) read

/-- A field is left out where nothing stood, or nothing in it. -/
theorem ReadFrom.isNone_lookup_members (parts : ReadFrom source members e) :
    ∀ name ∈ fieldNames, (e.members.lookup name).isNone = isBlank (members.lookup name) := by
  have text {name s : String} (part : (e.fields.lookup name).join = some (.string s))
      (read : Json.require members name Reader.string = .ok s) :
      (e.fields.lookup name).join.isNone = isBlank (members.lookup name) := by
    rw [part, isBlank_of_text read]
    rfl
  have optional {name : String} {s : Option String}
      (part : (e.fields.lookup name).join = s.map .string)
      (read : orElse members name Reader.optionalString none = .ok s) :
      (e.fields.lookup name).join.isNone = isBlank (members.lookup name) := by
    rw [part, isBlank_of_optional read, Option.isNone_map]
  have score : (e.fields.lookup "score").join.isNone = isBlank (members.lookup "score") :=
    (Score.isBlank_of_require parts.score).symm
  have cvss : (e.fields.lookup "cvss").join.isNone = isBlank (members.lookup "cvss") := by
    have part : (e.fields.lookup "cvss").join =
      if e.cvss.isEmpty then none else some (.object (e.cvss.map Vector.toBlock).entries) := rfl
    rw [part, isBlank_of_keyed parts.cvss]
    cases e.cvss.isEmpty <;> rfl
  have shown : ∀ name ∈ fieldNames,
      (e.fields.lookup name).join.isNone = isBlank (members.lookup name) := by
    simp only [fieldNames, List.forall_mem_cons]
    exact ⟨text rfl parts.category, text rfl parts.classification, text rfl parts.description,
      text rfl parts.detectedAt, text rfl parts.enumeration, text rfl parts.id,
      optional rfl parts.itemId, text rfl parts.publishedAt, text rfl parts.reference, score,
      text rfl parts.severity, optional rfl parts.assigner, optional rfl parts.cweReference,
      optional rfl parts.updated, optional rfl parts.condition, cvss, nofun⟩
  intro name field
  rw [lookup_members_of_mem parts.apart field]
  exact shown name field

/-- Under any other name stands what stood there, with its members sorted. -/
theorem ReadFrom.lookup_members (parts : ReadFrom source members e) {key : String}
    (other : key ∉ fieldNames) :
    Option.Rel (fun d written => d.value?.map sorted = some written) (members.reverse.lookup key)
      (e.members.lookup key) := by
  have answer := get?_of_readRemarks parts.remarks key
  rw [if_neg other] at answer
  rw [lookup_members_of_not_mem e other]
  generalize members.reverse.lookup key = found at answer
  generalize e.remarks.get? key = held at answer
  cases answer with
  | none => exact .none
  | some read =>
    obtain ⟨value, spelled, same⟩ := Reader.remark_eq_ok_iff.mp read
    refine .some ?_
    rw [spelled, Option.map_some, same]

end

/-! ## The trip -/

/-- An entry survives being written and read. An object is read as an entry whose remarks are the
members that are not named like a field, with the last of several of one key; written down again the
entry lacks the fields of which nothing was there, null or an empty map, and under any other key it
has what was there. An entry with a finite score and no remark named like a field is read from the
value it is written as, with the members of every object in any order. The entries of a synthesis
are such, and so is every entry that was read, be it from a value or from a text, so that it is
written as the same text again, which is itself read as the entry as far as its numbers are read
back. -/
theorem written_entry_restores_entry :
    (∀ source d e, read source d = .ok e → ∃ members, d = .object members true ∧
      (∀ key, Option.Rel
        (fun d remark => ∃ value, d.value? = some value ∧ remark.value = value.sorted)
        (if key ∈ fieldNames then none else members.reverse.lookup key) (e.remarks.get? key)) ∧
      (∀ name ∈ fieldNames,
        (e.toJson.member? name).isNone = isBlank (members.lookup name)) ∧
      ∀ key ∉ fieldNames, Option.Rel (fun d written => d.value?.map sorted = some written)
        (members.reverse.lookup key) (e.toJson.member? key)) ∧
    (∀ (c : Context) feed clock entries, (c.synthesize feed clock).result = .ok entries →
      ∀ e ∈ entries, e.Apart ∧ e.score.base.isFinite) ∧
    (∀ e, e.Apart → e.score.base.isFinite →
      e.toJson.Arranges e.toJson ∧ e.toJson.sorted.Arranges e.toJson ∧
      ∀ source written, written.Arranges e.toJson → read source (draft written) = .ok e) ∧
    (∀ source d e, d.Fits → read source d = .ok e →
      ∀ source written, written.Arranges e.toJson → ∃ again,
        read source (draft written) = .ok again ∧ again = e ∧
        again.toJson.compact = e.toJson.compact) ∧
    ∀ text e, parse (read .text) text = .ok e →
      (∀ source written, written.Arranges e.toJson → read source (draft written) = .ok e) ∧
      ((Number.float e.score.base).ReadsBack →
        (∀ m ∈ e.remarks.entries, m.2.value.Legible 1) →
        parse (read .text) e.toJson.compact = .ok e) := by
  have trip {source : Source} {d : Draft} {e : Entry} (fits : d.Fits)
      (accepted : read source d = .ok e) : e.Apart ∧ e.score.base.isFinite := by
    obtain ⟨members, rfl, parts⟩ := exists_readFrom accepted
    exact ⟨parts.apart, parts.isFinite (Draft.fitMembers_iff.mp fits)⟩
  refine ⟨?_, ?_, ?_, ?_, ?_⟩
  · intro source d e accepted
    obtain ⟨members, whole, parts⟩ := exists_readFrom accepted
    refine ⟨members, whole, fun key => ?_, parts.isNone_lookup_members,
      fun key other => parts.lookup_members other⟩
    simpa only [Reader.remark_eq_ok_iff] using get?_of_readRemarks parts.remarks key
  · intro c feed clock entries succeeded e member
    have course := synthesize_course c feed clock
    refine ⟨course.apart_of_ok succeeded e member, ?_⟩
    obtain ⟨candidate, _, time, r, words, sound, rfl⟩ :=
      course.exists_composed_of_ok succeeded e member
    exact isFinite_composed sound
  · intro e apart finite
    exact ⟨(unrepeated_toJson apart).arranges, sorted_arranges _,
      fun source => recovers source apart finite⟩
  · intro _ d e fits accepted source written arranges
    obtain ⟨apart, finite⟩ := trip fits accepted
    exact ⟨e, recovers source apart finite written arranges, rfl, rfl⟩
  · intro text e parsed
    obtain ⟨d, fits, _, accepted⟩ := exists_draft_of_parse parsed
    obtain ⟨apart, finite⟩ := trip fits accepted
    refine ⟨fun source => recovers source apart finite, fun score remarks => ?_⟩
    exact (recovers .text apart finite).parse_compact (unrepeated_toJson apart).arranges
      (legible_toJson (by decide) score remarks)

/-- An entry as others may write it: out of order, with a null, an empty map and a key twice. -/
def loose : Draft := .object [("rule", .string "first"), ("id", .string "CVE-1"),
  ("category", .string "OS"), ("classification", .string "c"), ("description", .string "d"),
  ("detected_at", .string "t"), ("enumeration", .string "CVE"), ("item_id", .null),
  ("published_at", .string "p"), ("reference", .string "r"), ("cvss", .object [] true),
  ("score", .object [("base", .number (.integer 5)), ("version", .string "3")] true),
  ("severity", .string "High"), ("rule", .null)] true

example : (read .text loose).map (fun e => e.members.map Prod.fst) = .ok ["category",
    "classification", "description", "detected_at", "enumeration", "id", "published_at",
    "reference", "score", "severity", "rule"] := by
  decide +kernel

end Entry

end Findings
