import Findings.Json.Draft
import Findings.Proofs.Keyed
import Mathlib.Data.List.Nodup

/-!
Values that hold the same in another order. Members of an object may stand in any order, so a value
*arranges* another when the two agree once their members are sorted and the first names no member
twice (`Json.Arranges`). An arrangement of an object answers every key as the object does, with an
arrangement of what stands under it (`Json.Arranges.exists_members`), and of anything that holds no
members only itself is an arrangement.
-/

namespace Findings

namespace Json

/-! ## Sorted values -/

theorem sortedMembers_eq_map (members : List (String × Json)) :
    sortedMembers members = members.map fun m => (m.1, sorted m.2) := by
  induction members with
  | nil => rfl
  | cons m rest ih => rw [sortedMembers, ih, List.map_cons]

mutual

/-- A canonical value is sorted. -/
theorem sorted_of_canonical : ∀ {value : Json}, Canonical value → sorted value = value
  | .null, _ | .bool _, _ | .number _, _ | .string _, _ => rfl
  | .array _, canonical => congrArg array (sortedItems_of_canonical canonical)
  | .object members, ⟨ascending, inner⟩ => by
    rw [sorted, sortedMembers_of_canonical inner]
    exact congrArg (fun m => object (Keyed.entries m)) (Keyed.ofList_entries ⟨members, ascending⟩)

theorem sortedItems_of_canonical : ∀ {items : List Json}, CanonicalItems items →
    sortedItems items = items
  | [], _ => rfl
  | _ :: _, ⟨first, others⟩ => by
    rw [sortedItems, sorted_of_canonical first, sortedItems_of_canonical others]

theorem sortedMembers_of_canonical : ∀ {members : List (String × Json)},
    CanonicalMembers members → sortedMembers members = members
  | [], _ => rfl
  | (_, _) :: _, ⟨first, others⟩ => by
    rw [sortedMembers, sorted_of_canonical first, sortedMembers_of_canonical others]

end

/-! ## Values without repeated keys -/

mutual

/-- No object in the value has two members of one key. -/
def Unrepeated : Json → Prop
  | .array items => UnrepeatedItems items
  | .object members => (members.map Prod.fst).Nodup ∧ UnrepeatedMembers members
  | _ => True

/-- No item of a list has an object with a key twice. -/
def UnrepeatedItems : List Json → Prop
  | [] => True
  | item :: rest => Unrepeated item ∧ UnrepeatedItems rest

/-- No value of a list of members has an object with a key twice. -/
def UnrepeatedMembers : List (String × Json) → Prop
  | [] => True
  | (_, value) :: rest => Unrepeated value ∧ UnrepeatedMembers rest

end

theorem unrepeatedMembers_iff {members : List (String × Json)} :
    UnrepeatedMembers members ↔ ∀ m ∈ members, m.2.Unrepeated := by
  induction members with
  | nil => simp [UnrepeatedMembers]
  | cons m rest ih => simp [UnrepeatedMembers, ih]

mutual

theorem Canonical.unrepeated : ∀ {value : Json}, Canonical value → Unrepeated value
  | .null, _ | .bool _, _ | .number _, _ | .string _, _ => trivial
  | .array _, canonical => CanonicalItems.unrepeated canonical
  | .object _, ⟨ascending, inner⟩ =>
    ⟨List.pairwise_map.mpr (ascending.imp Utf8.Before.ne), CanonicalMembers.unrepeated inner⟩

theorem CanonicalItems.unrepeated : ∀ {items : List Json}, CanonicalItems items →
    UnrepeatedItems items
  | [], _ => trivial
  | _ :: _, ⟨first, others⟩ => ⟨first.unrepeated, others.unrepeated⟩

theorem CanonicalMembers.unrepeated : ∀ {members : List (String × Json)},
    CanonicalMembers members → UnrepeatedMembers members
  | [], _ => trivial
  | (_, _) :: _, ⟨first, others⟩ => ⟨first.unrepeated, others.unrepeated⟩

end

/-- An object of a map's entries names each key once. -/
theorem unrepeated_map {α : Type} {f : α → Json} {m : Keyed α} (each : ∀ a, (f a).Unrepeated) :
    (object (m.map f).entries).Unrepeated := by
  refine ⟨(m.map f).keys_nodup, unrepeatedMembers_iff.mpr fun e member => ?_⟩
  obtain ⟨_, _, rfl⟩ := List.mem_map.mp member
  exact each _

/-! ## Arrangements -/

/-- The value holds what another holds, with the members of each object in an order of its own and
none of them twice. -/
structure Arranges (value written : Json) : Prop where
  unrepeated : value.Unrepeated
  same : value.sorted = written.sorted

theorem Unrepeated.arranges {value : Json} (unrepeated : value.Unrepeated) :
    value.Arranges value := ⟨unrepeated, rfl⟩

/-- With its members sorted a value arranges itself. -/
theorem sorted_arranges (value : Json) : value.sorted.Arranges value :=
  ⟨value.canonical_sorted.unrepeated, sorted_of_canonical value.canonical_sorted⟩

/-- The value holds other values. -/
def isContainer : Json → Bool
  | .array _ | .object _ => true
  | _ => false

/-- What holds no other values has no order that could change. -/
theorem Arranges.eq_of_plain {value written : Json} (arranges : value.Arranges written)
    (plain : written.isContainer = false) : value = written := by
  have same := arranges.same
  cases written with
  | array _ | object _ => cases plain
  | _ =>
    cases value <;> cases same
    rfl

/-- Members that hold what others hold, in an order of their own. -/
structure Rearranged (members written : List (String × Json)) : Prop where
  distinct : (members.map Prod.fst).Nodup
  answers : ∀ key, Option.Rel Arranges (members.lookup key) (written.lookup key)

/-- An arrangement of an object is an object that answers every key with an arrangement of what
stands under it. -/
theorem Arranges.exists_members {value : Json} {written : List (String × Json)}
    (arranges : value.Arranges (.object written)) (distinct : (written.map Prod.fst).Nodup) :
    ∃ members, value = .object members ∧ Rearranged members written := by
  obtain ⟨unrepeated, same⟩ := arranges
  cases value with
  | object members =>
    obtain ⟨unique, inner⟩ := unrepeated
    refine ⟨members, rfl, unique, fun key => ?_⟩
    have keys (l : List (String × Json)) (nodup : (l.map Prod.fst).Nodup) :
        ((sortedMembers l).map Prod.fst).Nodup := by
      rw [sortedMembers_eq_map, List.map_map]
      exact nodup
    have answer (l : List (String × Json)) (nodup : (l.map Prod.fst).Nodup) :
        (Keyed.ofList (sortedMembers l)).get? key = (l.lookup key).map sorted := by
      rw [Keyed.get?_ofList_of_nodup (keys l nodup), sortedMembers_eq_map, Keyed.lookup_map]
    have alike : (members.lookup key).map sorted = (written.lookup key).map sorted := by
      rw [← answer members unique, ← answer written distinct]
      exact congrArg (List.lookup key) (object.inj same)
    cases here : members.lookup key with
    | none =>
      rw [here, Option.map_none, eq_comm, Option.map_eq_none_iff] at alike
      rw [alike]
      exact .none
    | some held =>
      rw [here, Option.map_some, eq_comm, Option.map_eq_some_iff] at alike
      obtain ⟨other, there, equal⟩ := alike
      rw [there]
      exact .some ⟨unrepeatedMembers_iff.mp inner _ (Keyed.mem_of_lookup here), equal.symm⟩
  | _ => cases same

namespace Rearranged

variable {members written : List (String × Json)}

theorem lookup_of_some (rearranged : Rearranged members written) {key : String} {value : Json}
    (part : written.lookup key = some value) :
    ∃ held, members.lookup key = some held ∧ held.Arranges value := by
  have answer := rearranged.answers key
  rw [part] at answer
  cases found : members.lookup key with
  | none =>
    rw [found] at answer
    cases answer
  | some held =>
    rw [found] at answer
    cases answer with
    | some arranges => exact ⟨held, rfl, arranges⟩

theorem lookup_of_none (rearranged : Rearranged members written) {key : String}
    (absent : written.lookup key = none) : members.lookup key = none := by
  have answer := rearranged.answers key
  rw [absent] at answer
  cases found : members.lookup key with
  | none => rfl
  | some held =>
    rw [found] at answer
    cases answer

/-- Each member arranges what stands under its key. -/
theorem of_mem (rearranged : Rearranged members written) {m : String × Json}
    (member : m ∈ members) :
    ∃ value, written.lookup m.1 = some value ∧ m.2.Arranges value := by
  have answer := rearranged.answers m.1
  rw [(Keyed.lookup_eq_some_iff_mem rearranged.distinct).mpr member] at answer
  cases found : written.lookup m.1 with
  | none =>
    rw [found] at answer
    cases answer
  | some value =>
    rw [found] at answer
    cases answer with
    | some arranges => exact ⟨value, rfl, arranges⟩

theorem keys_perm (rearranged : Rearranged members written)
    (distinct : (written.map Prod.fst).Nodup) :
    (members.map Prod.fst).Perm (written.map Prod.fst) := by
  refine (List.perm_ext_iff_of_nodup rearranged.distinct distinct).mpr fun key => ?_
  rw [Keyed.mem_map_fst_iff, Keyed.mem_map_fst_iff]
  have answer := rearranged.answers key
  generalize members.lookup key = held at answer
  generalize written.lookup key = value at answer
  cases answer <;> rfl

/-- Where one member is arranged by itself the others arrange what is left. -/
theorem of_middle {before after : List (String × Json)} {key : String} {held value : Json}
    (rearranged : Rearranged (before ++ (key, held) :: after) ((key, value) :: written))
    (fresh : key ∉ written.map Prod.fst) :
    key ∉ (before ++ after).map Prod.fst ∧ Rearranged (before ++ after) written := by
  have distinct := rearranged.distinct
  rw [List.map_append, List.map_cons, List.nodup_middle, ← List.map_append] at distinct
  obtain ⟨absent, distinct⟩ := List.nodup_cons.mp distinct
  refine ⟨absent, distinct, fun k => ?_⟩
  by_cases same : k = key
  · subst same
    rw [Keyed.mem_map_fst_iff, Option.not_isSome_iff_eq_none] at absent fresh
    rw [absent, fresh]
    exact .none
  · have answer := rearranged.answers k
    rw [List.lookup_append, Keyed.lookup_cons_ite, if_neg same, Keyed.lookup_cons_ite,
      if_neg same] at answer
    rw [List.lookup_append]
    exact answer

theorem eq_singleton {key : String} {value : Json}
    (rearranged : Rearranged members [(key, value)]) :
    ∃ held, members = [(key, held)] ∧ held.Arranges value := by
  obtain ⟨held, found, arranges⟩ := rearranged.lookup_of_some List.lookup_cons_self
  have keys := rearranged.keys_perm (List.pairwise_singleton _ _)
  obtain ⟨m, rfl⟩ := List.length_eq_one_iff.mp ((List.length_map _).symm.trans keys.length_eq)
  refine ⟨held, ?_, arranges⟩
  rw [List.mem_singleton.mp (Keyed.mem_of_lookup found)]

/-- Two members stand in one of two orders. -/
theorem eq_pair {first second : String} {value other : Json}
    (rearranged : Rearranged members [(first, value), (second, other)])
    (different : first ≠ second) :
    ∃ held held', held.Arranges value ∧ held'.Arranges other ∧
      (members = [(first, held), (second, held')] ∨
        members = [(second, held'), (first, held)]) := by
  have named : ∀ key, [(first, value), (second, other)].lookup key = _ :=
    Keyed.lookup_cons_ite first value [(second, other)]
  obtain ⟨held, found, arranges⟩ := rearranged.lookup_of_some ((named first).trans (if_pos rfl))
  have later : [(first, value), (second, other)].lookup second = some other := by
    rw [named, if_neg different.symm, List.lookup_cons_self]
  obtain ⟨held', found', arranges'⟩ := rearranged.lookup_of_some later
  have keys := rearranged.keys_perm (by simpa using different)
  obtain ⟨m, n, rfl⟩ := List.length_eq_two.mp ((List.length_map _).symm.trans keys.length_eq)
  refine ⟨held, held', arranges, arranges', ?_⟩
  have one := Keyed.mem_of_lookup found
  have two := Keyed.mem_of_lookup found'
  simp only [List.mem_cons, List.not_mem_nil, or_false] at one two
  have apart : (first, held) ≠ (second, held') := fun same => different (congrArg Prod.fst same)
  rcases one with rfl | rfl
  · rcases two with same | rfl
    · exact absurd same.symm apart
    · exact .inl rfl
  · rcases two with rfl | same
    · exact .inr rfl
    · exact absurd same.symm apart

end Rearranged

end Json

end Findings
