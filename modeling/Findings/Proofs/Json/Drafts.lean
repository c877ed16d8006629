import Findings.Json.Text

/-!
What is found in a text, part by part. A property of drafts that holds of a container if it holds of
its parts holds of everything that is read (`Json.Inherited.ofText`). One such property is that not
too many containers stand within one another, which the reader sees to itself
(`Json.height_ofText`), so a value that was read can be written and read again as far as its
containers are concerned.
-/

namespace Findings.Json

/-- A property of drafts with so many containers open around them, that containers have from their
parts. -/
structure Inherited (P : Nat → Draft → Prop) : Prop where
  null : ∀ {depth : Nat}, P depth .null
  bool : ∀ {depth : Nat} (b : Bool), P depth (.bool b)
  string : ∀ {depth : Nat} (s : String), P depth (.string s)
  unreadable : ∀ {depth : Nat}, P depth .unreadable
  number : ∀ {depth : Nat} {numeral : Numeral} {n : Number}, numeral.value? = some n →
    P depth (.number n)
  array : ∀ {depth : Nat} {items : List Draft}, depth + 1 < nestingLimit →
    (∀ item ∈ items, P (depth + 1) item) → P depth (.array items)
  object : ∀ {depth : Nat} {members : List (String × Draft)} {closed : Bool},
    depth + 1 < nestingLimit → (∀ m ∈ members, P (depth + 1) m.2) →
      P depth (.object members closed)

namespace Inherited

variable {P : Nat → Draft → Prop} (inherited : Inherited P)

include inherited

/-- Where containers would be too many the draft is unreadable, of which everything holds that is
inherited. -/
theorem within_of_imp {depth : Nat} {container : Draft}
    (holds : depth + 1 < nestingLimit → P depth container) :
    P depth (within (depth + 1) container) := by
  unfold within
  split
  next room => exact holds room
  next => exact inherited.unreadable

/-- One member more is a key, a value and the members behind it. -/
theorem readMembers_succ {fuel : Nat} (value : ∀ depth cs, P depth (readValue fuel depth cs).1)
    (members : ∀ depth cs, ∀ m ∈ (readMembers fuel depth cs).1, P depth m.2) (depth : Nat)
    (cs : List Char) : ∀ m ∈ (readMembers (fuel + 1) depth cs).1, P depth m.2 := by
  have none : ∀ m ∈ ([] : List (String × Draft)), P depth m.2 := fun _ member =>
    absurd member List.not_mem_nil
  unfold readMembers
  split
  next =>
    split
    next key rest _ =>
      -- A member counts only where its key can be read.
      dsimp only
      split
      next rest _ =>
        have first := value depth rest
        split
        next read =>
          rw [read] at first
          cases key with
          | none => exact none
          | some _ => exact List.forall_mem_cons.mpr ⟨first, none⟩
        next read =>
          rw [read] at first
          split
          next =>
            cases key with
            | none => exact none
            | some _ => exact List.forall_mem_cons.mpr ⟨first, none⟩
          next =>
            cases key with
            | none => exact none
            | some _ => exact List.forall_mem_cons.mpr ⟨first, members depth _⟩
          next =>
            cases key with
            | none => exact none
            | some _ => exact List.forall_mem_cons.mpr ⟨first, none⟩
      next =>
        cases key with
        | none => exact none
        | some _ => exact List.forall_mem_cons.mpr ⟨inherited.unreadable, none⟩
    next => exact none
  next => exact none

/-- One item more is a value and the items behind it. -/
theorem readItems_succ {fuel : Nat} (value : ∀ depth cs, P depth (readValue fuel depth cs).1)
    (items : ∀ depth cs, ∀ item ∈ (readItems fuel depth cs).1, P depth item) (depth : Nat)
    (cs : List Char) : ∀ item ∈ (readItems (fuel + 1) depth cs).1, P depth item := by
  have first := value depth cs
  have unreadable : ∀ item ∈ [Draft.unreadable], P depth item := fun _ member =>
    List.mem_singleton.mp member ▸ inherited.unreadable
  rw [readItems]
  split
  next read =>
    rw [read] at first
    exact List.forall_mem_cons.mpr ⟨first, unreadable⟩
  next read =>
    rw [read] at first
    split
    · exact List.forall_mem_singleton.mpr first
    · exact List.forall_mem_cons.mpr ⟨first, items depth _⟩
    · exact List.forall_mem_cons.mpr ⟨first, unreadable⟩

/-- A value is a container of what is read inside of it, or has no parts. -/
theorem readValue_succ {fuel : Nat}
    (items : ∀ depth cs, ∀ item ∈ (readItems fuel depth cs).1, P depth item)
    (members : ∀ depth cs, ∀ m ∈ (readMembers fuel depth cs).1, P depth m.2) (depth : Nat)
    (cs : List Char) : P depth (readValue (fuel + 1) depth cs).1 := by
  unfold readValue
  split
  · exact inherited.null
  · exact inherited.bool true
  · exact inherited.bool false
  · split
    · exact inherited.string _
    · exact inherited.unreadable
    · exact inherited.unreadable
  · refine inherited.within_of_imp fun room => inherited.array room ?_
    split
    · exact fun _ member => absurd member List.not_mem_nil
    · exact items (depth + 1) _
  · refine inherited.within_of_imp fun room => inherited.object room ?_
    split
    · exact fun _ member => absurd member List.not_mem_nil
    · exact members (depth + 1) _
  · split
    · exact inherited.unreadable
    · split
      next value => exact inherited.number value
      next => exact inherited.unreadable

/-- Everything that is found in a text has the property, by induction on the steps of the reader. -/
theorem ofText (text : String) : P 0 (Document.ofText text).draft := by
  have each (fuel : Nat) : (∀ depth cs, P depth (readValue fuel depth cs).1) ∧
      (∀ depth cs, ∀ item ∈ (readItems fuel depth cs).1, P depth item) ∧
      ∀ depth cs, ∀ m ∈ (readMembers fuel depth cs).1, P depth m.2 := by
    induction fuel with
    | zero =>
      refine ⟨fun _ _ => inherited.unreadable, fun _ _ => ?_, fun _ _ => ?_⟩
      · exact List.forall_mem_singleton.mpr inherited.unreadable
      · exact fun _ member => absurd member List.not_mem_nil
    | succ fuel ih =>
      obtain ⟨value, items, members⟩ := ih
      exact ⟨inherited.readValue_succ items members, inherited.readItems_succ value items,
        inherited.readMembers_succ value members⟩
  have read := (each (2 * text.toList.length + 2)).1 0 text.toList
  unfold Document.ofText
  dsimp only
  split
  next found =>
    rw [found] at read
    exact read
  next found =>
    rw [found] at read
    exact read

end Inherited

/-! ## Containers within one another -/

namespace Draft

mutual

/-- How many containers stand one within another. -/
def height : Draft → Nat
  | array items => heightItems items + 1
  | object members _ => heightMembers members + 1
  | null | bool _ | number _ | string _ | unreadable => 0

/-- The greatest height of the items. -/
def heightItems : List Draft → Nat
  | [] => 0
  | item :: rest => max (height item) (heightItems rest)

/-- The greatest height of the values of the members. -/
def heightMembers : List (String × Draft) → Nat
  | [] => 0
  | (_, value) :: rest => max (height value) (heightMembers rest)

end

/-- A list is as high as its highest item. -/
theorem heightItems_le {items : List Draft} {bound : Nat}
    (each : ∀ item ∈ items, item.height ≤ bound) : heightItems items ≤ bound := by
  induction items with
  | nil => exact Nat.zero_le bound
  | cons item rest ih =>
    obtain ⟨first, others⟩ := List.forall_mem_cons.mp each
    exact Nat.max_le.mpr ⟨first, ih others⟩

theorem heightMembers_le {members : List (String × Draft)} {bound : Nat}
    (each : ∀ m ∈ members, m.2.height ≤ bound) : heightMembers members ≤ bound := by
  induction members with
  | nil => exact Nat.zero_le bound
  | cons m rest ih =>
    obtain ⟨first, others⟩ := List.forall_mem_cons.mp each
    exact Nat.max_le.mpr ⟨first, ih others⟩

theorem height_le_heightItems {items : List Draft} :
    ∀ item ∈ items, item.height ≤ heightItems items := by
  induction items with
  | nil => exact fun _ member => absurd member List.not_mem_nil
  | cons item rest ih =>
    refine List.forall_mem_cons.mpr ⟨Nat.le_max_left _ _, fun other member => ?_⟩
    exact Nat.le_trans (ih other member) (Nat.le_max_right _ _)

theorem height_le_heightMembers {members : List (String × Draft)} :
    ∀ m ∈ members, m.2.height ≤ heightMembers members := by
  induction members with
  | nil => exact fun _ member => absurd member List.not_mem_nil
  | cons m rest ih =>
    refine List.forall_mem_cons.mpr ⟨Nat.le_max_left _ _, fun other member => ?_⟩
    exact Nat.le_trans (ih other member) (Nat.le_max_right _ _)

end Draft

/-- With so many containers open around it, a draft opens not too many more. -/
def Draft.Within (depth : Nat) (d : Draft) : Prop :=
  depth < nestingLimit → depth + d.height < nestingLimit

theorem Draft.within_array {depth : Nat} {items : List Draft} (room : depth + 1 < nestingLimit)
    (each : ∀ item ∈ items, Within (depth + 1) item) : Within depth (.array items) := by
  intro _
  have bound : heightItems items ≤ nestingLimit - 1 - (depth + 1) :=
    heightItems_le fun item member => by
      have low := each item member room
      omega
  rw [height]
  omega

theorem Draft.within_object {depth : Nat} {members : List (String × Draft)} {closed : Bool}
    (room : depth + 1 < nestingLimit) (each : ∀ m ∈ members, Within (depth + 1) m.2) :
    Within depth (.object members closed) := by
  intro _
  have bound : heightMembers members ≤ nestingLimit - 1 - (depth + 1) :=
    heightMembers_le fun m member => by
      have low := each m member room
      omega
  rw [height]
  omega

theorem Draft.inherited_within : Inherited Within where
  null := id
  bool _ := id
  string _ := id
  unreadable := id
  number _ := id
  array := within_array
  object := within_object

/-- The reader opens no container within too many others. -/
theorem height_ofText (text : String) : (Document.ofText text).draft.height < nestingLimit := by
  have low := Draft.inherited_within.ofText text (by decide)
  rwa [Nat.zero_add] at low

/-- How many containers of a value stand one within another. -/
def height (value : Json) : Nat := value.draft.height

theorem height_array (items : List Json) :
    (Json.array items).height = Draft.heightItems (draftItems items) + 1 := rfl

theorem height_object (members : List (String × Json)) :
    (Json.object members).height = Draft.heightMembers (draftMembers members) + 1 := rfl

theorem heightItems_cons (item : Json) (rest : List Json) :
    Draft.heightItems (draftItems (item :: rest)) =
      max item.height (Draft.heightItems (draftItems rest)) := rfl

theorem heightMembers_cons (key : String) (value : Json) (rest : List (String × Json)) :
    Draft.heightMembers (draftMembers ((key, value) :: rest)) =
      max value.height (Draft.heightMembers (draftMembers rest)) := rfl

mutual

/-- A draft that is readable throughout is that of its value. -/
theorem draft_of_value? : ∀ {d : Draft} {value : Json}, d.value? = some value → value.draft = d
  | .null, _, rfl | .bool _, _, rfl | .number _, _, rfl | .string _, _, rfl => rfl
  | .array items, value, read => by
    rw [Draft.value?] at read
    obtain ⟨values, found, rfl⟩ := Option.map_eq_some_iff.mp read
    exact congrArg Draft.array (draftItems_of_values? found)
  | .object members true, value, read => by
    rw [Draft.value?] at read
    obtain ⟨values, found, rfl⟩ := Option.map_eq_some_iff.mp read
    exact congrArg (Draft.object · true) (draftMembers_of_memberValues? found)

theorem draftItems_of_values? : ∀ {items : List Draft} {values : List Json},
    Draft.values? items = some values → draftItems values = items
  | [], _, rfl => rfl
  | item :: rest, values, read => by
    rw [Draft.values?] at read
    split at read
    next first others =>
      cases read
      rw [draftItems, draft_of_value? first, draftItems_of_values? others]
    next => cases read

theorem draftMembers_of_memberValues? : ∀ {members : List (String × Draft)}
    {values : List (String × Json)}, Draft.memberValues? members = some values →
      draftMembers values = members
  | [], _, rfl => rfl
  | (key, d) :: rest, values, read => by
    rw [Draft.memberValues?] at read
    split at read
    next first others =>
      cases read
      rw [draftMembers, draft_of_value? first, draftMembers_of_memberValues? others]
    next => cases read

end

/-- The greatest height of members is not less than that of any. -/
theorem height_le_of_mem {members : List (String × Json)} {m : String × Json}
    (member : m ∈ members) : m.2.height ≤ Draft.heightMembers (draftMembers members) := by
  refine Draft.height_le_heightMembers (m.1, m.2.draft) ?_
  rw [draftMembers_eq_map]
  exact List.mem_map_of_mem member

/-- Items that are low are low together. -/
theorem heightItems_draftItems_le {items : List Json} {bound : Nat}
    (each : ∀ item ∈ items, item.height ≤ bound) :
    Draft.heightItems (draftItems items) ≤ bound := by
  refine Draft.heightItems_le fun d member => ?_
  rw [draftItems_eq_map] at member
  obtain ⟨item, found, rfl⟩ := List.mem_map.mp member
  exact each item found

/-- Members that are low are low together. -/
theorem heightMembers_draftMembers_le {members : List (String × Json)} {bound : Nat}
    (each : ∀ m ∈ members, m.2.height ≤ bound) :
    Draft.heightMembers (draftMembers members) ≤ bound := by
  refine Draft.heightMembers_le fun m member => ?_
  rw [draftMembers_eq_map] at member
  obtain ⟨m, found, rfl⟩ := List.mem_map.mp member
  exact each m found

mutual

/-- Sorting keeps no more containers than there are. -/
theorem height_sorted_le : ∀ value : Json, value.sorted.height ≤ value.height
  | .null | .bool _ | .number _ | .string _ => Nat.le_refl _
  | .array items => Nat.succ_le_succ (heightItems_sortedItems_le items)
  | .object members => by
    refine Nat.succ_le_succ (heightMembers_draftMembers_le fun m member => ?_)
    exact heightMembers_sortedMembers_le members m (Keyed.mem_ofList member)

theorem heightItems_sortedItems_le : ∀ items : List Json,
    Draft.heightItems (draftItems (sortedItems items)) ≤ Draft.heightItems (draftItems items)
  | [] => Nat.le_refl _
  | item :: rest => by
    have first := height_sorted_le item
    have others := heightItems_sortedItems_le rest
    exact Nat.max_le.mpr ⟨Nat.le_trans first (Nat.le_max_left _ _),
      Nat.le_trans others (Nat.le_max_right _ _)⟩

theorem heightMembers_sortedMembers_le : ∀ members : List (String × Json),
    ∀ m ∈ sortedMembers members, m.2.height ≤ Draft.heightMembers (draftMembers members)
  | [] => fun _ member => absurd member List.not_mem_nil
  | (key, value) :: rest => by
    have first := height_sorted_le value
    have others := heightMembers_sortedMembers_le rest
    refine List.forall_mem_cons.mpr ⟨Nat.le_trans first (Nat.le_max_left _ _), fun m member => ?_⟩
    exact Nat.le_trans (others m member) (Nat.le_max_right _ _)

end

end Findings.Json
