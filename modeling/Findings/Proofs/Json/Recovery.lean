import Findings.Json.Shape
import Findings.Proofs.Json.Arrangement
import Findings.Proofs.Json.Spelling
import Findings.Proofs.Record.Reading
import Mathlib.Data.List.Forall2

/-!
Reading back what was written. A reader *recovers* something from a value when it reads it from
every arrangement of the value (`Json.Reader.Recovers`). A structure is read from an object member
by member, so where each of its fields accepts what stands under its name the object passes
(`Json.Struct.members_eq_ok`), and each field is recovered from what stands there.
-/

namespace Findings.Json

open Record (bind_eq_ok_iff)

variable {α : Type}

/-! ## Readers -/

namespace Reader

/-- The reader reads a value as `a`, in whatever order the members of its objects stand. -/
def Recovers (reader : Reader α) (written : Json) (a : α) : Prop :=
  ∀ value, value.Arranges written → reader (draft value) = .ok a

/-- What holds no other values has to be read in one way only. -/
theorem Recovers.of_plain {reader : Reader α} {written : Json} {a : α}
    (plain : written.isContainer = false) (read : reader (draft written) = .ok a) :
    reader.Recovers written a := by
  intro value arranges
  rw [arranges.eq_of_plain plain, read]

/-- What is recovered from a value is read from the text of the value. -/
theorem Recovers.parse_compact {reader : Reader α} {value written : Json} {a : α}
    (recovers : reader.Recovers written a) (arranges : value.Arranges written)
    (legible : value.Legible 0) : parse reader value.compact = .ok a := by
  rw [parse, ofText_compact legible, ofDocument, recovers value arranges]
  rfl

theorem recovers_string (s : String) : string.Recovers (.string s) s := .of_plain rfl rfl

theorem recovers_some (s : String) : optionalString.Recovers (.string s) (some s) :=
  .of_plain rfl rfl

theorem recovers_ofOption (s : Option String) : optionalString.Recovers (.ofOption s) s := by
  cases s with
  | none => exact .of_plain rfl rfl
  | some s => exact recovers_some s

theorem recovers_bool (b : Bool) : bool.Recovers (.bool b) b := .of_plain rfl rfl

theorem recovers_word (name : String) (n : UInt64) :
    (word name).Recovers (.ofNat n.toNat) n := by
  have low : (0 : Int) ≤ n.toNat := Int.natCast_nonneg _
  have high : (n.toNat : Int) < Nat.pow 2 64 := Int.ofNat_lt.mpr n.toNat_lt
  refine .of_plain rfl ?_
  rw [ofNat, draft, word, decide_eq_true low, decide_eq_true high, Int.toNat_natCast,
    UInt64.ofNat_toNat]
  rfl

/-- A free-form value is kept with its members sorted, so their order does not matter. -/
theorem recovers_remark (r : Remark) : remark.Recovers r.value r := by
  intro value arranges
  have sorted : value.sorted = r.value := arranges.same.trans (sorted_of_canonical r.canonical)
  unfold remark
  rw [value?_draft]
  obtain ⟨held, canonical⟩ := r
  cases sorted
  rfl

/-- Any value is read as a remark, with its members sorted. -/
theorem remark_eq_ok_iff {d : Draft} {r : Remark} : remark d = .ok r ↔
    ∃ value, d.value? = some value ∧ r.value = value.sorted := by
  rw [remark]
  cases d.value? with
  | none => simp
  | some value =>
    obtain ⟨held, canonical⟩ := r
    simp [Remark.ofJson, eq_comm]

theorem variantOf_string (source : Source) {names : List String} {name : String}
    (listed : name ∈ names) : variantOf source names (.string name) = .ok ⟨name, none, true⟩ := by
  have known : names.contains name = true := List.contains_iff_mem.mpr listed
  cases source <;> exact if_pos known

theorem recovers_unitVariant {source : Source} {cases : List (String × α)} {name : String} {a : α}
    (known : cases.lookup name = some a) :
    (unitVariant source cases).Recovers (.string name) a := by
  have listed : name ∈ cases.map Prod.fst := List.mem_map_of_mem (Keyed.mem_of_lookup known)
  refine .of_plain rfl ?_
  refine bind_eq_ok_iff.mpr ⟨_, variantOf_string source listed, ?_⟩
  refine bind_eq_ok_iff.mpr ⟨(), rfl, ?_⟩
  dsimp only
  rw [known]
  rfl

/-! ## Maps -/

/-- The values of members are read one by one, each under its key. -/
theorem entries_eq_ok_iff {reader : Reader α} {members : List (String × Draft)}
    {values : List (String × α)} : entries reader members = .ok values ↔
      List.Forall₂ (fun m e => m.1 = e.1 ∧ reader m.2 = .ok e.2) members values := by
  induction members generalizing values with
  | nil =>
    rw [entries, List.forall₂_nil_left_iff]
    constructor
    · rintro ⟨⟩
      rfl
    · rintro rfl
      rfl
  | cons m rest ih =>
    obtain ⟨key, d⟩ := m
    rw [entries, List.forall₂_cons_left_iff]
    constructor
    · intro read
      obtain ⟨a, first, read⟩ := bind_eq_ok_iff.mp read
      obtain ⟨others, later, returned⟩ := bind_eq_ok_iff.mp read
      cases returned
      exact ⟨(key, a), others, ⟨rfl, first⟩, ih.mp later, rfl⟩
    · rintro ⟨⟨_, a⟩, others, ⟨rfl, first⟩, later, rfl⟩
      have read : entries reader rest = .ok others := ih.mpr later
      exact bind_eq_ok_iff.mpr ⟨a, first, bind_eq_ok_iff.mpr ⟨others, read, rfl⟩⟩

/-- Lists that name the same keys in the same order answer each with values that belong together. -/
theorem lookup_of_forall₂ {β : Type} {R : α → β → Prop} {entries : List (String × α)}
    {others : List (String × β)}
    (related : List.Forall₂ (fun e f => e.1 = f.1 ∧ R e.2 f.2) entries others) (key : String) :
    Option.Rel R (entries.lookup key) (others.lookup key) := by
  induction related with
  | nil => exact .none
  | @cons e f _ _ first _ ih =>
    obtain ⟨name, value⟩ := e
    obtain ⟨_, other⟩ := f
    obtain ⟨rfl, holds⟩ := first
    rw [Keyed.lookup_cons_ite, Keyed.lookup_cons_ite]
    split
    · exact .some holds
    · exact ih

/-- Of several members with one key the last is what the map has. -/
theorem get?_ofList_of_entries {reader : Reader α} {members : List (String × Draft)}
    {values : List (String × α)} (read : entries reader members = .ok values) (key : String) :
    Option.Rel (fun d a => reader d = .ok a) (members.reverse.lookup key)
      ((Keyed.ofList values).get? key) := by
  rw [Keyed.get?_ofList]
  exact lookup_of_forall₂ (List.forall₂_reverse_iff.mpr (entries_eq_ok_iff.mp read)) key

/-- A map that is read is empty when no members are. -/
theorem isEmpty_of_entries {members : List (String × Draft)} {reader : Reader α}
    {values : List (String × α)} (read : entries reader members = .ok values) :
    (Keyed.ofList values).isEmpty = members.isEmpty := by
  cases members with
  | nil =>
    cases read
    rfl
  | cons m rest =>
    rw [List.isEmpty_cons, Bool.eq_false_iff]
    intro empty
    have answer := get?_ofList_of_entries read m.1
    have none : Keyed.ofList values = ∅ := Keyed.ext (List.isEmpty_iff.mp empty)
    have named : m.1 ∈ (m :: rest).reverse.map Prod.fst := by simp
    rw [none] at answer
    rw [Keyed.mem_map_fst_iff] at named
    generalize (m :: rest).reverse.lookup m.1 = found at answer named
    cases answer
    cases named

/-- Members that are read as what a map has under their keys are read throughout. -/
theorem exists_entries_eq_ok {reader : Reader α} {m : Keyed α} {members : List (String × Json)}
    (each : ∀ e ∈ members, ∃ a, m.get? e.1 = some a ∧ reader (draft e.2) = .ok a) :
    ∃ values, entries reader (draftMembers members) = .ok values ∧
      values.map Prod.fst = members.map Prod.fst ∧ ∀ e ∈ values, m.get? e.1 = some e.2 := by
  induction members with
  | nil => exact ⟨[], rfl, rfl, nofun⟩
  | cons head rest ih =>
    obtain ⟨first, later⟩ := List.forall_mem_cons.mp each
    obtain ⟨a, held, read⟩ := first
    obtain ⟨others, readOthers, keys, heldOthers⟩ := ih later
    refine ⟨(head.1, a) :: others, ?_, by rw [List.map_cons, keys, List.map_cons],
      List.forall_mem_cons.mpr ⟨held, heldOthers⟩⟩
    exact bind_eq_ok_iff.mpr ⟨a, read, bind_eq_ok_iff.mpr ⟨others, readOthers, rfl⟩⟩

/-- So they are read as the map when they name all its keys, each once. -/
theorem exists_entries_ofList {reader : Reader α} {m : Keyed α} {members : List (String × Json)}
    (distinct : (members.map Prod.fst).Nodup)
    (each : ∀ e ∈ members, ∃ a, m.get? e.1 = some a ∧ reader (draft e.2) = .ok a)
    (named : ∀ key a, m.get? key = some a → key ∈ members.map Prod.fst) :
    ∃ values, entries reader (draftMembers members) = .ok values ∧ Keyed.ofList values = m := by
  obtain ⟨values, read, keys, same⟩ := exists_entries_eq_ok each
  refine ⟨values, read, Keyed.ext_get? fun key => ?_⟩
  rw [Keyed.get?_ofList_of_nodup (keys ▸ distinct)]
  cases found : values.lookup key with
  | some a => exact (same _ (Keyed.mem_of_lookup found)).symm
  | none =>
    cases held : m.get? key with
    | none => rfl
    | some a =>
      have shown := named key a held
      rw [← keys, Keyed.mem_map_fst_iff, found] at shown
      cases shown

theorem recovers_keyed {reader : Reader α} {write : α → Json} {m : Keyed α}
    (each : ∀ key a, m.get? key = some a → reader.Recovers (write a) a) :
    (keyed reader).Recovers (.object (m.map write).entries) m := by
  intro value arranges
  obtain ⟨members, rfl, rearranged⟩ := arranges.exists_members (m.map write).keys_nodup
  have written (key : String) : (m.map write).entries.lookup key = (m.get? key).map write :=
    Keyed.get?_map write m key
  have held : ∀ e ∈ members, ∃ a, m.get? e.1 = some a ∧ reader (draft e.2) = .ok a := by
    intro e member
    obtain ⟨value, found, arranges⟩ := rearranged.of_mem member
    obtain ⟨a, held, rfl⟩ := Option.map_eq_some_iff.mp ((written e.1).symm.trans found)
    exact ⟨a, held, each e.1 a held e.2 arranges⟩
  have named (key : String) (a : α) (held : m.get? key = some a) :
      key ∈ members.map Prod.fst := by
    obtain ⟨_, shown, _⟩ := rearranged.lookup_of_some ((written key).trans (by rw [held]; rfl))
    exact List.mem_map_of_mem (Keyed.mem_of_lookup shown)
  obtain ⟨values, read, whole⟩ := exists_entries_ofList rearranged.distinct held named
  refine bind_eq_ok_iff.mpr ⟨values, read, ?_⟩
  rw [whole]
  rfl

end Reader

/-! ## Fields -/

/-- The check of a field passes whatever arrangement of a value stands there. -/
def Field.Accepts (field : Field) (written : Json) : Prop :=
  ∀ value, value.Arranges written → field.check (draft value) = .ok ()

@[simp]
theorem Field.name_required (name : String) (reader : Reader α) :
    (required name reader).name = name := rfl

@[simp]
theorem Field.name_defaulted (name : String) (reader : Reader α) :
    (defaulted name reader).name = name := rfl

theorem Reader.Recovers.required {reader : Reader α} {written : Json} {a : α}
    (recovers : reader.Recovers written a) (name : String) :
    (Field.required name reader).Accepts written := by
  intro value arranges
  exact congrArg (Except.map fun _ => ()) (recovers value arranges)

theorem Reader.Recovers.defaulted {reader : Reader α} {written : Json} {a : α}
    (recovers : reader.Recovers written a) (name : String) :
    (Field.defaulted name reader).Accepts written := recovers.required name

@[simp]
theorem Field.accepts_string (name s : String) :
    (required name Reader.string).Accepts (.string s) := (Reader.recovers_string s).required name

@[simp]
theorem Field.accepts_string_or_default (name s : String) :
    (defaulted name Reader.string).Accepts (.string s) := (Reader.recovers_string s).defaulted name

@[simp]
theorem Field.accepts_some (name s : String) :
    (required name Reader.optionalString).Accepts (.string s) :=
  (Reader.recovers_some s).required name

@[simp]
theorem Field.accepts_some_or_default (name s : String) :
    (defaulted name Reader.optionalString).Accepts (.string s) :=
  (Reader.recovers_some s).defaulted name

/-- Each field accepts what stands under its name, if anything does. -/
def Struct.Accepts (s : Struct) (written : List (String × Json)) : Prop :=
  ∀ field ∈ s.fields, ∀ value, written.lookup field.name = some value → field.Accepts value

namespace Struct

variable {s : Struct} {other : Draft → Except ShapeError Unit}
  {members written : List (String × Json)}

theorem field?_eq_some {name : String} {field : Field} (found : s.field? name = some field) :
    field ∈ s.fields ∧ field.name = name := by
  unfold field? at found
  exact ⟨List.mem_of_find?_eq_some found, eq_of_beq (List.find?_some found :)⟩

/-- Members pass a check when none is named twice and each passes by itself. -/
theorem checkMembers_eq_ok {seen : List String} (distinct : (members.map Prod.fst).Nodup)
    (fresh : ∀ m ∈ members, m.1 ∉ seen)
    (fields : ∀ m ∈ members, ∀ field, s.field? m.1 = some field → field.check (draft m.2) = .ok ())
    (others : ∀ m ∈ members, s.field? m.1 = none → other (draft m.2) = .ok ()) :
    s.checkMembers other seen (draftMembers members) = .ok () := by
  induction members generalizing seen with
  | nil => rfl
  | cons head rest ih =>
    obtain ⟨key, value⟩ := head
    obtain ⟨new, distinct⟩ := List.nodup_cons.mp distinct
    obtain ⟨unseen, fresh⟩ := List.forall_mem_cons.mp fresh
    obtain ⟨passes, fields⟩ := List.forall_mem_cons.mp fields
    obtain ⟨passed, others⟩ := List.forall_mem_cons.mp others
    rw [draftMembers, checkMembers]
    cases found : s.field? key with
    | none =>
      exact bind_eq_ok_iff.mpr ⟨(), passed found, ih distinct fresh fields others⟩
    | some field =>
      have single : ¬ seen.contains key = true := fun again =>
        unseen (List.contains_iff_mem.mp again)
      have later : ∀ m ∈ rest, m.1 ∉ key :: seen := by
        intro m member again
        rcases List.mem_cons.mp again with same | before
        · exact new (List.mem_map.mpr ⟨m, member, same⟩)
        · exact fresh m member before
      dsimp only
      rw [if_neg single]
      exact bind_eq_ok_iff.mpr ⟨(), passes field found, ih distinct later fields others⟩

/-- An object that a structure accepts, in whatever order, passes with all its members. -/
theorem members_eq_ok (source : Source) (rearranged : Rearranged members written)
    (accepts : s.Accepts written)
    (others : ∀ m ∈ members, s.field? m.1 = none → other (draft m.2) = .ok ()) :
    s.members source other (draft (.object members)) = .ok (draftMembers members) := by
  have checked : s.checkMembers other [] (draftMembers members) = .ok () := by
    refine checkMembers_eq_ok rearranged.distinct (fun _ _ => List.not_mem_nil) ?_ others
    intro m member field found
    obtain ⟨value, shown, arranges⟩ := rearranged.of_mem member
    obtain ⟨listed, named⟩ := field?_eq_some found
    exact accepts field listed value (by rw [named, shown]) m.2 arranges
  exact bind_eq_ok_iff.mpr ⟨(), checked, rfl⟩

theorem known_eq_ok (source : Source) (rearranged : Rearranged members written)
    (accepts : s.Accepts written) :
    s.known source (draft (.object members)) = .ok (draftMembers members) :=
  members_eq_ok source rearranged accepts fun _ _ _ => rfl

end Struct

/-! ## Members -/

section

variable {members : List (String × Draft)} {name : String} {reader : Reader α} {a : α}

theorem require_eq_ok_iff : require members name reader = .ok a ↔
    ∃ d, members.lookup name = some d ∧ reader d = .ok a := by
  rw [require]
  cases members.lookup name <;> simp

theorem orElse_eq_ok_iff {default : α} : orElse members name reader default = .ok a ↔
    (members.lookup name = none ∧ default = a) ∨
      ∃ d, members.lookup name = some d ∧ reader d = .ok a := by
  rw [orElse]
  cases members.lookup name <;> simp

end

namespace Rearranged

variable {members written : List (String × Json)} {reader : Reader α} {name : String} {a : α}

theorem lookup_draft (members : List (String × Json)) (name : String) :
    (draftMembers members).lookup name = (members.lookup name).map draft := by
  rw [draftMembers_eq_map, Keyed.lookup_map]

/-- A field is recovered from what stands under its name. -/
theorem require (rearranged : Rearranged members written) {value : Json}
    (part : written.lookup name = some value) (recovers : reader.Recovers value a) :
    Json.require (draftMembers members) name reader = .ok a := by
  obtain ⟨held, found, arranges⟩ := rearranged.lookup_of_some part
  rw [Json.require, lookup_draft, found]
  exact recovers held arranges

theorem orElse (rearranged : Rearranged members written) {value : Json} {default : α}
    (part : written.lookup name = some value) (recovers : reader.Recovers value a) :
    Json.orElse (draftMembers members) name reader default = .ok a := by
  obtain ⟨held, found, arranges⟩ := rearranged.lookup_of_some part
  rw [Json.orElse, lookup_draft, found]
  exact recovers held arranges

theorem text (rearranged : Rearranged members written) {s : String}
    (part : written.lookup name = some (.string s)) :
    Json.orElse (draftMembers members) name Reader.string "" = .ok s :=
  rearranged.orElse part (Reader.recovers_string s)

/-- A field under whose name nothing stands has its default. -/
theorem orElse_of_none (rearranged : Rearranged members written) {default : α}
    (absent : written.lookup name = none) :
    Json.orElse (draftMembers members) name reader default = .ok default := by
  rw [Json.orElse, lookup_draft, rearranged.lookup_of_none absent]
  rfl

/-- An optional text is recovered, also where it was left out. -/
theorem optional (rearranged : Rearranged members written) {text : Option String}
    (part : written.lookup name = text.map Json.string) :
    Json.orElse (draftMembers members) name Reader.optionalString none = .ok text := by
  cases text with
  | none => exact rearranged.orElse_of_none part
  | some s => exact rearranged.orElse part (Reader.recovers_some s)

end Rearranged

/-- A structure is recovered from an object when its fields accept what stands there and it is built
from the members in whatever order they stand. -/
theorem Struct.recovers {s : Struct} {written : List (String × Json)} {a : α}
    {build : List (String × Draft) → Except ShapeError α} (source : Source)
    (distinct : (written.map Prod.fst).Nodup) (accepts : s.Accepts written)
    (built : ∀ members, Rearranged members written → build (draftMembers members) = .ok a) :
    Reader.Recovers (fun d => s.known source d >>= build) (.object written) a := by
  intro value arranges
  obtain ⟨members, rfl, rearranged⟩ := arranges.exists_members distinct
  exact bind_eq_ok_iff.mpr
    ⟨_, known_eq_ok source rearranged accepts, built members rearranged⟩

/-! ## Members without a field -/

theorem Struct.checkMembers_unnamed {s : Struct} {key : String} (unnamed : s.field? key = none)
    (seen : List String) (before after : List (String × Draft)) (d : Draft) :
    s.checkMembers (fun _ => .ok ()) seen (before ++ (key, d) :: after) =
      s.checkMembers (fun _ => .ok ()) seen (before ++ after) := by
  induction before generalizing seen with
  | nil =>
    rw [List.nil_append, checkMembers, unnamed]
    rfl
  | cons m before ih =>
    simp only [List.cons_append, checkMembers, ih]

/-- A member that a structure does not name is passed over, whatever stands there. -/
theorem Struct.known_bind_unnamed {s : Struct} {key : String} (unnamed : s.field? key = none)
    {build : List (String × Draft) → Except ShapeError α}
    (blind : ∀ members others : List (String × Draft),
      (∀ name, name ≠ key → members.lookup name = others.lookup name) →
        build members = build others)
    (source : Source) (before after : List (String × Draft)) (d : Draft) (closed : Bool) :
    (s.known source (.object (before ++ (key, d) :: after) closed) >>= build) =
      (s.known source (.object (before ++ after) closed) >>= build) := by
  have same : build (before ++ (key, d) :: after) = build (before ++ after) := by
    refine blind _ _ fun name different => ?_
    rw [List.lookup_append, List.lookup_append, Keyed.lookup_cons_ite, if_neg different]
  unfold known members
  dsimp only
  rw [checkMembers_unnamed unnamed]
  cases s.checkMembers (fun _ => .ok ()) [] (before ++ after) with
  | error e => rfl
  | ok _ =>
    cases closed with
    | false => rfl
    | true => exact same

end Findings.Json
