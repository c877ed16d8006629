import Findings.Keyed
import Findings.Number.Binary

/-!
JSON values. The members of an object keep the order in which they are written; a *canonical*
value has the members of every object in strictly ascending byte order of their keys, so it is
determined by what it answers for each key. Free-form values that are kept, as remarks are, are
canonical.
-/

namespace Findings

/-- A number of a JSON value: an integer is kept exactly, any other number as a double. -/
inductive Json.Number where
  | integer (n : Int)
  | float (x : Number.Double)
  deriving DecidableEq, Repr, Inhabited

/-- A JSON value, with the members of an object in written order. -/
inductive Json where
  | null
  | bool (b : Bool)
  | number (n : Json.Number)
  | string (s : String)
  | array (items : List Json)
  | object (members : List (String × Json))
  deriving Repr, Inhabited

namespace Json

/-- An integer as a value. -/
def ofInt (n : Int) : Json := .number (.integer n)

/-- A natural number as a value. -/
def ofNat (n : Nat) : Json := .number (.integer n)

/-- A double as a value; one that is not finite is null. -/
def ofDouble (x : Findings.Number.Double) : Json :=
  if x.isFinite then .number (.float x) else .null

/-- A text, or null where there is none. -/
def ofOption : Option String → Json
  | some s => .string s
  | none => .null

/-- The value of a member; of several with one key, the first. -/
def member? (key : String) : Json → Option Json
  | .object members => members.lookup key
  | _ => none

/-- The member of an optional text, which is left out where there is none. -/
def optionalMember (key : String) : Option String → List (String × Json)
  | some s => [(key, .string s)]
  | none => []

mutual

/-- Every object in the value has strictly ascending keys. -/
def Canonical : Json → Prop
  | .array items => CanonicalItems items
  | .object members =>
    (members.Pairwise fun a b => Utf8.Before a.1 b.1) ∧ CanonicalMembers members
  | _ => True

/-- Every item of a list is canonical. -/
def CanonicalItems : List Json → Prop
  | [] => True
  | item :: rest => Canonical item ∧ CanonicalItems rest

/-- Every value of a list of members is canonical. -/
def CanonicalMembers : List (String × Json) → Prop
  | [] => True
  | (_, value) :: rest => Canonical value ∧ CanonicalMembers rest

end

theorem canonicalMembers_iff {members : List (String × Json)} :
    CanonicalMembers members ↔ ∀ m ∈ members, Canonical m.2 := by
  induction members with
  | nil => simp [CanonicalMembers]
  | cons m rest ih => simp [CanonicalMembers, ih]

mutual

/-- The value with the members of every object sorted, the last of several with one key kept. -/
def sorted : Json → Json
  | .array items => .array (sortedItems items)
  | .object members => .object (Keyed.ofList (sortedMembers members)).entries
  | other => other

/-- The items of a list with their members sorted. -/
def sortedItems : List Json → List Json
  | [] => []
  | item :: rest => sorted item :: sortedItems rest

/-- The members of a list, in their order, with the members within them sorted. -/
def sortedMembers : List (String × Json) → List (String × Json)
  | [] => []
  | (key, value) :: rest => (key, sorted value) :: sortedMembers rest

end

end Json

/-- What is put into a map is among its entries or was before. -/
theorem Keyed.mem_ofList {α : Type} {entries : List (String × α)} {e : String × α}
    (member : e ∈ (Keyed.ofList entries).entries) : e ∈ entries := by
  have step : ∀ (m : Keyed α) (l : List (String × α)),
      e ∈ (l.foldl (fun m e => m.insert e.1 e.2) m).entries → e ∈ l ∨ e ∈ m.entries := by
    intro m l
    induction l generalizing m with
    | nil => exact .inr
    | cons head rest ih =>
      intro found
      rcases ih _ found with h | h
      · exact .inl (List.mem_cons_of_mem _ h)
      · rcases Keyed.mem_place h with h | h
        · exact .inl (h ▸ List.mem_cons_self)
        · exact .inr h
  rcases step ∅ entries member with h | h
  · exact h
  · cases h

namespace Json

mutual

theorem canonical_sorted : ∀ value : Json, Canonical (sorted value)
  | .null | .bool _ | .number _ | .string _ => trivial
  | .array items => canonicalItems_sortedItems items
  | .object members => by
    refine ⟨Keyed.ascending _, canonicalMembers_iff.mpr fun m found => ?_⟩
    exact canonicalMembers_iff.mp (canonicalMembers_sortedMembers members) m
      (Keyed.mem_ofList found)

theorem canonicalItems_sortedItems : ∀ items : List Json, CanonicalItems (sortedItems items)
  | [] => trivial
  | item :: rest => ⟨canonical_sorted item, canonicalItems_sortedItems rest⟩

theorem canonicalMembers_sortedMembers :
    ∀ members : List (String × Json), CanonicalMembers (sortedMembers members)
  | [] => trivial
  | (_, value) :: rest => ⟨canonical_sorted value, canonicalMembers_sortedMembers rest⟩

end

end Json

/-- A free-form JSON value, held with its keys in order. -/
structure Remark where
  /-- The value. -/
  value : Json
  canonical : value.Canonical

namespace Remark

/-- The remark a JSON value stands for. -/
def ofJson (value : Json) : Remark := ⟨value.sorted, value.canonical_sorted⟩

/-- The remark that says nothing. -/
def null : Remark := ⟨.null, trivial⟩

instance : Inhabited Remark := ⟨null⟩

/-- The members of a canonical object, each with its value as a remark. -/
def attach : (members : List (String × Json)) → Json.CanonicalMembers members →
    List (String × Remark)
  | [], _ => []
  | (key, value) :: rest, canonical => (key, ⟨value, canonical.1⟩) :: attach rest canonical.2

/-- Attaching loses nothing: the members come back when the values are taken out. -/
theorem map_attach : ∀ (members : List (String × Json)) (canonical : Json.CanonicalMembers members),
    (attach members canonical).map (fun m => (m.1, m.2.value)) = members
  | [], _ => rfl
  | (_, _) :: rest, canonical => by simp [attach, map_attach rest canonical.2]

theorem ascending_attach {members : List (String × Json)}
    (canonical : Json.CanonicalMembers members)
    (ascending : members.Pairwise fun a b => Utf8.Before a.1 b.1) :
    (attach members canonical).Pairwise fun a b => Utf8.Before a.1 b.1 := by
  rw [← map_attach members canonical, List.pairwise_map] at ascending
  exact ascending

/-- The members of a remark that is an object. -/
def members? : Remark → Option (Keyed Remark)
  | ⟨.object members, canonical⟩ =>
    some ⟨attach members canonical.2, ascending_attach canonical.2 canonical.1⟩
  | _ => none

end Remark

end Findings
