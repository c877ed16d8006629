import Findings.Json.Basic

/-!
A JSON text as far as it can be read. A draft is a JSON value in which a part may be unreadable:
the text is no longer JSON there, a number is too great, half of a surrogate pair stands alone, or
too many containers are open. Which unreadable part matters depends on what is looked for, since a
member that nobody asks for is passed over unread.
-/

namespace Findings.Json

/-- What a JSON text says, with the places where it cannot be read. -/
inductive Draft where
  | null
  | bool (b : Bool)
  | number (n : Number)
  | string (s : String)
  | array (items : List Draft)
  /-- The members in written order. The object is `closed` unless the text breaks off behind them,
  or what stands in the place of the next key is no text. -/
  | object (members : List (String × Draft)) (closed : Bool)
  | unreadable
  deriving Repr, Inhabited

/-- A text with a draft of its first value. -/
structure Document where
  /-- The value the text begins with. -/
  draft : Draft
  /-- Nothing but blanks follows the value. -/
  complete : Bool
  deriving Repr, Inhabited

mutual

/-- A value, as a draft without unreadable parts. -/
def draft : Json → Draft
  | .null => .null
  | .bool b => .bool b
  | .number n => .number n
  | .string s => .string s
  | .array items => .array (draftItems items)
  | .object members => .object (draftMembers members) true

/-- The items of a list as drafts. -/
def draftItems : List Json → List Draft
  | [] => []
  | item :: rest => draft item :: draftItems rest

/-- The members of a list as drafts. -/
def draftMembers : List (String × Json) → List (String × Draft)
  | [] => []
  | (key, value) :: rest => (key, draft value) :: draftMembers rest

end

theorem draftItems_eq_map (items : List Json) : draftItems items = items.map draft := by
  induction items with
  | nil => rfl
  | cons item rest ih => simp [draftItems, ih]

theorem draftMembers_eq_map (members : List (String × Json)) :
    draftMembers members = members.map fun m => (m.1, draft m.2) := by
  induction members with
  | nil => rfl
  | cons m rest ih => simp [draftMembers, ih]

namespace Draft

mutual

/-- The value of a draft that is readable throughout. -/
def value? : Draft → Option Json
  | null => some .null
  | bool b => some (.bool b)
  | number n => some (.number n)
  | string s => some (.string s)
  | array items => (values? items).map Json.array
  | object members true => (memberValues? members).map Json.object
  | object _ false => none
  | unreadable => none

/-- The values of a list of readable drafts. -/
def values? : List Draft → Option (List Json)
  | [] => some []
  | item :: rest =>
    match value? item, values? rest with
    | some value, some values => some (value :: values)
    | _, _ => none

/-- The members of a list whose values are readable. -/
def memberValues? : List (String × Draft) → Option (List (String × Json))
  | [] => some []
  | (key, item) :: rest =>
    match value? item, memberValues? rest with
    | some value, some values => some ((key, value) :: values)
    | _, _ => none

end

end Draft

mutual

/-- A value is the value of its draft. -/
theorem value?_draft : ∀ value : Json, (draft value).value? = some value
  | .null | .bool _ | .number _ | .string _ => rfl
  | .array items => by simp [draft, Draft.value?, values?_draftItems items]
  | .object members => by simp [draft, Draft.value?, memberValues?_draftMembers members]

theorem values?_draftItems : ∀ items : List Json, Draft.values? (draftItems items) = some items
  | [] => rfl
  | item :: rest => by
    simp [draftItems, Draft.values?, value?_draft item, values?_draftItems rest]

theorem memberValues?_draftMembers : ∀ members : List (String × Json),
    Draft.memberValues? (draftMembers members) = some members
  | [] => rfl
  | (key, value) :: rest => by
    simp [draftMembers, Draft.memberValues?, value?_draft value, memberValues?_draftMembers rest]

end

end Findings.Json
