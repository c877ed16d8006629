import Findings.Json.Draft
import Findings.Json.Print
import Findings.Json.Text
import Findings.Text.Quoted

/-!
Reading typed values out of drafts. A structure is read from an object by name or from an array by
position, and the first fault in the order of the text is the one that is reported; what is missing
is reported after that, in the order in which the structure names its fields. Members that a
structure does not name are passed over.
-/

namespace Findings.Json

/-- What stands where something else is expected. -/
inductive Found where
  | null
  | boolean (b : Bool)
  | integer (n : Int)
  | float (x : Number.Double)
  | string (s : String)
  | sequence
  | map
  | unitVariant
  deriving DecidableEq, Repr

/-- The words for what was found. -/
def Found.text : Found → String
  | null => "null"
  | boolean b => s!"boolean `{b}`"
  | integer n => "integer `" ++ String.ofList (Number.intDigits n) ++ "`"
  | float x => "floating point `" ++ String.ofList (Number.text (.float x)) ++ "`"
  | string s => "string " ++ Text.quote s
  | sequence => "sequence"
  | map => "map"
  | unitVariant => "unit variant"

/-- Why a draft is not of the shape that is read. -/
inductive ShapeError where
  /-- The text is not JSON, or holds a value where nothing can be read. -/
  | malformed
  | type (found : Found) (expected : String)
  | value (found : Found) (expected : String)
  | length (count : Nat) (expected : String)
  | missing (field : String)
  | duplicate (field : String)
  | variant (name : String) (known : List String)
  /-- A text that does not spell the value it should. -/
  | spelling (message : String)
  deriving DecidableEq, Repr

/-- A name between backquotes. -/
def backquoted (name : String) : String := "`" ++ name ++ "`"

/-- A choice among names. -/
def choice : List String → String
  | [only] => backquoted only
  | [first, second] => backquoted first ++ " or " ++ backquoted second
  | names => "one of " ++ ", ".intercalate (names.map backquoted)

/-- The sentence an error is reported with; a malformed text has none. -/
def ShapeError.message : ShapeError → String
  | malformed => ""
  | type found expected => "invalid type: " ++ found.text ++ ", expected " ++ expected
  | value found expected => "invalid value: " ++ found.text ++ ", expected " ++ expected
  | length count expected => s!"invalid length {count}, expected " ++ expected
  | missing field => "missing field " ++ backquoted field
  | duplicate field => "duplicate field " ++ backquoted field
  | variant name known => "unknown variant " ++ backquoted name ++ ", expected " ++ choice known
  | spelling message => message

/-- A way to read values of one type. -/
abbrev Reader (α : Type) := Draft → Except ShapeError α

/-- Refuses a draft that is not of an expected kind. -/
def mismatch {α : Type} (expected : String) : Reader α
  | .null => .error (.type .null expected)
  | .bool b => .error (.type (.boolean b) expected)
  | .number (.integer n) => .error (.type (.integer n) expected)
  | .number (.float x) => .error (.type (.float x) expected)
  | .string s => .error (.type (.string s) expected)
  | .array _ => .error (.type .sequence expected)
  | .object _ _ => .error (.type .map expected)
  | .unreadable => .error .malformed

namespace Reader

/-- A text. -/
def string : Reader String
  | .string s => .ok s
  | d => mismatch "a string" d

/-- A text, or null for none. -/
def optionalString : Reader (Option String)
  | .null => .ok none
  | d => (string d).map some

/-- A truth value. -/
def bool : Reader Bool
  | .bool b => .ok b
  | d => mismatch "a boolean" d

/-- An unsigned integer of 64 bits; `name` is what the type is called in errors. -/
def word (name : String) : Reader UInt64
  | .number (.integer n) =>
    if 0 ≤ n && n < Nat.pow 2 64 then .ok (UInt64.ofNat n.toNat)
    else .error (.value (.integer n) name)
  | d => mismatch name d

/-- A double. -/
def double : Reader Number.Double
  | .number (.float x) => .ok x
  | .number (.integer n) => .ok (.ofInt n)
  | d => mismatch "f64" d

/-- A single: the nearest one to what is written. -/
def single : Reader Number.Single
  | .number (.float x) => .ok x.toSingle
  | .number (.integer n) => .ok (.ofInt n)
  | d => mismatch "f32" d

/-- A free-form value. -/
def remark : Reader Remark := fun d =>
  match d.value? with
  | some value => .ok (.ofJson value)
  | none => .error .malformed

/-- Reads the values of members in order. -/
def entries {α : Type} (reader : Reader α) :
    List (String × Draft) → Except ShapeError (List (String × α))
  | [] => .ok []
  | (key, d) :: rest => do
    let value ← reader d
    let values ← entries reader rest
    return (key, value) :: values

/-- A map from texts, where a later member replaces an earlier one of its key. -/
def keyed {α : Type} (reader : Reader α) : Reader (Keyed α)
  | .object members closed => do
    let entries ← entries reader members
    if !closed then throw .malformed
    return .ofList entries
  | d => mismatch "a map" d

end Reader

/-- Where a draft comes from. The places differ in how they refuse what is too long and in how an
enumeration may be spelled. -/
inductive Source where
  /-- A text, read as it goes. -/
  | text
  /-- A value that was read before. -/
  | value
  /-- A part of a text that was kept until its kind was known. -/
  | kept
  deriving DecidableEq, Repr

/-- A field of a structure. -/
structure Field where
  /-- The name its member has. -/
  name : String
  /-- It must stand in an array that is not long enough for all fields. -/
  positional : Bool
  /-- Reads its value and forgets it. -/
  check : Draft → Except ShapeError Unit

/-- A field with no default. -/
def Field.required {α : Type} (name : String) (reader : Reader α) : Field :=
  ⟨name, true, fun d => (reader d).map fun _ => ()⟩

/-- A field with a default. -/
def Field.defaulted {α : Type} (name : String) (reader : Reader α) : Field :=
  ⟨name, false, fun d => (reader d).map fun _ => ()⟩

/-- A structure: what it is called, and its fields. -/
structure Struct where
  /-- What is expected, in errors. -/
  title : String
  /-- The fields in order. -/
  fields : List Field

/-- A count of elements. -/
def elements (count : Nat) : String := if count == 1 then "1 element" else s!"{count} elements"

namespace Struct

/-- The field with a name. -/
def field? (s : Struct) (name : String) : Option Field := s.fields.find? (·.name == name)

/-- Checks members in order, where `seen` holds the names of the fields before them. What stands
under other names is checked with `other`. -/
def checkMembers (s : Struct) (other : Draft → Except ShapeError Unit) (seen : List String) :
    List (String × Draft) → Except ShapeError Unit
  | [] => .ok ()
  | (key, d) :: rest =>
    match s.field? key with
    | none => do other d; s.checkMembers other seen rest
    | some field => do
      if seen.contains key then throw (.duplicate key)
      field.check d
      s.checkMembers other (key :: seen) rest

/-- Checks items against fields in order. The count is of the items before; `all` is the number of
items there are. -/
def checkItems (s : Struct) (source : Source) (all : Nat) (count : Nat) :
    List Field → List Draft → Except ShapeError Unit
  | [], [] => .ok ()
  | [], _ :: _ =>
    match source with
    | .text => .error .malformed
    | .value => .error (.length all "fewer elements in array")
    | .kept => .error (.length all (elements count ++ " in sequence"))
  | field :: fields, [] =>
    if field.positional then
      .error (.length count (s.title ++ " with " ++ elements s.fields.length))
    else s.checkItems source all (count + 1) fields []
  | field :: fields, item :: items => do
    field.check item
    s.checkItems source all (count + 1) fields items

/-- The members of a structure, each checked. An array gives its items the names of the fields. -/
def members (s : Struct) (source : Source) (other : Draft → Except ShapeError Unit) :
    Reader (List (String × Draft))
  | .object members closed => do
    s.checkMembers other [] members
    if !closed then throw .malformed
    return members
  | .array items => do
    s.checkItems source items.length 0 s.fields items
    return (s.fields.map Field.name).zip items
  | d => mismatch s.title d

/-- The members of a structure that passes over what it does not name. -/
def known (s : Struct) (source : Source) : Reader (List (String × Draft)) :=
  s.members source fun _ => .ok ()

end Struct

/-- The value of a field that must be there. -/
def require {α : Type} (members : List (String × Draft)) (name : String) (reader : Reader α) :
    Except ShapeError α :=
  match members.lookup name with
  | some d => reader d
  | none => .error (.missing name)

/-- The value of a field, or its default. -/
def orElse {α : Type} (members : List (String × Draft)) (name : String) (reader : Reader α)
    (default : α) : Except ShapeError α :=
  match members.lookup name with
  | some d => reader d
  | none => .ok default

/-- A case of an enumeration as it is spelled. -/
structure Variant where
  /-- The name of the case. -/
  name : String
  /-- What is said of the case, if anything is. -/
  content : Option Draft
  /-- Nothing else is said. -/
  closed : Bool

/-- Reads the name of a case: a text, or an object whose one key is the name. -/
def variantOf (source : Source) (names : List String) (d : Draft) : Except ShapeError Variant := do
  let variant ← match source, d with
    | _, .string name => pure ⟨name, none, true⟩
    | .text, .object ((name, d) :: others) closed =>
      pure ⟨name, some d, others.isEmpty && closed⟩
    | .text, _ => throw .malformed
    | _, .object [(name, d)] true => pure ⟨name, some d, true⟩
    | _, .object _ _ => throw (.value .map "map with a single key")
    | _, d => mismatch "string or map" d
  if names.contains variant.name then return variant else throw (.variant variant.name names)

/-- Reads what a case holds; a name alone holds nothing. -/
def Variant.newtype {α : Type} (variant : Variant) (reader : Reader α) : Except ShapeError α := do
  match variant.content with
  | none => throw (.type .unitVariant "newtype variant")
  | some d =>
    let value ← reader d
    if variant.closed then return value else throw .malformed

/-- Reads a case that holds nothing: its name alone, or its name with null. -/
def Variant.unit (variant : Variant) : Except ShapeError Unit := do
  match variant.content with
  | none | some .null => pure ()
  | some d => mismatch "unit" d
  if variant.closed then return () else throw .malformed

/-- Reads an enumeration whose cases hold nothing. -/
def unitVariant {α : Type} (source : Source) (cases : List (String × α)) : Reader α := fun d => do
  let variant ← variantOf source (cases.map Prod.fst) d
  variant.unit
  match cases.lookup variant.name with
  | some case => return case
  | none => throw .malformed

/-- Reads a text from which nothing may be left over. -/
def ofDocument {α : Type} (reader : Reader α) (document : Document) : Except ShapeError α := do
  let value ← reader document.draft
  if document.complete then return value else throw .malformed

/-- Reads a text. -/
def parse {α : Type} (reader : Reader α) (text : String) : Except ShapeError α :=
  ofDocument reader (.ofText text)

end Findings.Json
