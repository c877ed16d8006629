import Findings.Json.Basic
import Findings.Number.Decimal
import Findings.Text.Hex

/-!
JSON texts of values, in one line without spaces or set out over lines. Only quotes, backslashes
and control characters are escaped.
-/

namespace Findings.Json

/-- How one character is written in a string. -/
def escapeChar (c : Char) : List Char :=
  match c with
  | '"' => ['\\', '"']
  | '\\' => ['\\', '\\']
  | '\x08' => ['\\', 'b']
  | '\x0c' => ['\\', 'f']
  | '\n' => ['\\', 'n']
  | '\r' => ['\\', 'r']
  | '\t' => ['\\', 't']
  | c => if c.val < 32 then ['\\', 'u'] ++ Text.Hex.fixed 4 c.toNat else [c]

/-- A string with its quotes. -/
def stringText (s : String) : List Char := ['"'] ++ s.toList.flatMap escapeChar ++ ['"']

/-- Numbers that are not integers show a point or an exponent, and an exponent its sign. -/
def numberLayout : Number.Layout := ⟨-5, 15, ['+'], true⟩

/-- A number; one that is not finite is written as null. -/
def Number.text : Json.Number → List Char
  | .integer n => Findings.Number.intDigits n
  | .float x => if x.isFinite then (numberLayout.text x).toList else "null".toList

/-- Texts joined by a separator. -/
def joinWith (separator : List Char) : List (List Char) → List Char
  | [] => []
  | [part] => part
  | part :: rest => part ++ separator ++ joinWith separator rest

mutual

/-- The text of a value in one line. -/
def compactText : Json → List Char
  | .null => "null".toList
  | .bool true => "true".toList
  | .bool false => "false".toList
  | .number n => n.text
  | .string s => stringText s
  | .array items => ['['] ++ joinWith [','] (compactItems items) ++ [']']
  | .object members => ['\x7b'] ++ joinWith [','] (compactMembers members) ++ ['\x7d']

/-- The texts of items. -/
def compactItems : List Json → List (List Char)
  | [] => []
  | item :: rest => compactText item :: compactItems rest

/-- The texts of members. -/
def compactMembers : List (String × Json) → List (List Char)
  | [] => []
  | (key, value) :: rest => (stringText key ++ [':'] ++ compactText value) :: compactMembers rest

end

/-- The text of a value in one line. -/
def compact (value : Json) : String := String.ofList value.compactText

/-- A container set out over lines, one part a line and two spaces deeper; one without parts stays
closed. -/
def setOut (indent : Nat) (first last : Char) (parts : List (List Char)) : List Char :=
  if parts.isEmpty then [first, last]
  else
    let line (depth : Nat) : List Char := '\n' :: List.replicate (2 * depth) ' '
    [first] ++ line (indent + 1) ++ joinWith (',' :: line (indent + 1)) parts
      ++ line indent ++ [last]

mutual

/-- The text of a value over lines. -/
def prettyText (indent : Nat) : Json → List Char
  | .array items => setOut indent '[' ']' (prettyItems (indent + 1) items)
  | .object members => setOut indent '\x7b' '\x7d' (prettyMembers (indent + 1) members)
  | .null => "null".toList
  | .bool true => "true".toList
  | .bool false => "false".toList
  | .number n => n.text
  | .string s => stringText s

/-- The texts of items. -/
def prettyItems (indent : Nat) : List Json → List (List Char)
  | [] => []
  | item :: rest => prettyText indent item :: prettyItems indent rest

/-- The texts of members. -/
def prettyMembers (indent : Nat) : List (String × Json) → List (List Char)
  | [] => []
  | (key, value) :: rest =>
    (stringText key ++ [':', ' '] ++ prettyText indent value) :: prettyMembers indent rest

end

/-- The text of a value over lines. -/
def pretty (value : Json) : String := String.ofList (value.prettyText 0)

end Findings.Json
