import Findings.Json.Shape
import Findings.Text.Hex
import Findings.Text.Utf8

/-!
Identifiers of events: sixteen bytes, written as 32 hexadecimal digits in five groups. They are
read with or without hyphens, and with hyphens also between braces or after `urn:uuid:`.
-/

namespace Findings

open Json

/-- An identifier of an event. -/
structure Identifier where
  /-- Its digits as one number. -/
  value : Nat
  deriving DecidableEq, Repr, Inhabited

namespace Identifier

/-- The identifier in lower case with hyphens. -/
def text (i : Identifier) : String :=
  let digits := Text.Hex.fixed 32 i.value
  String.ofList (digits.take 8 ++ ['-'] ++ (digits.drop 8).take 4 ++ ['-'] ++
    (digits.drop 12).take 4 ++ ['-'] ++ (digits.drop 16).take 4 ++ ['-'] ++ digits.drop 20)

/-! ## Reading -/

/-- Why a text is no identifier. -/
inductive Complaint where
  /-- A character that no identifier has, with the bytes before it. -/
  | character (c : Char) (place : Nat)
  | length (bytes : Nat)
  | groupCount (count : Nat)
  | groupLength (group expected bytes : Nat)
  deriving DecidableEq, Repr

/-- The sentence of a complaint. -/
def Complaint.message : Complaint → String
  | character c place => "invalid character: found `" ++ String.singleton c ++ s!"` at {place}"
  | length bytes => s!"invalid length: found {bytes}"
  | groupCount count => s!"invalid group count: expected 5, found {count}"
  | groupLength group expected bytes =>
    s!"invalid group length in group {group}: expected {expected}, found {bytes}"

/-- The word that may stand before an identifier. -/
def urn : List Char := "urn:uuid:".toList

/-- Takes an identifier out of what surrounds it. -/
def unwrap? (cs : List Char) : Option (List Char) :=
  if cs.head? = some '\x7b' ∧ cs.getLast? = some '\x7d' ∧ 2 ≤ cs.length then
    some (cs.drop 1).dropLast
  else if cs.take urn.length = urn then some (cs.drop urn.length)
  else none

/-- The bytes a text takes. -/
def sizeOf (cs : List Char) : Nat := cs.foldl (fun size c => size + c.utf8Size) 0

/-- The bytes of the longest spelling. -/
def longest : Nat := 45

/-- The places of the hyphens. -/
def hyphens : List Nat := [8, 13, 18, 23]

/-- The value of an identifier with hyphens. -/
def hyphenated? (cs : List Char) : Option Nat :=
  if cs.length = 36 ∧ hyphens.all (fun i => cs[i]? == some '-') then
    let digits := cs.filter (· != '-')
    if digits.length = 32 then Text.Hex.number? digits else none
  else none

/-- The value of an identifier without hyphens, with hyphens, or with hyphens and what may surround
them. -/
def value? (cs : List Char) : Option Nat :=
  if cs.length = 32 then Text.Hex.number? cs
  else if cs.length = 36 then hyphenated? cs
  else (unwrap? cs).bind hyphenated?

/-- The first character that no identifier has, with its place. -/
def strange? (place : Nat) : List Char → Option (Char × Nat)
  | [] => none
  | c :: rest =>
    if c = '-' ∨ (Text.Hex.value? c).isSome then strange? (place + c.utf8Size) rest
    else some (c, place)

/-- The lengths of the groups in order. -/
def groupLengths : List Nat := [8, 4, 4, 4, 12]

/-- What is wrong with the groups of a text that has no strange character. -/
def groupComplaint (groups : List (List Char)) : Complaint :=
  if groups.length != groupLengths.length then .groupCount groups.length
  else
    let wrong := ((groups.zip groupLengths).zip (List.range groups.length)).find?
      fun ((group, expected), _) => group.length != expected
    match wrong with
    | some ((group, expected), k) => .groupLength k expected group.length
    | none => .groupCount groups.length

/-- Why a text has no value. It is taken out of what surrounds it unless it has the size of an
identifier that stands alone. -/
def complaint (cs : List Char) : Complaint :=
  let size := sizeOf cs
  let wrapped := if size = 32 ∨ size = 36 then none else unwrap? cs
  let inner := wrapped.getD cs
  if longest < size then .length size
  else
    match strange? 0 inner with
    | some (c, place) => .character c place
    | none =>
      match inner.splitOn '-' with
      | [_] => if wrapped.isNone then .length size else .groupCount 1
      | groups => groupComplaint groups

/-- The identifier a text spells. -/
def ofText (s : String) : Except Complaint Identifier :=
  match value? s.toList with
  | some value => .ok ⟨value⟩
  | none => .error (complaint s.toList)

/-- Reads an identifier. -/
def read : Reader Identifier := fun d =>
  match d with
  | .string s =>
    match ofText s with
    | .ok identifier => .ok identifier
    | .error complaint => .error (.spelling ("UUID parsing failed: " ++ complaint.message))
  | d => mismatch "a formatted UUID string" d

end Identifier

end Findings
