import Findings.Text.Alphabetic
import Findings.Text.CaseTable

/-!
Case mappings of single characters and sentence case of texts. A mapping may have several
characters: the upper case of `ß` is `SS`. Sentence case gives the first letter its upper case and
every other character its lower case.
-/

namespace Findings.Text

/-- The distance a character moves under a list of runs, if a run holds it. -/
def shiftIn? (runs : List CaseRun) (n : Nat) : Option Int :=
  (runs.find? fun run =>
    run.first ≤ n && n ≤ run.last && (n - run.first) % run.stride == 0).map CaseRun.shift

/-- The image of a character above the seven-bit ones under one pair of tables. -/
def mapWide (runs : List CaseRun) (expansions : List (Nat × List Nat))
    (c : Char) : List Char :=
  match expansions.lookup c.toNat with
  | some image => image.map Char.ofNat
  | none =>
    match shiftIn? runs c.toNat with
    | some shift => [Char.ofNat (c.toNat + shift).toNat]
    | none => [c]

/-- The lower case of a character. -/
def lowerCase (c : Char) : List Char :=
  if c.val < 128 then [c.toLower] else mapWide lowerRuns lowerExpansions c

/-- The upper case of a character. -/
def upperCase (c : Char) : List Char :=
  if c.val < 128 then [c.toUpper] else mapWide upperRuns upperExpansions c

/-- Lower case throughout. -/
def lowerAll (cs : List Char) : List Char := cs.flatMap lowerCase

/-- Sentence case of a list of characters: up to the first letter and after it everything is
lower case, that letter is upper case. -/
def capitalize : List Char → List Char
  | [] => []
  | c :: rest =>
    if isAlphabetic c then upperCase c ++ lowerAll rest else lowerCase c ++ capitalize rest

/-- Sentence case of a text. -/
def sentenceCase (s : String) : String := String.ofList (capitalize s.toList)

/-- Characters equal up to the case of the seven-bit letters. -/
def foldAscii (s : String) : String := String.ofList (s.toList.map Char.toLower)

end Findings.Text
