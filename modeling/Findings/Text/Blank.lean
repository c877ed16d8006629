import Findings.Text.Ranges

/-!
White space, after the property `White_Space` of the Unicode character database.
-/

namespace Findings.Text

/-- Closed ranges of the blank code points. -/
def blankRanges : List (Nat × Nat) := [
  (0x9, 0xD), (0x20, 0x20), (0x85, 0x85), (0xA0, 0xA0), (0x1680, 0x1680), (0x2000, 0x200A),
  (0x2028, 0x2029), (0x202F, 0x202F), (0x205F, 0x205F), (0x3000, 0x3000)]

/-- A character that leaves no mark. -/
def isBlank (c : Char) : Bool := inRanges blankRanges c.toNat

/-- A text without a mark: it is empty or holds white space alone. -/
def isBlankText (s : String) : Bool := s.toList.all isBlank

/-- Takes the blanks away that a text begins and ends with. -/
def strip (cs : List Char) : List Char :=
  ((cs.dropWhile isBlank).reverse.dropWhile isBlank).reverse

end Findings.Text
