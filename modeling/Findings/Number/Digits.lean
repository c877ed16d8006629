import Findings.Text.Hex

/-!
Numbers written in digits. Texts in several formats share these readings and differ only in what
they allow around the digits.
-/

namespace Findings.Number

/-- A decimal digit. -/
def isDigit (c : Char) : Bool := '0' ≤ c && c ≤ '9'

/-- The value of a decimal digit. -/
def digitValue (c : Char) : Nat := c.toNat - 48

/-- The number that digits of a base stand for. -/
def ofDigits (base : Nat) (digits : List Char) : Nat :=
  digits.foldl (fun n c => n * base + (Text.Hex.value? c).getD 0) 0

/-- Reads a natural number below a bound: decimal digits, with or without a plus before them. -/
def below? (bound : Nat) (cs : List Char) : Option Nat :=
  let digits := match cs with
    | '+' :: rest => rest
    | cs => cs
  if digits.isEmpty || !digits.all isDigit then none
  else
    let n := ofDigits 10 digits
    if n < bound then some n else none

end Findings.Number
