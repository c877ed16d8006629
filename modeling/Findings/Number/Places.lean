import Findings.Number.Binary

/-!
Rounding a single to a number of decimal places, in double precision. The value is scaled by a
power of ten, rounded to a whole number and scaled back.
-/

namespace Findings.Number

/-- The double nearest to a power of ten. -/
def powerOfTen : Int → Double
  | .ofNat n => .ofRatio false (Nat.pow 10 n) 1
  | .negSucc n => .ofRatio false 1 (Nat.pow 10 (n + 1))

/-- A single in double precision, rounded to `places` decimal places, a half going away from
zero. -/
def roundPlaces (x : Single) (places : Int) : Double :=
  (((Double.ofSingle x).mul (powerOfTen places)).round).div (powerOfTen places)

end Findings.Number
