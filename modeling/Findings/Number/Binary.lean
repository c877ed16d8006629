/-!
Binary floating point, as bit patterns with exact arithmetic. A finite pattern stands for a whole
number of *units*, where the unit is the least positive value of its format, and each operation is
the exact result rounded to the nearest pattern, a tie going to the even one. Nothing here uses the
machine's floating point unit, so every value can be computed in a proof.
-/

namespace Findings.Number

/-- A binary format: the bits of its significand, and the size of its unit. -/
structure Format where
  /-- Bits of the significand, the leading one included. -/
  precision : Nat
  /-- The unit is two to the minus `scale`. -/
  scale : Nat
  /-- Bits of the exponent field. -/
  exponentBits : Nat

namespace Format

/-- Single precision. -/
def single : Format := ⟨24, 149, 8⟩

/-- Double precision. -/
def double : Format := ⟨53, 1074, 11⟩

/-- Patterns of one binade, the number that a step of the exponent adds. -/
def binade (f : Format) : Nat := Nat.pow 2 (f.precision - 1)

/-- The magnitude pattern of infinity; larger ones are not numbers. -/
def infinity (f : Format) : Nat := (Nat.pow 2 f.exponentBits - 1) * f.binade

/-- The bit that holds the sign. -/
def signBit (f : Format) : Nat := Nat.pow 2 f.exponentBits * f.binade

/-- The units a finite magnitude pattern stands for. -/
def units (f : Format) (magnitude : Nat) : Nat :=
  if magnitude < f.binade then magnitude
  else (f.binade + magnitude % f.binade) * Nat.pow 2 (magnitude / f.binade - 1)

end Format

/-- The whole number nearest to a quotient, a tie going to the even one. -/
def nearestEven (num den : Nat) : Nat :=
  let whole := num / den
  let twice := 2 * (num % den)
  if twice < den then whole
  else if den < twice then whole + 1
  else whole + whole % 2

/-- The whole number nearest to a quotient, a tie going up. -/
def nearestUp (num den : Nat) : Nat := (2 * num + den) / (2 * den)

/-- The magnitude pattern nearest to the quotient of two natural numbers, a tie going to the even
pattern; quotients beyond the greatest finite value give infinity. -/
def Format.nearest (f : Format) (num den : Nat) : Nat :=
  let num := num * Nat.pow 2 f.scale
  let shift := Nat.log2 (num / den) + 1 - f.precision
  min f.infinity (shift * f.binade + nearestEven num (den * Nat.pow 2 shift))

/-- A double, by its bit pattern. -/
structure Double where
  /-- Sign, exponent and fraction, from the highest bit down. -/
  bits : UInt64
  deriving DecidableEq, Repr, Inhabited

/-- A single, by its bit pattern. -/
structure Single where
  /-- Sign, exponent and fraction, from the highest bit down. -/
  bits : UInt32
  deriving DecidableEq, Repr, Inhabited

namespace Single

/-- The pattern without its sign. -/
def magnitude (x : Single) : Nat := x.bits.toNat % Format.single.signBit

/-- The sign is set. -/
def negative (x : Single) : Bool := Format.single.signBit ≤ x.bits.toNat

/-- The pattern stands for a real number. -/
def isFinite (x : Single) : Bool := x.magnitude < Format.single.infinity

/-- The pattern stands for no number, not even an infinite one. -/
def isNaN (x : Single) : Bool := Format.single.infinity < x.magnitude

/-- The units of a finite pattern, without the sign. -/
def units (x : Single) : Nat := Format.single.units x.magnitude

/-- The pattern with a sign and a magnitude. -/
def ofMagnitude (negative : Bool) (magnitude : Nat) : Single :=
  ⟨UInt32.ofNat (magnitude + if negative then Format.single.signBit else 0)⟩

/-- Zero. -/
def zero : Single := ⟨0⟩

end Single

namespace Double

/-- The pattern without its sign. -/
def magnitude (x : Double) : Nat := x.bits.toNat % Format.double.signBit

/-- The sign is set. -/
def negative (x : Double) : Bool := Format.double.signBit ≤ x.bits.toNat

/-- The pattern stands for a real number. -/
def isFinite (x : Double) : Bool := x.magnitude < Format.double.infinity

/-- The pattern stands for an infinite value. -/
def isInfinite (x : Double) : Bool := x.magnitude == Format.double.infinity

/-- The pattern stands for no number, not even an infinite one. -/
def isNaN (x : Double) : Bool := Format.double.infinity < x.magnitude

/-- The units of a finite pattern, without the sign. -/
def units (x : Double) : Nat := Format.double.units x.magnitude

/-- The pattern with a sign and a magnitude. -/
def ofMagnitude (negative : Bool) (magnitude : Nat) : Double :=
  ⟨UInt64.ofNat (magnitude + if negative then Format.double.signBit else 0)⟩

/-- A pattern that stands for no number. -/
def nan : Double := ⟨0x7FF8000000000000⟩

/-- The double nearest to a signed quotient. -/
def ofRatio (negative : Bool) (num den : Nat) : Double :=
  ofMagnitude negative (Format.double.nearest num den)

/-- The double nearest to a natural number. -/
def ofNat (n : Nat) : Double := ofRatio false n 1

/-- The double nearest to an integer. -/
def ofInt (n : Int) : Double := ofRatio (n < 0) n.natAbs 1

/-- The same value in double precision. -/
def ofSingle (x : Single) : Double :=
  if x.isNaN then nan
  else if x.isFinite then ofRatio x.negative x.units (Nat.pow 2 Format.single.scale)
  else ofMagnitude x.negative Format.double.infinity

/-- The nearest value in single precision. -/
def toSingle (x : Double) : Single :=
  if x.isNaN then ⟨0x7FC00000⟩
  else if x.isFinite then
    .ofMagnitude x.negative (Format.single.nearest x.units (Nat.pow 2 Format.double.scale))
  else .ofMagnitude x.negative Format.single.infinity

/-- The product, rounded. -/
def mul (x y : Double) : Double :=
  let negative := x.negative != y.negative
  if x.isNaN || y.isNaN then nan
  else if x.isFinite && y.isFinite then
    ofRatio negative (x.units * y.units) (Nat.pow 2 (2 * Format.double.scale))
  else if x.magnitude == 0 || y.magnitude == 0 then nan
  else ofMagnitude negative Format.double.infinity

/-- The quotient, rounded. -/
def div (x y : Double) : Double :=
  let negative := x.negative != y.negative
  if x.isNaN || y.isNaN then nan
  else if x.isFinite then
    if y.isFinite then
      if y.magnitude == 0 then
        if x.magnitude == 0 then nan else ofMagnitude negative Format.double.infinity
      else ofRatio negative x.units y.units
    else ofMagnitude negative 0
  else if y.isFinite then ofMagnitude negative Format.double.infinity
  else nan

/-- The nearest integral value, a half going away from zero. -/
def round (x : Double) : Double :=
  if x.isFinite then ofRatio x.negative (nearestUp x.units (Nat.pow 2 Format.double.scale)) 1 else x

end Double

/-- The single nearest to a signed integer. -/
def Single.ofInt (n : Int) : Single :=
  .ofMagnitude (n < 0) (Format.single.nearest n.natAbs 1)

end Findings.Number
