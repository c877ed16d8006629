import Findings.Json.Basic
import Findings.Number.Digits
import Findings.Number.Places

/-!
Numbers in JSON texts. An integer that fits 64 bits, signed below zero and unsigned above, is kept
exactly. Any other numeral becomes a double: its leading digits, as many as fit 64 bits, are scaled
by a power of ten in double precision, which rounds once for the digits and once for the scaling.
-/

namespace Findings.Json

open Findings.Number (isDigit digitValue)

/-- Takes digits into a number for as long as it stays within a limit; the second part counts the
digits taken. -/
def gather (limit : Nat) : Nat → List Char → Nat × Nat
  | n, [] => (n, 0)
  | n, c :: rest =>
    let next := n * 10 + digitValue c
    if limit < next then (n, 0)
    else
      let (value, taken) := gather limit next rest
      (value, taken + 1)

/-- The greatest number of digits gathered for a numeral. -/
def significandLimit : Nat := Nat.pow 2 64 - 1

/-- The greatest exponent, and one less than the least one's distance from zero. -/
def exponentLimit : Nat := Nat.pow 2 31 - 1

/-- An exponent that stays within its 32 bits. -/
def clampExponent (e : Int) : Int := max (-(exponentLimit + 1 : Int)) (min exponentLimit e)

/-- Multiplies a double by a power of ten; `none` when the result is infinite. The fuel bounds the
steps of 308 that an exponent below the table is brought up by, and the third step from any
significand reaches zero. -/
def scale : Nat → Number.Double → Int → Option Number.Double
  | 0, f, _ => some f
  | fuel + 1, f, e =>
    if e.natAbs ≤ 308 then
      if 0 ≤ e then
        let product := f.mul (Number.powerOfTen e)
        if product.isInfinite then none else some product
      else some (f.div (Number.powerOfTen (Int.neg e)))
    else if f.magnitude == 0 then some f
    else if 0 ≤ e then none
    else scale fuel (f.div (Number.powerOfTen 308)) (e + 308)

/-- The double of a significand and an exponent. -/
def floatOf (negative : Bool) (significand : Nat) (exponent : Int) : Option Json.Number :=
  (scale 8 (.ofNat significand) exponent).map fun f =>
    .float (.ofMagnitude negative f.magnitude)

/-- A numeral, split into its parts. -/
structure Numeral where
  /-- It begins with a minus. -/
  negative : Bool
  /-- The digits before the point. -/
  whole : List Char
  /-- The digits after the point, if there is one. -/
  fraction : Option (List Char)
  /-- The exponent, if there is one: whether it is negative, and its digits. -/
  exponent : Option (Bool × List Char)

namespace Numeral

/-- Splits digits, of which there has to be one, from what follows them. -/
def digits? (cs : List Char) : Option (List Char × List Char) :=
  if (cs.takeWhile isDigit).isEmpty then none
  else some (cs.takeWhile isDigit, cs.dropWhile isDigit)

/-- Splits a fraction, if there is one, from what follows it. -/
def fraction? : List Char → Option (Option (List Char) × List Char)
  | '.' :: rest => (digits? rest).map fun (digits, rest) => (some digits, rest)
  | cs => some (none, cs)

/-- Splits an exponent, if there is one, from what follows it. -/
def exponent? : List Char → Option (Option (Bool × List Char) × List Char)
  | 'e' :: '-' :: rest | 'E' :: '-' :: rest =>
    (digits? rest).map fun (digits, rest) => (some (true, digits), rest)
  | 'e' :: '+' :: rest | 'E' :: '+' :: rest | 'e' :: rest | 'E' :: rest =>
    (digits? rest).map fun (digits, rest) => (some (false, digits), rest)
  | cs => some (none, cs)

/-- Splits a numeral behind its sign from what follows it. Digits are asked for before the point,
after it and in the exponent, and a leading zero stands alone. -/
def splitUnsigned? (negative : Bool) (cs : List Char) : Option (Numeral × List Char) := do
  let (whole, cs) ← digits? cs
  if whole.head? == some '0' && 1 < whole.length then none
  let (fraction, cs) ← fraction? cs
  let (exponent, cs) ← exponent? cs
  return (⟨negative, whole, fraction, exponent⟩, cs)

/-- Splits the numeral a text begins with from what follows it. -/
def split? : List Char → Option (Numeral × List Char)
  | '-' :: rest => splitUnsigned? true rest
  | cs => splitUnsigned? false cs

/-- The number a numeral stands for; `none` when it is too great for a double. -/
def value? (numeral : Numeral) : Option Json.Number :=
  let (significand, taken) := gather significandLimit 0 numeral.whole
  let dropped := numeral.whole.length - taken
  match numeral.fraction, numeral.exponent with
  | none, none =>
    if dropped != 0 then floatOf numeral.negative significand dropped
    else if !numeral.negative then some (.integer significand)
    else if 1 ≤ significand && significand ≤ Nat.pow 2 63 then some (.integer (Int.neg significand))
    else floatOf true significand 0
  | fraction, exponent =>
    let (significand, places) := gather significandLimit significand (fraction.getD [])
    let shift : Int := (dropped : Int) - places
    match exponent with
    | none => floatOf numeral.negative significand shift
    | some (negative, digits) =>
      let (power, counted) := gather exponentLimit 0 digits
      if counted < digits.length then
        if significand != 0 && !negative then none
        else some (.float (.ofMagnitude numeral.negative 0))
      else
        floatOf numeral.negative significand
          (clampExponent (shift + if negative then Int.neg power else power))

end Numeral

end Findings.Json
