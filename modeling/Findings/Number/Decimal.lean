import Findings.Number.Binary

/-!
Decimal texts of doubles. The digits of a value are the fewest that read back as it, and of those
the nearest to it; a `Layout` says how digits and exponent are set. Numbers with a fixed count of
decimals are rounded exactly, a tie going to the even digit.
-/

namespace Findings.Number

/-- The decimal digits of a natural number. -/
def natDigits (n : Nat) : List Char :=
  if n < 10 then [Char.ofNat (48 + n)] else natDigits (n / 10) ++ [Char.ofNat (48 + n % 10)]
termination_by n

/-- The decimal digits of an integer after its sign. -/
def intDigits (n : Int) : List Char := (if n < 0 then ['-'] else []) ++ natDigits n.natAbs

/-- A decimal number: `digits` times ten to the `exponent`. -/
structure Decimal where
  /-- The digits, as a natural number. -/
  digits : Nat
  /-- The power of ten. -/
  exponent : Int
  deriving DecidableEq, Repr

/-- The value of a decimal as a quotient. -/
def Decimal.ratio (d : Decimal) : Nat × Nat :=
  match d.exponent with
  | .ofNat n => (d.digits * Nat.pow 10 n, 1)
  | .negSucc n => (d.digits, Nat.pow 10 (n + 1))

/-- Digits without trailing zeros; the fuel bounds how many are dropped. -/
def Decimal.trim : Nat → Decimal → Decimal
  | 0, d => d
  | fuel + 1, d =>
    if d.digits != 0 && d.digits % 10 == 0 then trim fuel ⟨d.digits / 10, d.exponent + 1⟩ else d

/-- The magnitude pattern a decimal reads as. -/
def Decimal.read (f : Format) (d : Decimal) : Nat := f.nearest d.ratio.1 d.ratio.2

/-- The power of ten of the leading digit of a quotient. -/
def leadingPower (num den : Nat) : Int :=
  if den ≤ num then ((natDigits (num / den)).length : Int) - 1
  else Int.neg (natDigits ((den - 1) / num)).length

/-- The two neighbours of a quotient on the grid of numbers with the given exponent, the nearer
one first. -/
def neighbours (num den : Nat) (exponent : Int) : List Decimal :=
  let (n, d) : Nat × Nat := match exponent with
    | .ofNat e => (num, den * Nat.pow 10 e)
    | .negSucc e => (num * Nat.pow 10 (e + 1), den)
  let below : Decimal := ⟨n / d, exponent⟩
  let above : Decimal := ⟨n / d + 1, exponent⟩
  if 2 * (n % d) ≤ d then [below, above] else [above, below]

/-- The fewest digits that read back as a positive finite magnitude, and of those the nearest. -/
def shortest (f : Format) (magnitude : Nat) : Decimal :=
  let num := f.units magnitude
  let den := Nat.pow 2 f.scale
  let power := leadingPower num den
  let hit := (List.range 17).findSome? fun (count : Nat) =>
    (neighbours num den (power - count)).find? fun d => d.read f == magnitude
  match hit with
  | some d => d.trim 400
  | none => ⟨num, 0⟩

/-- How a decimal text is set. -/
structure Layout where
  /-- The least power of the leading digit that is written without an exponent. -/
  least : Int
  /-- The greatest one. -/
  greatest : Int
  /-- What stands before an exponent that is not negative. -/
  plus : List Char
  /-- Whole numbers without an exponent end in `.0`. -/
  pointed : Bool

/-- Digits of a decimal with the point in its place. -/
def positional (digits : List Char) (exponent : Int) (pointed : Bool) : List Char :=
  match exponent with
  | .ofNat n => digits ++ List.replicate n '0' ++ if pointed then ['.', '0'] else []
  | .negSucc n =>
    let places := n + 1
    let padded := List.replicate (places + 1 - digits.length) '0' ++ digits
    padded.take (padded.length - places) ++ ['.'] ++ padded.drop (padded.length - places)

/-- The text of a positive decimal. -/
def Layout.set (layout : Layout) (d : Decimal) : List Char :=
  let digits := natDigits d.digits
  let power : Int := d.exponent + (digits.length - 1 : Nat)
  if layout.least ≤ power && power ≤ layout.greatest then
    positional digits d.exponent layout.pointed
  else
    let fraction := match digits.drop 1 with
      | [] => []
      | rest => '.' :: rest
    digits.take 1 ++ fraction ++ ['e'] ++ (if power < 0 then [] else layout.plus) ++ intDigits power

/-- The text of a double. -/
def Layout.text (layout : Layout) (x : Double) : String :=
  if x.isNaN then "NaN"
  else
    let sign := if x.negative then ['-'] else []
    let body :=
      if x.isInfinite then ['i', 'n', 'f']
      else if x.magnitude == 0 then positional ['0'] 0 layout.pointed
      else layout.set (shortest .double x.magnitude)
    String.ofList (sign ++ body)

/-- Plain texts write very large and very small values with an exponent, and show that a whole
number is a floating one. -/
def plainLayout : Layout := ⟨-4, 15, [], true⟩

/-- A double with a fixed count of decimals, rounded exactly. -/
def fixedText (places : Nat) (x : Double) : String :=
  if x.isNaN then "NaN"
  else
    let sign := if x.negative then ['-'] else []
    let body :=
      if x.isInfinite then ['i', 'n', 'f']
      else
        let scaled := nearestEven (x.units * Nat.pow 10 places) (Nat.pow 2 Format.double.scale)
        positional (natDigits scaled) (-(places : Int)) false
    String.ofList (sign ++ body)

end Findings.Number
