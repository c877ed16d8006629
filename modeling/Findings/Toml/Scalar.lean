import Findings.Calendar
import Findings.Number.Digits
import Findings.Toml.Basic

/-!
Numbers, truth values, dates and times of TOML documents, as words without spaces.
-/

namespace Findings.Toml

open Number (isDigit ofDigits)

/-- The digits of a word in which single underscores may stand between digits. -/
def digits? (isDigit : Char → Bool) : List Char → Option (List Char)
  | [] => none
  | [c] => if isDigit c then some [c] else none
  | c :: '_' :: rest => if isDigit c then (digits? isDigit rest).map (c :: ·) else none
  | c :: rest => if isDigit c then (digits? isDigit rest).map (c :: ·) else none

/-- A word without its sign. -/
def unsigned : List Char → Bool × List Char
  | '-' :: rest => (true, rest)
  | '+' :: rest => (false, rest)
  | cs => (false, cs)

/-- The digits of a decimal whole number, which has no zeros in front. -/
def whole? (cs : List Char) : Option (List Char) :=
  match digits? isDigit cs with
  | some ('0' :: _ :: _) => none
  | other => other

/-- The integer a word spells. -/
def integer? (cs : List Char) : Option Int :=
  let inBase (base : Nat) (isDigit : Char → Bool) (rest : List Char) : Option Int :=
    (digits? isDigit rest).map fun digits => (ofDigits base digits : Int)
  match cs with
  | '0' :: 'x' :: rest => inBase 16 (fun c => (Text.Hex.value? c).isSome) rest
  | '0' :: 'o' :: rest => inBase 8 (fun c => '0' ≤ c && c ≤ '7') rest
  | '0' :: 'b' :: rest => inBase 2 (fun c => c == '0' || c == '1') rest
  | cs =>
    let (negative, cs) := unsigned cs
    (whole? cs).map fun digits =>
      if negative then Int.neg (ofDigits 10 digits) else (ofDigits 10 digits : Int)

/-- An integer, which has at most 128 bits with a sign below zero and without one above. -/
def ofInteger (n : Int) : Toml :=
  if -(Nat.pow 2 127 : Int) ≤ n ∧ n < (Nat.pow 2 128 : Int) then .integer n else .excess

/-- The least number that is nearer to infinity than to any double. -/
def infiniteFrom : Nat := Nat.pow 2 1024 - Nat.pow 2 970

/-- The number with the given digits, times ten to the `exponent`, is nearer to infinity than to any
double. Those numbers have at least 309 digits before the point, and all with more are so. -/
def isInfinite (digits : List Char) (exponent : Int) : Bool :=
  let digits := digits.dropWhile (· == '0')
  let places : Int := digits.length + exponent
  if digits.isEmpty || places < 309 then false
  else if 309 < places then true
  else match exponent with
    | .ofNat n => infiniteFrom ≤ ofDigits 10 digits * Nat.pow 10 n
    | .negSucc n => infiniteFrom * Nat.pow 10 (n + 1) ≤ ofDigits 10 digits

/-- The power of ten that stands behind the mark of an exponent. -/
def power? (cs : List Char) : Option Int :=
  let (negative, cs) := unsigned cs
  (digits? isDigit cs).map fun digits =>
    if negative then Int.neg (ofDigits 10 digits) else (ofDigits 10 digits : Int)

/-- The number a word spells with a fraction, an exponent or both, or as one that is not finite. -/
def float? (cs : List Char) : Option Toml :=
  let cs := (unsigned cs).2
  if cs == "inf".toList || cs == "nan".toList then some .float
  else do
    let isMark (c : Char) : Bool := c == 'e' || c == 'E'
    let mantissa := cs.takeWhile fun c => !isMark c
    let exponent := cs.dropWhile fun c => !isMark c
    let fraction := mantissa.dropWhile (· != '.')
    if fraction.isEmpty && exponent.isEmpty then none
    let whole ← whole? (mantissa.takeWhile (· != '.'))
    let decimals ← if fraction.isEmpty then some [] else digits? isDigit (fraction.drop 1)
    let power ← if exponent.isEmpty then some 0 else power? (exponent.drop 1)
    if isInfinite (whole ++ decimals) (power - decimals.length) then return .excess
    else return .float

/-! ## Dates and times -/

/-- A number of exactly `count` digits. -/
def fixed? (count : Nat) (cs : List Char) : Option Nat :=
  if cs.length = count ∧ cs.all isDigit then some (ofDigits 10 cs) else none

/-- The word spells a date. -/
def isDate (cs : List Char) : Bool :=
  match fixed? 4 (cs.take 4), fixed? 2 ((cs.drop 5).take 2), fixed? 2 (cs.drop 8) with
  | some year, some month, some day =>
    cs[4]? == some '-' && cs[7]? == some '-' && 1 ≤ month && month ≤ 12 && 1 ≤ day &&
      day ≤ Calendar.daysIn year month
  | _, _, _ => false

/-- The word spells an hour and a minute. -/
def isHourMinute (hours : Nat) (cs : List Char) : Bool :=
  match fixed? 2 (cs.take 2), fixed? 2 (cs.drop 3) with
  | some hour, some minute => cs[2]? == some ':' && hour ≤ hours && minute ≤ 59
  | _, _ => false

/-- The word spells a time of day; seconds may be left out, and may have a fraction. -/
def isTime (cs : List Char) : Bool :=
  let seconds := cs.drop 5
  let fraction := seconds.drop 3
  let secondsAreRight := seconds.isEmpty ||
    (seconds[0]? == some ':' &&
      (match fixed? 2 ((seconds.drop 1).take 2) with
        | some second => second ≤ 60
        | none => false) &&
      (fraction.isEmpty ||
        (fraction[0]? == some '.' && 1 < fraction.length && (fraction.drop 1).all isDigit)))
  isHourMinute 23 (cs.take 5) && secondsAreRight

/-- The word spells a time of day with an offset from universal time, or without. -/
def isOffsetTime (cs : List Char) : Bool :=
  let isMark (c : Char) : Bool := c == 'Z' || c == 'z' || c == '+' || c == '-'
  let time := cs.takeWhile fun c => !isMark c
  let offset := cs.dropWhile fun c => !isMark c
  isTime time &&
    match offset with
    | [] => true
    | [c] => c == 'Z' || c == 'z'
    | c :: rest => (c == '+' || c == '-') && isHourMinute 23 rest

/-- The word spells a date, a time, or both. -/
def isMoment (cs : List Char) : Bool :=
  if isDate (cs.take 10) then
    match cs.drop 10 with
    | [] => true
    | c :: rest => (c == 'T' || c == 't' || c == ' ') && isOffsetTime rest
  else isTime cs

/-- Characters that words without quotes are made of. -/
def isWordChar (c : Char) : Bool :=
  c.isAlphanum || c == '_' || c == '+' || c == '-' || c == '.' || c == ':'

/-- Reads a word without quotes; between a date and a time there may be one space. -/
def word : Scan (List Char) := do
  let first ← takeWhile isWordChar
  match ← get with
  | ' ' :: rest =>
    if isDate first && (rest.head?.map isDigit).getD false then
      set rest
      return first ++ ' ' :: (← takeWhile isWordChar)
    else return first
  | _ => return first

/-- The value a word spells. -/
def ofWord (cs : List Char) : Option Toml :=
  if cs == "true".toList then some (.bool true)
  else if cs == "false".toList then some (.bool false)
  else if let some n := integer? cs then some (ofInteger n)
  else if let some number := float? cs then some number
  else if isMoment cs then some .moment
  else none

end Findings.Toml
