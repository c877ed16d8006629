import Findings.Calendar
import Findings.Json.Shape
import Findings.Number.Digits
import Findings.Text.Blank

/-!
Moments in universal time, to the nanosecond. A moment is read from a date, a time of day and an
offset from universal time; spaces between the parts are passed over.
-/

namespace Findings

open Json
open Findings.Number (isDigit digitValue)

/-- A moment. -/
structure Moment where
  /-- Seconds since the beginning of 1970, without leap seconds. -/
  seconds : Int
  /-- Nanoseconds within the second; a leap second has a thousand million and more. -/
  nanoseconds : Nat
  deriving DecidableEq, Repr, Inhabited

namespace Moment

/-! ## The calendar -/

/-- Days from the beginning of 1970 to a date. A year is counted from its March, so that the leap
day is its last. -/
def daysTo (year : Int) (month day : Nat) : Int :=
  let y := if month ≤ 2 then year - 1 else year
  let m : Int := if month ≤ 2 then month + 9 else month - 3
  365 * y + Int.fdiv y 4 - Int.fdiv y 100 + Int.fdiv y 400 + Int.fdiv (153 * m + 2) 5 +
    (day - 1 : Int) - 719468

/-- The date a number of days after the beginning of 1970. -/
def dateOf (days : Int) : Int × Nat × Nat :=
  let z := days + 719468
  let era := Int.fdiv z 146097
  let dayOfEra := z - era * 146097
  let yearOfEra :=
    (dayOfEra - dayOfEra / 1460 + dayOfEra / 36524 - dayOfEra / 146096) / 365
  let dayOfYear := dayOfEra - (365 * yearOfEra + yearOfEra / 4 - yearOfEra / 100)
  let m := (5 * dayOfYear + 2) / 153
  let day := dayOfYear - (153 * m + 2) / 5 + 1
  let month := if m < 10 then m + 3 else m - 9
  let year := yearOfEra + era * 400 + if month ≤ 2 then 1 else 0
  (year, month.toNat, day.toNat)

/-- The years that dates have. -/
def inCalendar (year : Int) : Bool := -262143 ≤ year && year ≤ 262142

/-! ## Writing -/

/-- A number with at least `width` digits. -/
def padded (width n : Nat) : List Char :=
  let digits := Number.natDigits n
  List.replicate (width - digits.length) '0' ++ digits

/-- A fraction of a second with as many digits as it needs, in groups of three. -/
def fraction (nanoseconds : Nat) : List Char :=
  if nanoseconds = 0 then []
  else if nanoseconds % 1000000 = 0 then '.' :: padded 3 (nanoseconds / 1000000)
  else if nanoseconds % 1000 = 0 then '.' :: padded 6 (nanoseconds / 1000)
  else '.' :: padded 9 nanoseconds

/-- The text of a moment, with a fraction of the second as it is to be shown. -/
def textWith (fraction : List Char) (m : Moment) : String :=
  let days := Int.fdiv m.seconds 86400
  let second := (m.seconds - days * 86400).toNat
  let (year, month, day) := dateOf days
  let leap := 1000000000 ≤ m.nanoseconds
  let shown := second % 60 + if leap then 1 else 0
  let yearText :=
    if 0 ≤ year && year ≤ 9999 then padded 4 year.toNat
    else (if year < 0 then '-' else '+') :: padded 4 year.natAbs
  String.ofList (yearText ++ ['-'] ++ padded 2 month ++ ['-'] ++ padded 2 day ++ ['T'] ++
    padded 2 (second / 3600) ++ [':'] ++ padded 2 (second / 60 % 60) ++ [':'] ++
    padded 2 shown ++ fraction ++ ['Z'])

/-- The text of a moment. -/
def text (m : Moment) : String := m.textWith (fraction (m.nanoseconds % 1000000000))

/-- The text of a moment to the millisecond. -/
def millisecondText (m : Moment) : String :=
  m.textWith ('.' :: padded 3 (m.nanoseconds % 1000000000 / 1000000))

/-! ## Reading -/

/-- Why a text is no moment. -/
inductive Complaint where
  | invalid
  | tooShort
  | tooLong
  | outOfRange
  /-- The calendar has no such moment in universal time. -/
  | impossible
  deriving DecidableEq, Repr

/-- The sentence of a complaint. -/
def Complaint.message : Complaint → String
  | invalid => "input contains invalid characters"
  | tooShort => "premature end of input"
  | tooLong => "trailing input"
  | outOfRange => "input is out of range"
  | impossible => "no possible date and time matching input"

/-- A step of reading. -/
abbrev Read := StateT (List Char) (Except Complaint)

/-- Passes over blanks. -/
def skipBlanks : Read Unit := modify (·.dropWhile Text.isBlank)

/-- Reads a number of at least one digit and at most `width`. -/
def number (width : Nat) : Read Nat := do
  skipBlanks
  let cs ← get
  let digits := (cs.take width).takeWhile isDigit
  if digits.isEmpty then throw (if cs.isEmpty then .tooShort else .invalid)
  let value := digits.foldl (fun n c => n * 10 + digitValue c) 0
  if Nat.pow 2 63 ≤ value then throw .outOfRange
  set (cs.drop digits.length)
  return value

/-- Reads a number that has to lie within limits. -/
def numberWithin (width least greatest : Nat) : Read Nat := do
  let n ← number width
  if n < least ∨ greatest < n then throw .outOfRange
  return n

/-- Reads a year: four digits, or any number of them after a sign. -/
def year : Read Int := do
  skipBlanks
  let cs ← get
  let value : Int ← match cs with
    | '-' :: rest =>
      set rest
      if rest.head?.any Text.isBlank then throw .invalid
      pure (Int.neg (← number (rest.length)))
    | '+' :: rest =>
      set rest
      if rest.head?.any Text.isBlank then throw .invalid
      pure (← number (rest.length) : Int)
    | _ => pure (← number 4 : Int)
  if value < Int.neg (Nat.pow 2 31) ∨ Nat.pow 2 31 ≤ value then throw .outOfRange
  return value

/-- Reads one character, after blanks. -/
def mark (c : Char) : Read Unit := do
  skipBlanks
  match ← get with
  | [] => throw .tooShort
  | d :: rest => if d = c then set rest else throw .invalid

/-- Reads a fraction of a second; digits beyond the ninth are passed over. -/
def fractionAfterPoint : Read Nat := do
  match ← get with
  | '.' :: rest =>
    let digits := rest.takeWhile isDigit
    if digits.isEmpty then throw (if rest.isEmpty then .tooShort else .invalid)
    set (rest.drop digits.length)
    let kept := digits.take 9
    return kept.foldl (fun n c => n * 10 + digitValue c) 0 * Nat.pow 10 (9 - kept.length)
  | _ => return 0

/-- Reads two digits with no blanks before them; the first has to be at most `tens`. Too short is
what ends within the first two bytes. -/
def pair (tens : Char) : Read Nat := do
  match ← get with
  | a :: b :: rest =>
    if !isDigit a || !isDigit b then throw .invalid
    if tens < a then throw .outOfRange
    set rest
    return digitValue a * 10 + digitValue b
  | [a] => throw (if a.utf8Size = 1 then .tooShort else .invalid)
  | [] => throw .tooShort

/-- Reads an offset from universal time, in seconds. -/
def offset : Read Int := do
  skipBlanks
  let cs ← get
  match cs with
  | 'Z' :: rest | 'z' :: rest =>
    set rest
    return 0
  | _ =>
    if (cs.take 3).map Char.toLower = ['u', 't', 'c'] then
      set (cs.drop 3)
      return 0
    let negative ← match cs with
      | '+' :: rest =>
        set rest
        pure false
      | '-' :: rest | '\u2212' :: rest =>
        set rest
        pure true
      | _ :: _ => throw .invalid
      | [] => throw .tooShort
    let hours ← pair '9'
    modify (·.dropWhile fun c => c = ':' || Text.isBlank c)
    let minutes ← pair '5'
    let seconds : Int := hours * 3600 + minutes * 60
    return if negative then Int.neg seconds else seconds

/-- Reads a moment. -/
def readAll : Read Moment := do
  let y ← year
  mark '-'
  let month ← numberWithin 2 1 12
  mark '-'
  let day ← numberWithin 2 1 31
  match ← get with
  | [] => throw .tooShort
  | c :: rest => if c = 't' ∨ c = 'T' ∨ c = ' ' then set rest else throw .invalid
  let hour ← numberWithin 2 0 23
  mark ':'
  let minute ← numberWithin 2 0 59
  mark ':'
  let second ← numberWithin 2 0 60
  let nanoseconds ← fractionAfterPoint
  let shift ← offset
  skipBlanks
  if !(← get).isEmpty then throw .tooLong
  if !inCalendar y || Calendar.daysIn y month < day || 86400 ≤ shift.natAbs then throw .outOfRange
  let ofDay : Int := hour * 3600 + minute * 60 + min second 59
  let leap := if second = 60 then 1000000000 else 0
  let seconds := daysTo y month day * 86400 + ofDay - shift
  if !inCalendar (dateOf (Int.fdiv seconds 86400)).1 then throw .impossible
  return ⟨seconds, nanoseconds + leap⟩

/-- The moment a text spells. -/
def ofText (s : String) : Except Complaint Moment := (readAll.run s.toList).map Prod.fst

/-- Reads a moment. -/
def read : Reader Moment := fun d =>
  match d with
  | .string s =>
    match ofText s with
    | .ok moment => .ok moment
    | .error complaint => .error (.spelling complaint.message)
  | d => mismatch "an RFC 3339 formatted date and time string" d

end Moment

end Findings
