import Findings.Number.Digits
import Findings.Text.Blank
import Findings.Text.Case
import Findings.Text.Numeric

/-!
What the value of a field may be compared with: a number, or a pattern of regular expressions. No
line is written for such a comparison, so all that is asked of a text is whether it is right.

A pattern is read from left to right over a stack of open groups, and a class over a stack of open
classes. Of what has been read only its depth is kept, which has a bound. There are no tables of
letters to match against: whatever would need one, such as matching without regard to case, is
refused unless bytes are matched, and where bytes are matched none may lie above the seven-bit
characters.
-/

namespace Findings.Log.Pattern

/-! ## Modes -/

/-- How the signs of a pattern are read. -/
structure Mode where
  /-- Blanks count for nothing, nor do remarks, from a number sign to the end of the line. -/
  spaced : Bool := false
  /-- Upper and lower case are the same. -/
  caseless : Bool := false
  /-- Characters are matched, and not bytes. -/
  unicode : Bool := true
  deriving DecidableEq, Repr

namespace Mode

/-- The letters that switch something on or off. -/
def switches : List Char := ['i', 'm', 's', 'U', 'u', 'R', 'x']

/-- The mode after a switch. -/
def switch (m : Mode) (letter : Char) (on : Bool) : Mode :=
  match letter with
  | 'x' => { m with spaced := on }
  | 'i' => { m with caseless := on }
  | 'u' => { m with unicode := on }
  | _ => m

/-- Passes over blanks and remarks; the fuel bounds the remarks. -/
def skipRemarks : Nat → List Char → List Char
  | 0, cs => cs
  | fuel + 1, cs =>
    match cs.dropWhile Text.isBlank with
    | '#' :: rest => skipRemarks fuel ((rest.dropWhile (· != '\n')).drop 1)
    | rest => rest

/-- Passes over what counts for nothing. -/
def skip (m : Mode) (cs : List Char) : List Char :=
  if m.spaced then skipRemarks (cs.length + 1) cs else cs

end Mode

/-! ## Signs -/

/-- What a character or an escape stands for. -/
inductive Sign where
  /-- A character, perhaps by the number of its byte. -/
  | character (c : Char) (isByte : Bool)
  /-- The digits, blanks or letters of words, or all else. -/
  | kind (negated : Bool)
  /-- A place where a word begins or ends, or none does. -/
  | wordEdge
  /-- The beginning or the end of the text. -/
  | textEdge
  deriving DecidableEq, Repr

namespace Sign

/-- The sign may stand outside of a class. -/
def isAllowed (m : Mode) : Sign → Bool
  | character c isByte => if m.unicode then !m.caseless else !isByte || c.val < 128
  | kind negated => !m.unicode && !negated
  | wordEdge => !m.unicode
  | textEdge => true

/-- The sign may stand in a class. -/
def isMember (m : Mode) : Sign → Bool
  | character c _ => if m.unicode then !m.caseless else c.val < 128
  | kind negated => !m.unicode && !negated
  | wordEdge | textEdge => false

/-- Reads as many hexadecimal digits as asked for. -/
def readDigits (m : Mode) : Nat → List Char → Option (List Char × List Char)
  | 0, cs => some ([], cs)
  | count + 1, cs =>
    match m.skip cs with
    | c :: rest =>
      if (Text.Hex.value? c).isSome then
        (readDigits m count rest).map fun (digits, rest) => (c :: digits, rest)
      else none
    | [] => none

/-- Reads a character by its number. -/
def readNumber (m : Mode) (count : Nat) (cs : List Char) : Option (Sign × List Char) := do
  let (digits, rest) ← readDigits m count cs
  let n ← Text.Hex.number? digits
  let c ← Text.Hex.scalar? n
  return (character c (count = 2), rest)

/-- Reads an escape after its backslash. -/
def readEscape (m : Mode) : List Char → Option (Sign × List Char)
  | [] => none
  | c :: rest =>
    match c with
    | 'x' => readNumber m 2 rest
    | 'u' => readNumber m 4 rest
    | 'U' => readNumber m 8 rest
    | 'd' | 's' | 'w' => some (kind false, rest)
    | 'D' | 'S' | 'W' => some (kind true, rest)
    | 'a' | 'f' | 't' | 'n' | 'r' | 'v' => some (character '\n' false, rest)
    | 'A' | 'z' => some (textEdge, rest)
    | 'b' | 'B' | '<' | '>' => some (wordEdge, rest)
    | c => if c.val < 128 && !c.isAlphanum then some (character c false, rest) else none

/-- Reads a character or an escape. -/
def read (m : Mode) : List Char → Option (Sign × List Char)
  | [] => none
  | '\\' :: rest => readEscape m rest
  | c :: rest => some (character c false, rest)

end Sign

/-! ## Depth -/

/-- Items in a row. -/
structure Row where
  count : Nat := 0
  /-- The depth of the deepest item. -/
  deepest : Nat := 0
  /-- The depth of the last item, if it may be repeated. -/
  last : Option Nat := none
  deriving DecidableEq, Repr

namespace Row

/-- A row of several items is deeper than they are. -/
def depth (r : Row) : Nat := if r.count < 2 then r.deepest else r.deepest + 1

/-- Puts an item at the end. -/
def push (r : Row) (depth : Nat) : Row :=
  { count := r.count + 1, deepest := max r.deepest depth, last := some depth }

/-- Puts at the end what stands for nothing and cannot be repeated. -/
def pushSwitch (r : Row) : Row := { r with count := r.count + 1, last := none }

/-- Repeats the last item. -/
def repeat? (r : Row) : Option Row :=
  r.last.map fun depth =>
    { r with deepest := max r.deepest (depth + 1), last := some (depth + 1) }

end Row

/-! ## Classes -/

/-- A class that is not closed yet. -/
structure Class where
  /-- The members since the last operator. -/
  row : Row := {}
  /-- The depth of what stands before that operator. -/
  left : Option Nat := none
  /-- Nothing but hyphens has been read. -/
  fresh : Bool := true
  deriving DecidableEq, Repr

namespace Class

/-- The depth of all that has been read. -/
def depth (k : Class) : Nat :=
  match k.left with
  | some left => max left k.row.depth + 1
  | none => k.row.depth

/-- Puts a member at the end. -/
def push (k : Class) (depth : Nat) : Class := { k with row := k.row.push depth, fresh := false }

/-- Puts an operator at the end. -/
def operate (k : Class) : Class := { left := some k.depth, fresh := false }

/-- The classes that have a name. -/
def names : List String :=
  ["alnum", "alpha", "ascii", "blank", "cntrl", "digit", "graph", "lower", "print", "punct",
    "space", "upper", "word", "xdigit"]

/-- Reads the name of a class after a bracket, and whether it stands for all else. -/
def readName : List Char → Option (Bool × List Char)
  | ':' :: rest =>
    let negated := rest.head? = some '^'
    let rest := if negated then rest.drop 1 else rest
    let name := rest.takeWhile (· != ':')
    match rest.drop name.length with
    | ':' :: ']' :: rest =>
      if names.contains (String.ofList name) then some (negated, rest) else none
    | _ => none
  | _ => none

/-- A class that has a name may stand in a class. -/
def admitsName (m : Mode) (negated : Bool) : Bool := if m.unicode then !m.caseless else !negated

/-- Reads how a class begins, after its bracket. -/
def readOpening (m : Mode) (cs : List Char) : Option (List Char) :=
  match m.skip cs with
  | '^' :: rest => if m.unicode then some rest else none
  | rest => some rest

/-- Reads a member that is no class: a sign, or a range between two characters in order. -/
def readMember (m : Mode) (cs : List Char) : Option (List Char) := do
  let (first, rest) ← Sign.read m cs
  let rest := m.skip rest
  let alone := if first.isMember m then some rest else none
  match rest with
  | '-' :: behind =>
    match m.skip behind with
    | '-' :: _ | ']' :: _ => alone
    | behind =>
      let (last, rest) ← Sign.read m behind
      match first, last with
      | .character a _, .character b _ =>
        if a ≤ b && first.isMember m && last.isMember m then some rest else none
      | _, _ => none
  | _ => alone

/-- Reads a class up to its end and tells its depth; `below` are the classes around it. -/
def read (m : Mode) : Nat → Class → List Class → List Char → Option (Nat × List Char)
  | 0, _, _, _ => none
  | fuel + 1, top, below, cs =>
    match m.skip cs with
    | [] => none
    | '[' :: rest =>
      match readName rest with
      | some (negated, rest) =>
        if admitsName m negated then read m fuel (top.push 0) below rest else none
      | none => do
        let rest ← readOpening m rest
        read m fuel {} (top :: below) rest
    | ']' :: rest =>
      if top.fresh && top.row.count = 0 then
        if (Sign.character ']' false).isMember m then read m fuel (top.push 0) below rest else none
      else
        match below with
        | [] => some (top.depth + 1, rest)
        | parent :: below => read m fuel (parent.push (top.depth + 1)) below rest
    | cs@('-' :: rest) =>
      if top.fresh then
        if (Sign.character '-' false).isMember m then
          read m fuel { top.push 0 with fresh := true } below rest
        else none
      else if rest.head? = some '-' then read m fuel top.operate below (rest.drop 1)
      else do read m fuel (top.push 0) below (← readMember m cs)
    | '&' :: '&' :: rest | '~' :: '~' :: rest => read m fuel top.operate below rest
    | cs => do read m fuel (top.push 0) below (← readMember m cs)

end Class

/-! ## Groups -/

/-- A group that is not closed yet, or the whole pattern. -/
structure Group where
  /-- The items since the last bar. -/
  row : Row := {}
  /-- The depth of the deepest row before that bar. -/
  branches : Option Nat := none
  mode : Mode := {}
  deriving DecidableEq, Repr

namespace Group

/-- The depth of all that has been read. -/
def depth (g : Group) : Nat :=
  match g.branches with
  | some deepest => max deepest g.row.depth + 1
  | none => g.row.depth

/-- Puts an item at the end. -/
def push (g : Group) (depth : Nat) : Group := { g with row := g.row.push depth }

/-- Puts a bar at the end. -/
def branch (g : Group) : Group :=
  { g with row := {}, branches := some (max (g.branches.getD 0) g.row.depth) }

/-- What an opening parenthesis may begin. -/
inductive Opening where
  /-- A group with its mode, and with its name if it has one. -/
  | group (mode : Mode) (name : Option (List Char))
  /-- A switch of the mode up to the end of the group that it stands in. -/
  | switch (mode : Mode)
  deriving DecidableEq, Repr

/-- Reads switches; `seen` are those before, in reverse, with a hyphen before those that switch
something off. -/
def readSwitches (m : Mode) (seen : List Char) : List Char → Option (Opening × List Char)
  | [] => none
  | c :: rest =>
    if c = ':' ∨ c = ')' then
      if seen.head? = some '-' then none
      else if c = ':' then some (.group m none, rest)
      else if seen.isEmpty then none
      else some (.switch m, rest)
    else if seen.contains c then none
    else if c = '-' then readSwitches m (c :: seen) rest
    else if Mode.switches.contains c then
      readSwitches (m.switch c (!seen.contains '-')) (c :: seen) rest
    else none

/-- The name of a group may begin with this. -/
def beginsName (c : Char) : Bool := c == '_' || Text.isAlphabetic c

/-- The name of a group may go on with this. -/
def continuesName (c : Char) : Bool :=
  c == '_' || c == '.' || c == '[' || c == ']' || Text.isAlphanumeric c

/-- Reads the name of a group, which is not among those before. -/
def readName (m : Mode) (names : List (List Char)) (cs : List Char) :
    Option (Opening × List Char) :=
  let name := cs.takeWhile (· != '>')
  match name, cs.drop name.length with
  | first :: others, _ :: rest =>
    if beginsName first && others.all continuesName && !names.contains name then
      some (.group m (some name), rest)
    else none
  | _, _ => none

/-- Reads what an opening parenthesis begins. -/
def readOpening (m : Mode) (names : List (List Char)) (cs : List Char) :
    Option (Opening × List Char) :=
  match m.skip cs with
  | '?' :: 'P' :: '<' :: rest | '?' :: '<' :: rest => readName m names rest
  | '?' :: rest => readSwitches m [] rest
  | rest => some (.group m none, rest)

/-- Reads a pattern to its end and tells its depth. The names are those of the groups so far, and
`below` are the groups around the one that is read. -/
def read : Nat → List (List Char) → Group → List Group → List Char → Option Nat
  | 0, _, _, _, _ => none
  | fuel + 1, names, top, below, cs =>
    match top.mode.skip cs with
    | [] => if below.isEmpty then some top.depth else none
    | '(' :: rest => do
      match ← readOpening top.mode names rest with
      | (.switch mode, rest) =>
        read fuel names { top with mode, row := top.row.pushSwitch } below rest
      | (.group mode name, rest) =>
        read fuel (name.toList ++ names) { mode } (top :: below) rest
    | ')' :: rest =>
      match below with
      | [] => none
      | parent :: below => read fuel names (parent.push (top.depth + 1)) below rest
    | '|' :: rest => read fuel names top.branch below rest
    | '[' :: rest => do
      let rest ← Class.readOpening top.mode rest
      let (depth, rest) ← Class.read top.mode (rest.length + 1) {} [] rest
      read fuel names (top.push depth) below rest
    | '?' :: rest | '*' :: rest | '+' :: rest => do
      let row ← top.row.repeat?
      let rest := if rest.head? = some '?' then rest.drop 1 else rest
      read fuel names { top with row } below rest
    | '\x7b' :: _ => none
    | '.' :: rest => if top.mode.unicode then read fuel names (top.push 0) below rest else none
    | '^' :: rest | '$' :: rest => read fuel names (top.push 0) below rest
    | cs => do
      let (sign, rest) ← Sign.read top.mode cs
      if sign.isAllowed top.mode then read fuel names (top.push 0) below rest else none

end Group

/-- The greatest depth of a pattern. -/
def depthLimit : Nat := 250

/-- The text is a pattern. Counted repetitions are none here: their closing brace would have ended
the field. -/
def isPattern (cs : List Char) : Bool :=
  match Group.read (cs.length + 1) [] {} [] cs with
  | some depth => depth ≤ depthLimit
  | none => false

/-! ## Numbers -/

/-- The words that stand for numbers. -/
def numberWords : List String := ["inf", "infinity", "nan"]

/-- What may follow the digits of a number. -/
def isExponent : List Char → Bool
  | [] => true
  | e :: rest =>
    let digits := match rest with
      | '+' :: digits | '-' :: digits => digits
      | digits => digits
    (e == 'e' || e == 'E') && !digits.isEmpty && digits.all Number.isDigit

/-- The text is a number without a sign. -/
def isNumber (cs : List Char) : Bool :=
  let whole := cs.takeWhile Number.isDigit
  let (places, rest) := match cs.drop whole.length with
    | '.' :: rest => (rest.takeWhile Number.isDigit, rest.dropWhile Number.isDigit)
    | rest => ([], rest)
  numberWords.contains (Text.foldAscii (String.ofList cs)) ||
    !(whole ++ places).isEmpty && isExponent rest

/-- A field may be compared with the text. A number that begins with a plus is right although no
pattern begins so; all other numbers are patterns too. -/
def isComparable (cs : List Char) : Bool :=
  match cs with
  | '+' :: rest => isNumber rest
  | cs => isPattern cs

end Findings.Log.Pattern
