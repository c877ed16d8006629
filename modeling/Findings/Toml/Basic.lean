/-!
Values of TOML documents. Floats, dates and times are told apart from other values, but what they
say is not kept.
-/

namespace Findings

/-- A value of a TOML document. -/
inductive Toml where
  | string (s : String)
  | integer (n : Int)
  | float
  /-- An integer or a float that is too great for any number. -/
  | excess
  | bool (b : Bool)
  | moment
  | array (items : List Toml)
  | table (members : List (String × Toml))
  deriving Repr, Inhabited

namespace Toml

mutual

/-- Every number within the value is one. -/
def isWithinRange : Toml → Bool
  | excess => false
  | array items => itemsWithinRange items
  | table members => membersWithinRange members
  | _ => true

/-- Every number within the items is one. -/
def itemsWithinRange : List Toml → Bool
  | [] => true
  | item :: rest => isWithinRange item && itemsWithinRange rest

/-- Every number within the members is one. -/
def membersWithinRange : List (String × Toml) → Bool
  | [] => true
  | (_, value) :: rest => isWithinRange value && membersWithinRange rest

end

/-- A step of reading a document, over the characters that are left. -/
abbrev Scan := StateT (List Char) Option

/-- Takes a character if it is the next. -/
def accept (c : Char) : Scan Bool := do
  match ← get with
  | d :: rest =>
    if d = c then
      set rest
      return true
    else return false
  | [] => return false

/-- Takes a character that has to be the next. -/
def expect (c : Char) : Scan Unit := do
  if !(← accept c) then failure

/-- Takes the characters at the front that pass a test. -/
def takeWhile (keep : Char → Bool) : Scan (List Char) := do
  let cs ← get
  set (cs.dropWhile keep)
  return cs.takeWhile keep

/-- Spaces and tabs. -/
def isSpace (c : Char) : Bool := c == ' ' || c == '\t'

/-- Passes over spaces and tabs. -/
def skipSpace : Scan Unit := do
  let _ ← takeWhile isSpace

/-- Characters that may stand in comments and strings. -/
def isPlain (c : Char) : Bool := c == '\t' || (32 ≤ c.val && c.val != 127)

/-- Takes a line end. -/
def acceptNewline : Scan Bool := do
  match ← get with
  | '\n' :: rest | '\r' :: '\n' :: rest =>
    set rest
    return true
  | _ => return false

/-- Passes over a comment up to the end of its line. -/
def skipComment : Scan Unit := do
  if ← accept '#' then
    let _ ← takeWhile isPlain

/-- Passes over spaces, comments and line ends; the fuel bounds the lines. -/
def skipLines : Nat → Scan Unit
  | 0 => pure ()
  | fuel + 1 => do
    skipSpace
    skipComment
    if ← acceptNewline then skipLines fuel

/-- Ends a line, which may hold a comment. -/
def endLine : Scan Unit := do
  skipSpace
  skipComment
  if (← get).isEmpty then return ()
  if !(← acceptNewline) then failure

end Toml

end Findings
