import Findings.Json.Draft
import Findings.Json.Numeral
import Findings.Text.Hex

/-!
Reading JSON texts into drafts. Every text has a draft, and where a text stops being JSON the
containers that are open end with an unreadable part.
-/

namespace Findings.Json

/-- Characters that may stand between the parts of a text. -/
def isSpace (c : Char) : Bool := c == ' ' || c == '\n' || c == '\t' || c == '\r'

/-- A text from its first character that is not a space. -/
def skipSpace (cs : List Char) : List Char := cs.dropWhile isSpace

/-- Containers may be open one within another up to one less than this. -/
def nestingLimit : Nat := 128

/-- The character a short escape stands for. -/
def shortEscape? : Char → Option Char
  | '"' => some '"'
  | '\\' => some '\\'
  | '/' => some '/'
  | 'b' => some '\x08'
  | 'f' => some '\x0c'
  | 'n' => some '\n'
  | 'r' => some '\r'
  | 't' => some '\t'
  | _ => none

/-- Reads a string after its opening quote. `high` is the first half of a surrogate pair when the
text has just given one, `whole` says that no half has stood alone so far, and `seen` holds the
characters in reverse. A string with a lone half is passed over but has no value. -/
def stringAfter (high : Option Nat) (whole : Bool) (seen : List Char) :
    List Char → Option (Option String × List Char)
  | [] => none
  | '"' :: rest =>
    some (if whole && high.isNone then some (String.ofList seen.reverse) else none, rest)
  | '\\' :: 'u' :: a :: b :: c :: d :: rest =>
    match Text.Hex.number? [a, b, c, d] with
    | none => none
    | some n =>
      if 0xD800 ≤ n && n < 0xDC00 then stringAfter (some n) (whole && high.isNone) seen rest
      else if 0xDC00 ≤ n && n < 0xE000 then
        match high with
        | some h =>
          stringAfter none whole
            (Char.ofNat (0x10000 + (h - 0xD800) * 0x400 + (n - 0xDC00)) :: seen) rest
        | none => stringAfter none false seen rest
      else stringAfter none (whole && high.isNone) (Char.ofNat n :: seen) rest
  | '\\' :: c :: rest =>
    match shortEscape? c with
    | some image => stringAfter none (whole && high.isNone) (image :: seen) rest
    | none => none
  | c :: rest =>
    if c.val < 32 || c == '\\' then none
    else stringAfter none (whole && high.isNone) (c :: seen) rest

/-- The draft of a container, which is unreadable when too many are open. -/
def within (depth : Nat) (container : Draft) : Draft :=
  if depth < nestingLimit then container else .unreadable

mutual

/-- Reads one value, with `depth` containers open around it. The second part is what follows the
value, or `none` when the text is not JSON at some place within it. The fuel is the number of
steps allowed; a step takes at least one character. -/
def readValue : Nat → Nat → List Char → Draft × Option (List Char)
  | 0, _, _ => (.unreadable, none)
  | fuel + 1, depth, cs =>
    match skipSpace cs with
    | 'n' :: 'u' :: 'l' :: 'l' :: rest => (.null, some rest)
    | 't' :: 'r' :: 'u' :: 'e' :: rest => (.bool true, some rest)
    | 'f' :: 'a' :: 'l' :: 's' :: 'e' :: rest => (.bool false, some rest)
    | '"' :: rest =>
      match stringAfter none true [] rest with
      | some (some s, rest) => (.string s, some rest)
      | some (none, rest) => (.unreadable, some rest)
      | none => (.unreadable, none)
    | '[' :: rest =>
      let (items, rest) :=
        match skipSpace rest with
        | ']' :: rest => ([], some rest)
        | cs => readItems fuel (depth + 1) cs
      (within (depth + 1) (.array items), rest)
    | '\x7b' :: rest =>
      let (members, closed, rest) :=
        match skipSpace rest with
        | '\x7d' :: rest => ([], true, some rest)
        | cs => readMembers fuel (depth + 1) cs
      (within (depth + 1) (.object members closed), rest)
    | cs =>
      match Numeral.split? cs with
      | none => (.unreadable, none)
      | some (numeral, rest) =>
        match numeral.value? with
        | some n => (.number n, some rest)
        | none => (.unreadable, some rest)

/-- Reads the items of an array up to its end, at least one. -/
def readItems : Nat → Nat → List Char → List Draft × Option (List Char)
  | 0, _, _ => ([.unreadable], none)
  | fuel + 1, depth, cs =>
    match readValue fuel depth cs with
    | (item, none) => ([item, .unreadable], none)
    | (item, some rest) =>
      match skipSpace rest with
      | ']' :: rest => ([item], some rest)
      | ',' :: rest =>
        let (items, rest) := readItems fuel depth rest
        (item :: items, rest)
      | _ => ([item, .unreadable], none)

/-- Reads the members of an object up to its end, at least one. -/
def readMembers : Nat → Nat → List Char →
    List (String × Draft) × Bool × Option (List Char)
  | 0, _, _ => ([], false, none)
  | fuel + 1, depth, cs =>
    let readAfterKey (key : Option String) (cs : List Char) :
        List (String × Draft) × Bool × Option (List Char) :=
      let before (value : Draft) (members : List (String × Draft)) (closed : Bool) :=
        match key with
        | some key => ((key, value) :: members, closed)
        | none => ([], false)
      let stop (value : Draft) :=
        let (members, closed) := before value [] false
        (members, closed, none)
      match skipSpace cs with
      | ':' :: rest =>
        match readValue fuel depth rest with
        | (value, none) => stop value
        | (value, some rest) =>
          match skipSpace rest with
          | '\x7d' :: rest =>
            let (members, closed) := before value [] true
            (members, closed, some rest)
          | ',' :: rest =>
            let (members, closed, rest) := readMembers fuel depth rest
            let (members, closed) := before value members closed
            (members, closed, rest)
          | _ => stop value
      | _ => stop .unreadable
    match skipSpace cs with
    | '"' :: rest =>
      match stringAfter none true [] rest with
      | some (key, rest) => readAfterKey key rest
      | none => ([], false, none)
    | _ => ([], false, none)

end

/-- Reads a text. -/
def Document.ofText (text : String) : Document :=
  let cs := text.toList
  match readValue (2 * cs.length + 2) 0 cs with
  | (draft, some rest) => ⟨draft, (skipSpace rest).isEmpty⟩
  | (draft, none) => ⟨draft, false⟩

/-- The value of a text that is JSON throughout. -/
def ofText? (text : String) : Option Json :=
  let document := Document.ofText text
  if document.complete then document.draft.value? else none

/-- The complaint about a text that ends where a value should begin, with the line and the column
of its end. -/
def earlyEnd (text : String) : String :=
  let lines := text.toList.splitOn '\n'
  let column := (Utf8.bytes (String.ofList (lines.getLastD []))).length
  s!"EOF while parsing a value at line {lines.length} column {column}"

end Findings.Json
