import Findings.Text.Hex
import Findings.Toml.Basic

/-!
Strings of TOML documents: basic ones with escapes and literal ones without, on one line or on
several.
-/

namespace Findings.Toml

/-- Reads the character an escape stands for, after its backslash. -/
def escape : Scan Char := do
  let code (count : Nat) (rest : List Char) : Scan Char := do
    if rest.length < count then failure
    let some n := Text.Hex.number? (rest.take count) | failure
    let some c := Text.Hex.scalar? n | failure
    set (rest.drop count)
    return c
  match ← get with
  | 'u' :: rest => code 4 rest
  | 'U' :: rest => code 8 rest
  | 'x' :: rest => code 2 rest
  | c :: rest =>
    set rest
    match c with
    | 'b' => return '\x08'
    | 't' => return '\t'
    | 'n' => return '\n'
    | 'f' => return '\x0c'
    | 'r' => return '\r'
    | 'e' => return '\x1b'
    | '"' => return '"'
    | '\\' => return '\\'
    | _ => failure
  | [] => failure

/-- Reads a basic string on one line, after its quote; `seen` is what was read, in reverse. -/
def basic (seen : List Char) : Nat → Scan String
  | 0 => failure
  | fuel + 1 => do
    match ← get with
    | '"' :: rest =>
      set rest
      return String.ofList seen.reverse
    | '\\' :: rest =>
      set rest
      basic ((← escape) :: seen) fuel
    | c :: rest =>
      if !isPlain c then failure
      set rest
      basic (c :: seen) fuel
    | [] => failure

/-- Reads a literal string on one line, after its quote. -/
def literal : Scan String := do
  let body ← takeWhile fun c => isPlain c && c != '\''
  expect '\''
  return String.ofList body

/-- Passes over blank lines and the blanks of the next line; the fuel bounds the lines. -/
def skipBlankLines : Nat → Scan Unit
  | 0 => pure ()
  | fuel + 1 => do
    skipSpace
    if ← acceptNewline then skipBlankLines fuel

/-- Passes over the rest of a line that a backslash ends, and over the blanks that follow. -/
def foldLine : Scan Unit := do
  skipSpace
  if !(← acceptNewline) then failure
  skipBlankLines (← get).length

/-- Reads a string on several lines, after its three quotes; `quote` is the quote, and only a
basic string has escapes. Line ends are kept as they are. -/
def lines (quote : Char) (seen : List Char) : Nat → Scan String
  | 0 => failure
  | fuel + 1 => do
    match ← get with
    | '\n' :: rest =>
      set rest
      lines quote ('\n' :: seen) fuel
    | '\r' :: '\n' :: rest =>
      set rest
      lines quote ('\n' :: '\r' :: seen) fuel
    | c :: rest =>
      if c = quote then
        let count := ((c :: rest).takeWhile (· == quote)).length
        if count < 3 then
          set rest
          lines quote (c :: seen) fuel
        else if count ≤ 5 then
          set ((c :: rest).drop count)
          return String.ofList (List.replicate (count - 3) quote ++ seen).reverse
        else failure
      else if c = '\\' ∧ quote = '"' then
        set rest
        match rest with
        | d :: _ =>
          if isSpace d || d == '\n' || d == '\r' then
            foldLine
            lines quote seen fuel
          else lines quote ((← escape) :: seen) fuel
        | [] => failure
      else
        if !isPlain c then failure
        set rest
        lines quote (c :: seen) fuel
    | [] => failure

/-- Reads a string that begins with a quote; on several lines only where that is allowed. -/
def quoted (several : Bool) : Scan String := do
  let cs ← get
  let fuel := cs.length + 1
  match cs with
  | '"' :: '"' :: '"' :: rest =>
    if !several then failure
    set rest
    let _ ← acceptNewline
    lines '"' [] fuel
  | '"' :: rest =>
    set rest
    basic [] fuel
  | '\'' :: '\'' :: '\'' :: rest =>
    if !several then failure
    set rest
    let _ ← acceptNewline
    lines '\'' [] fuel
  | '\'' :: rest =>
    set rest
    literal
  | _ => failure

end Findings.Toml
