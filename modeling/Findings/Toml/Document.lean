import Findings.Toml.Quoted
import Findings.Toml.Scalar
import Findings.Toml.Tree

/-!
Reading TOML documents, after version 1.1 of the format. Containers are nested, and keys are dotted,
up to a limit.
-/

namespace Findings.Toml

/-- The greatest number of containers that are open at once, and of parts in a key. -/
def nestingLimit : Nat := 80

/-- Characters of keys without quotes. -/
def isKeyChar (c : Char) : Bool := c.isAlphanum || c == '_' || c == '-'

/-- Reads one part of a key. -/
def keyPart : Scan String := do
  match ← get with
  | '"' :: _ | '\'' :: _ => quoted false
  | _ =>
    let part ← takeWhile isKeyChar
    if part.isEmpty then failure
    return String.ofList part

/-- Reads the further parts of a dotted key. -/
def keyRest : Nat → Scan (List String)
  | 0 => return []
  | fuel + 1 => do
    skipSpace
    if ← accept '.' then
      skipSpace
      let part ← keyPart
      return part :: (← keyRest fuel)
    else return []

/-- Reads a key: the path to its table, and its name there. -/
def key : Scan (List String × String) := do
  skipSpace
  let first ← keyPart
  let rest ← keyRest (← get).length
  let parts := first :: rest
  if nestingLimit < parts.length then failure
  return (parts.dropLast, parts.getLastD "")

mutual

/-- Reads a value, with `depth` containers open around it. The fuel bounds the parts of the
value. -/
def value (depth : Nat) : Nat → Scan Toml
  | 0 => failure
  | fuel + 1 => do
    match ← get with
    | '"' :: _ | '\'' :: _ => return .string (← quoted true)
    | '[' :: rest =>
      if nestingLimit ≤ depth then failure
      set rest
      return .array (← arrayItems (depth + 1) fuel)
    | '\x7b' :: rest =>
      if nestingLimit ≤ depth then failure
      set rest
      return .table (Tree.tomlMembers (← inlineMembers (depth + 1) [] fuel))
    | _ => (ofWord (← word) : Option Toml)

/-- Reads the items of an array up to its end. -/
def arrayItems (depth : Nat) : Nat → Scan (List Toml)
  | 0 => failure
  | fuel + 1 => do
    skipLines (← get).length
    if ← accept ']' then return []
    let item ← value depth fuel
    skipLines (← get).length
    if ← accept ',' then return item :: (← arrayItems depth fuel)
    expect ']'
    return [item]

/-- Reads the members of an inline table up to its end. Lines may end between its parts. -/
def inlineMembers (depth : Nat) (members : Tree.Members) : Nat → Scan Tree.Members
  | 0 => failure
  | fuel + 1 => do
    skipLines (← get).length
    if ← accept '\x7d' then return members
    let (path, name) ← key
    skipLines (← get).length
    expect '='
    skipLines (← get).length
    let v ← value depth fuel
    let members ← (Tree.assign path name v members : Option Tree.Members)
    skipLines (← get).length
    if ← accept ',' then return ← inlineMembers depth members fuel
    expect '\x7d'
    return members

end

/-- Reads the lines of a document. `here` is the path of the table that the last header opened. -/
def statements (root : Tree.Members) (here : List String) : Nat → Scan Tree.Members
  | 0 => failure
  | fuel + 1 => do
    skipLines (← get).length
    match ← get with
    | [] => return root
    | '[' :: '[' :: rest =>
      set rest
      let (path, name) ← key
      skipSpace
      expect ']'
      expect ']'
      endLine
      let root ← (Tree.under path (Tree.openNext name) root : Option Tree.Members)
      statements root (path ++ [name]) fuel
    | '[' :: rest =>
      set rest
      let (path, name) ← key
      skipSpace
      expect ']'
      endLine
      let root ← (Tree.under path (Tree.openTable name) root : Option Tree.Members)
      statements root (path ++ [name]) fuel
    | cs =>
      let (path, name) ← key
      skipSpace
      expect '='
      skipSpace
      let v ← value 0 cs.length
      endLine
      let root ← (Tree.under here (Tree.assign path name v) root : Option Tree.Members)
      statements root here fuel

/-- The table that a document spells. -/
def ofText? (text : String) : Option (List (String × Toml)) :=
  let cs := match text.toList with
    | '\uFEFF' :: rest => rest
    | cs => cs
  ((statements [] [] (cs.length + 1)).run cs).map fun (root, _) => Tree.tomlMembers root

end Findings.Toml
