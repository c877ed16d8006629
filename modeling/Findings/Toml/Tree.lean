import Findings.Toml.Basic

/-!
Documents while they are read. A table remembers how it came to be, since a table that a header
defines cannot be defined again, and one that dotted keys made can only be extended by dotted keys.
-/

namespace Findings.Toml

/-- How a table came to be. -/
inductive Origin where
  /-- A header names it. -/
  | header
  /-- A header names a table within it. -/
  | passed
  /-- Dotted keys lead through it. -/
  | dotted
  deriving DecidableEq, Repr

/-- A part of a document. -/
inductive Tree where
  | value (value : Toml)
  | table (origin : Origin) (members : List (String × Tree))
  /-- Tables that one header names again and again, the last first. -/
  | tables (all : List (List (String × Tree)))
  deriving Inhabited

namespace Tree

/-- The members of a table. -/
abbrev Members := List (String × Tree)

/-- Puts a member in place of the one with its key, or at the end. -/
def put (key : String) (tree : Tree) : Members → Members
  | [] => [(key, tree)]
  | (k, t) :: rest => if k = key then (key, tree) :: rest else (k, t) :: put key tree rest

/-- Changes the table that a header's path leads to. -/
def under (path : List String) (change : Members → Option Members) (members : Members) :
    Option Members :=
  match path with
  | [] => change members
  | key :: path =>
    match members.lookup key with
    | none => do
      let inner ← under path change []
      return put key (.table .passed inner) members
    | some (.table origin inner) => do
      let inner ← under path change inner
      return put key (.table origin inner) members
    | some (.tables (last :: others)) => do
      let last ← under path change last
      return put key (.tables (last :: others)) members
    | some _ => none

/-- Opens the table that a header names. -/
def openTable (key : String) (members : Members) : Option Members :=
  match members.lookup key with
  | none => some (put key (.table .header []) members)
  | some (.table .passed inner) => some (put key (.table .header inner) members)
  | some _ => none

/-- Opens one more of the tables that a header names. -/
def openNext (key : String) (members : Members) : Option Members :=
  match members.lookup key with
  | none => some (put key (.tables [[]]) members)
  | some (.tables ts) => some (put key (.tables ([] :: ts)) members)
  | some _ => none

/-- Gives a key its value; the key must be new, and dotted keys only extend what dotted keys
made. -/
def assign (path : List String) (key : String) (value : Toml) (members : Members) :
    Option Members :=
  match path with
  | [] => if (members.lookup key).isSome then none else some (put key (.value value) members)
  | first :: path =>
    match members.lookup first with
    | none => do
      let inner ← assign path key value []
      return put first (.table .dotted inner) members
    | some (.table origin inner) => do
      if origin = .header ∨ (path.isEmpty ∧ origin ≠ .dotted) then none
      let inner ← assign path key value inner
      return put first (.table origin inner) members
    | some _ => none

mutual

/-- The value a part stands for. -/
def toml : Tree → Toml
  | value v => v
  | table _ members => .table (tomlMembers members)
  | tables ts => .array (tomlTables ts).reverse

/-- The values of members. -/
def tomlMembers : List (String × Tree) → List (String × Toml)
  | [] => []
  | (key, tree) :: rest => (key, toml tree) :: tomlMembers rest

/-- The values of tables. -/
def tomlTables : List (List (String × Tree)) → List Toml
  | [] => []
  | members :: rest => .table (tomlMembers members) :: tomlTables rest

end

end Tree

end Findings.Toml
