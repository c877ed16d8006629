import Findings.Text.Width

/-!
Tables drawn with lines. Cells are padded to the width of their column and may span several lines.
A double line stands under the header and a dashed one between rows.
-/

namespace Findings.Text

/-- A table: its header and its rows, each with a cell for every column. -/
structure Table where
  header : List String
  rows : List (List String)
  deriving DecidableEq, Repr

/-- The characters of one horizontal line: at its ends, along it and where it crosses a column. -/
structure Rule where
  first : Char
  along : Char
  crossing : Char
  last : Char
  deriving DecidableEq, Repr

namespace Table

/-- The line above the header. -/
def top : Rule := ⟨'┌', '─', '┬', '┐'⟩

/-- The line under the header. -/
def underHeader : Rule := ⟨'╞', '═', '╪', '╡'⟩

/-- The line between two rows. -/
def between : Rule := ⟨'├', '╌', '┼', '┤'⟩

/-- The line under the last row. -/
def bottom : Rule := ⟨'└', '─', '┴', '┘'⟩

/-- The lines of a cell. -/
def cellLines (cell : String) : List (List Char) := cell.toList.splitOn '\n'

/-- The columns a cell takes. -/
def cellWidth (cell : String) : Nat :=
  ((cellLines cell).map width).foldl max 0

/-- The widths of the columns: each as wide as its widest cell. -/
def widths (t : Table) : List Nat :=
  t.rows.foldl (fun widths row => List.zipWith max widths (row.map cellWidth))
    (t.header.map cellWidth)

/-- Parts between an opening and a closing character, with another one between any two. -/
def fence (first crossing last : Char) (parts : List (List Char)) : List Char :=
  first :: (List.intersperse [crossing] parts).flatten ++ [last]

/-- A horizontal line over columns of given widths. -/
def Rule.draw (r : Rule) (widths : List Nat) : List Char :=
  fence r.first r.crossing r.last (widths.map fun width => List.replicate (width + 2) r.along)

/-- One line of a cell, padded to its column, with a space on either side. -/
def pad (columns : Nat) (line : List Char) : List Char :=
  ' ' :: line ++ List.replicate (columns - width line) ' ' ++ [' ']

/-- The lines of a row. Cells with fewer lines than others go on empty. -/
def rowLines (widths : List Nat) (row : List String) : List (List Char) :=
  let cells := row.map cellLines
  let height := (cells.map List.length).foldl max 0
  (List.range height).map fun k =>
    fence '│' '┆' '│' (List.zipWith (fun width cell => pad width (cell.getD k [])) widths cells)

/-- The lines of the table. -/
def lines (t : Table) : List (List Char) :=
  let widths := t.widths
  let body := List.intercalate [Rule.draw between widths] (t.rows.map (rowLines widths))
  [Rule.draw top widths] ++ rowLines widths t.header ++ [Rule.draw underHeader widths] ++ body ++
    [Rule.draw bottom widths]

/-- The table as a text, without a line end behind its last line. -/
def draw (t : Table) : String :=
  String.ofList (List.intercalate ['\n'] t.lines)

end Table

end Findings.Text
