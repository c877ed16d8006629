import Findings.Contents
import Findings.Feed.Store
import Findings.Text.Case

/-!
Database files. A file is cut into pages, which form trees: the leaves of a table's tree hold its
rows, and the tree that begins on the first page holds the list of tables. Of a database only the
rows of the table `descriptions` are read, with their columns `cve_id` and `data`.
-/

namespace Findings

/-- What the path of a database leads to. -/
inductive Database where
  | absent
  | closed (fault : DatabaseFault)
  | opened (store : Store)

namespace Database

/-! ## Numbers -/

/-- The byte at an offset; behind the end there are zeros. -/
def byteAt (bytes : ByteArray) (offset : Nat) : Nat := (bytes.data[offset]?.map UInt8.toNat).getD 0

/-- The number in `count` bytes, the most significant first. -/
def numberAt (bytes : ByteArray) (offset count : Nat) : Nat :=
  (List.range count).foldl (fun n k => n * 256 + byteAt bytes (offset + k)) 0

/-- Goes on with a number of varying length, at most `count` bytes of seven bits and one of eight.
The second part is the offset behind it. -/
def varyingFrom (bytes : ByteArray) : Nat → Nat → Nat → Nat × Nat
  | 0, n, offset => (n * 256 + byteAt bytes offset, offset + 1)
  | count + 1, n, offset =>
    let byte := byteAt bytes offset
    if byte < 128 then (n * 128 + byte, offset + 1)
    else varyingFrom bytes count (n * 128 + (byte - 128)) (offset + 1)

/-- The number of varying length at an offset, and the offset behind it. -/
def varyingAt (bytes : ByteArray) (offset : Nat) : Nat × Nat := varyingFrom bytes 8 0 offset

/-! ## Pages -/

/-- The size of the pages. -/
def pageSize (file : ByteArray) : Nat :=
  let size := numberAt file 16 2
  if size = 1 then 65536 else size

/-- The bytes of a page that hold data. -/
def usableSize (file : ByteArray) : Nat := pageSize file - byteAt file 20

/-- The offset of a page; pages are counted from one. -/
def pageAt (file : ByteArray) (page : Nat) : Nat := (page - 1) * pageSize file

/-- How many bytes of a row stand on the page of the row itself. -/
def localSize (usable size : Nat) : Nat :=
  let greatest := usable - 35
  let least := (usable - 12) * 32 / 255 - 23
  let fitting := least + (size - least) % (usable - 4)
  if size ≤ greatest then size else if fitting ≤ greatest then fitting else least

/-- The bytes of a row that stand on further pages, which form a chain; the fuel bounds it. -/
def overflow (file : ByteArray) : Nat → Nat → Nat → ByteArray
  | 0, _, _ => ByteArray.empty
  | fuel + 1, page, size =>
    if page = 0 ∨ size = 0 then ByteArray.empty
    else
      let start := pageAt file page
      let here := min size (usableSize file - 4)
      file.extract (start + 4) (start + 4 + here) ++
        overflow file fuel (numberAt file start 4) (size - here)

/-- The bytes of the row at an offset. -/
def rowAt (file : ByteArray) (offset : Nat) : ByteArray :=
  let (size, offset) := varyingAt file offset
  let (_, offset) := varyingAt file offset
  let here := localSize (usableSize file) size
  file.extract offset (offset + here) ++
    overflow file file.size (numberAt file (offset + here) 4) (size - here)

/-- The offset of what a page tells about itself. -/
def headerAt (file : ByteArray) (page : Nat) : Nat :=
  if page = 1 then 100 else pageAt file page

/-- The numbers of the cells of a page. -/
def cellsOf (file : ByteArray) (page : Nat) : List Nat :=
  List.range (numberAt file (headerAt file page + 3) 2)

/-- The pages under a page that is no leaf. -/
def childrenOf (file : ByteArray) (page : Nat) : List Nat :=
  let header := headerAt file page
  let children := (cellsOf file page).map fun k =>
    numberAt file (pageAt file page + numberAt file (header + 12 + 2 * k) 2) 4
  children ++ [numberAt file (header + 8) 4]

/-- The rows of a tree that is at most as high as the fuel. -/
def rowsOf (file : ByteArray) : Nat → Nat → List ByteArray
  | 0, _ => []
  | fuel + 1, page =>
    let header := headerAt file page
    match byteAt file header with
    | 13 => (cellsOf file page).map fun k =>
      rowAt file (pageAt file page + numberAt file (header + 8 + 2 * k) 2)
    | 5 => (childrenOf file page).flatMap (rowsOf file fuel)
    | _ => []

/-- No tree is higher. -/
def greatestHeight : Nat := 20

/-! ## Columns -/

/-- The size of a value by the number of its type. -/
def valueSize : Nat → Nat
  | 0 | 8 | 9 | 10 | 11 => 0
  | 5 => 6
  | 6 | 7 => 8
  | n => if n < 5 then n else (n - 12) / 2

/-- The values of a row from an offset on, whose types are listed up to another offset; the fuel
bounds their count. -/
def valuesFrom (row : ByteArray) (listEnd : Nat) : Nat → Nat → Nat → List ByteArray
  | 0, _, _ => []
  | fuel + 1, listed, offset =>
    if listEnd ≤ listed then []
    else
      let (type, listed) := varyingAt row listed
      let next := offset + valueSize type
      row.extract offset next :: valuesFrom row listEnd fuel listed next

/-- The values of a row. -/
def values (row : ByteArray) : List ByteArray :=
  let (listEnd, listed) := varyingAt row 0
  valuesFrom row listEnd row.size listed listEnd

/-- A value as a text. -/
def textOf (value : ByteArray) : Option String := (Utf8.decode value.toList).toOption

/-- The names of the columns in the statement that made a table: of each part between commas the
first word, without quotes. -/
def columnNames (statement : List Char) : List String :=
  let inside := (statement.dropWhile (· != '(')).drop 1
  let isMark (c : Char) : Bool := Text.isBlank c || c == '"' || c == '\x60' || c == '[' || c == ']'
  (inside.splitOn ',').map fun part =>
    Text.foldAscii (String.ofList ((part.dropWhile isMark).takeWhile fun c => !isMark c))

/-- The root of the table of descriptions, and the places of its two columns. -/
def findTable (file : ByteArray) : Option (Nat × Nat × Nat) :=
  (rowsOf file greatestHeight 1).findSome? fun row => do
    let [_, name, _, root, statement] := values row | none
    let name ← textOf name
    if name != "descriptions" then none
    let columns := columnNames (← textOf statement).toList
    let id ← columns.findIdx? (· == "cve_id")
    let data ← columns.findIdx? (· == "data")
    return (numberAt root 0 root.size, id, data)

/-! ## Files -/

/-- What every database file begins with. -/
def magic : List UInt8 := Utf8.bytes "SQLite format 3\x00"

/-- The size is one that pages may have: a power of two. -/
def isPageSize (size : Nat) : Bool := (List.range 8).any fun k => size == 512 <<< k

/-- The header says that the file may be read: the version of the reading format, the three sizes
that are fixed, and the size of the pages. -/
def isReadable (file : ByteArray) : Bool :=
  byteAt file 19 ≤ 2 && numberAt file 21 3 == 0x402020 && isPageSize (pageSize file)

/-- The pages of the file, where the last may be incomplete. -/
def pageCount (file : ByteArray) : Nat := (file.size + pageSize file - 1) / pageSize file

/-- The pages that the header tells of, if it was written together with the rest. -/
def statedCount (file : ByteArray) : Nat :=
  if numberAt file 24 4 = numberAt file 92 4 then numberAt file 28 4 else 0

/-- A tree is at most as high as the fuel, and its pages are in the file and of the right kind. -/
def isSound (file : ByteArray) : Nat → Nat → Bool
  | 0, _ => false
  | fuel + 1, page =>
    0 < page && page ≤ pageCount file &&
      match byteAt file (headerAt file page) with
      | 13 => true
      | 5 => (childrenOf file page).all (isSound file fuel)
      | _ => false

/-- Why a file cannot be opened. -/
def fault? (bytes : List UInt8) (file : ByteArray) : Option DatabaseFault :=
  if !magic.isPrefixOf bytes || !isReadable file then some .notADatabase
  else if pageCount file < statedCount file then some .damaged
  else if usableSize file < 480 then some .notADatabase
  else if 4 < numberAt file 44 4 then some .later
  else if !isSound file greatestHeight 1 then some .damaged
  else none

/-- The store in a file. An empty file is a database without tables, and so is one of a single
byte. -/
def storeOf (bytes : List UInt8) : Store :=
  let file := ByteArray.mk bytes.toArray
  if bytes.length ≤ 1 then { backing := .faulty .noTable }
  else
    match fault? bytes file, findTable file with
    | some fault, _ => { backing := .faulty fault }
    | none, none => { backing := .faulty .noTable }
    | none, some (root, id, data) =>
      let rows := (rowsOf file greatestHeight root).filterMap fun row => do
        let row := values row
        return (← textOf (← row[id]?), (← row[data]?).toList)
      rows.foldl (fun store (id, bytes) => store.putRaw id bytes) { backing := .database }

/-- Opens a database. -/
def ofContents : Contents → Database
  | .absent | .beyondFile | .tooLong => absent
  | .directory => closed .unreadable
  | .bytes bytes => opened (storeOf bytes)

end Database

end Findings
