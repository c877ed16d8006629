import Findings.Text.Utf8

/-!
What paths lead to, and the texts of files.
-/

namespace Findings

/-- What a path leads to. -/
inductive Contents where
  | absent
  /-- The path goes on behind a file. -/
  | beyondFile
  /-- The path or one of its parts is longer than paths or parts may be. -/
  | tooLong
  | directory
  | bytes (bytes : List UInt8)
  deriving DecidableEq, Repr

namespace Contents

/-- The path leads to something. -/
def isThere : Contents → Bool
  | absent | beyondFile | tooLong => false
  | directory | bytes _ => true

/-- The text of a file, or the complaint that there is none. -/
def text : Contents → Except String String
  | absent => .error "No such file or directory (os error 2)"
  | beyondFile => .error "Not a directory (os error 20)"
  | tooLong => .error "File name too long (os error 36)"
  | directory => .error "Is a directory (os error 21)"
  | bytes stored =>
    match Utf8.decode stored with
    | .ok text => .ok text
    | .error _ => .error "stream did not contain valid UTF-8"

end Contents

end Findings
