import Findings.Proofs.Json.Spelling

/-!
Values that are set out over lines. The line ends and the indents only stand where blanks may, so
the text is read as the value in one line is (`Json.ofText_pretty`). What is printed is therefore
one value and nothing else, whatever its texts hold.
-/

namespace Findings.Json

/-- The end of a line, and the indent of the next one. -/
def line (indent : Nat) : List Char := '\n' :: List.replicate (2 * indent) ' '

theorem blank_line (indent : Nat) : Blank (line indent) := by
  intro c member
  rcases List.mem_cons.mp member with rfl | spaces
  · rfl
  · rw [(List.mem_replicate.mp spaces).2]
    rfl

theorem setOut_eq_enclosed (indent : Nat) (first last : Char) (parts : List (List Char)) :
    setOut indent first last parts =
      enclosed first last (line (indent + 1)) (line (indent + 1)) (line indent) parts := rfl

mutual

/-- Where a value that is set out begins, a reader finds the value and goes on behind it. -/
theorem reads_prettyText : ∀ {value : Json} {depth : Nat} (indent : Nat),
    depth + value.height < nestingLimit → Reads depth (value.prettyText indent) value.reread
  | .null, _, _, _ => reads_null
  | .bool true, _, _, _ => reads_true
  | .bool false, _, _, _ => reads_false
  | .number n, _, _, _ => reads_number n
  | .string s, _, _, _ => reads_string s
  | .array items, depth, indent, room => by
    rw [height_array] at room
    rw [prettyText, setOut_eq_enclosed]
    exact reads_array (by omega) (blank_line _) (blank_line _) (blank_line _)
      (reads_prettyItems _ (by omega))
  | .object members, depth, indent, room => by
    rw [height_object] at room
    rw [prettyText, setOut_eq_enclosed]
    exact reads_object (by omega) (blank_line _) (blank_line _) (blank_line _)
      (reads_prettyMembers _ (by omega))

theorem reads_prettyItems : ∀ {items : List Json} {depth : Nat} (indent : Nat),
    depth + Draft.heightItems (draftItems items) < nestingLimit →
      List.Forall₂ (Reads depth) (prettyItems indent items) (rereadItems items)
  | [], _, _, _ => .nil
  | item :: rest, depth, indent, room => by
    rw [heightItems_cons] at room
    exact .cons (reads_prettyText indent (by omega)) (reads_prettyItems indent (by omega))

theorem reads_prettyMembers : ∀ {members : List (String × Json)} {depth : Nat} (indent : Nat),
    depth + Draft.heightMembers (draftMembers members) < nestingLimit →
      List.Forall₂ (ReadsMember depth) (prettyMembers indent members) (rereadMembers members)
  | [], _, _, _ => .nil
  | (key, value) :: rest, depth, indent, room => by
    rw [heightMembers_cons] at room
    have gap : Blank [' '] := by simp [Blank, isSpace]
    have text : stringText key ++ [':', ' '] ++ value.prettyText indent =
        stringText key ++ ':' :: ([' '] ++ value.prettyText indent) := List.append_assoc ..
    exact .cons ⟨[' '], _, gap, text, reads_prettyText indent (by omega)⟩
      (reads_prettyMembers indent (by omega))

end

/-- A value that is set out over lines is read as the value, and all of it. -/
theorem ofText_pretty {value : Json} (room : value.height < nestingLimit) :
    Document.ofText (value.pretty ++ "\n") = ⟨value.reread, true⟩ := by
  have blank : Blank "\n".toList := by simp [Blank, isSpace]
  have read := (reads_prettyText 0 (show 0 + value.height < nestingLimit by omega)).ofText_eq blank
  rwa [String.ofList_append, String.ofList_toList] at read

/-- Where the numbers are read back, the very value is read. -/
theorem ofText?_pretty {value : Json} (legible : value.Legible 0) :
    ofText? (value.pretty ++ "\n") = some value := by
  obtain ⟨same, room⟩ := legible.reread_eq (by decide)
  rw [Nat.zero_add] at room
  rw [ofText?, ofText_pretty room, same, value?_draft]
  rfl

end Findings.Json
