/-!
UTF-8 texts as byte lists. `bytes` writes a text, `decode` reads one back, and a byte list that is
not well formed is located: `Fault.index` counts the bytes before the first character that cannot
be read, and `Fault.length` says how many bytes that character spoils, or that the bytes stop in
the middle of it.

Main statements: a decoded text has exactly the bytes it was read from (`bytes_of_decode_eq_ok`),
and what `bytes` writes is read back (`decode_bytes`).
-/

namespace Findings.Utf8

/-- The bytes a text is written with. -/
def bytes (s : String) : List UInt8 := s.toByteArray.data.toList

/-- The number of bytes a text is written with. -/
def size (s : String) : Nat := (bytes s).length

/-- Two texts with the same bytes are one text. -/
theorem bytes_injective {s t : String} (same : bytes s = bytes t) : s = t := by
  apply String.toByteArray_inj.mp
  have arrays : s.toByteArray.data = t.toByteArray.data := Array.toList_inj.mp same
  calc s.toByteArray = ⟨s.toByteArray.data⟩ := rfl
    _ = ⟨t.toByteArray.data⟩ := by rw [arrays]
    _ = t.toByteArray := rfl

/-- Where and how a byte list stops being well formed. -/
structure Fault where
  /-- Bytes before the first character that cannot be read. -/
  index : Nat
  /-- Bytes that no continuation could make right, or `none` where the list ends too early. -/
  length : Option Nat
  deriving DecidableEq, Repr

/-- The sentence a fault is reported with. -/
def Fault.message (fault : Fault) : String :=
  match fault.length with
  | some length => s!"invalid utf-8 sequence of {length} bytes from index {fault.index}"
  | none => s!"incomplete utf-8 byte sequence from index {fault.index}"

/-- The place after the last character of the well-formed run that starts at `start`. -/
def runEnd (b : ByteArray) (start : Nat) : Nat :=
  match b.utf8DecodeChar? start with
  | some c => if start < b.size then runEnd b (start + c.utf8Size) else start
  | none => start
termination_by b.size - start
decreasing_by have := c.utf8Size_pos; omega

/-- A byte that continues a character. -/
def isContinuation (b : UInt8) : Bool := 0x80 ≤ b && b ≤ 0xBF

/-- The bytes that may stand second after a lead byte, as a closed range; `none` for a byte that
leads nothing. -/
def leadRule (lead : UInt8) : Option (UInt8 × UInt8) :=
  if 0xC2 ≤ lead && lead ≤ 0xDF then some (0x80, 0xBF)
  else if lead == 0xE0 then some (0xA0, 0xBF)
  else if lead == 0xED then some (0x80, 0x9F)
  else if 0xE1 ≤ lead && lead ≤ 0xEF then some (0x80, 0xBF)
  else if lead == 0xF0 then some (0x90, 0xBF)
  else if 0xF1 ≤ lead && lead ≤ 0xF3 then some (0x80, 0xBF)
  else if lead == 0xF4 then some (0x80, 0x8F)
  else none

/-- How many bytes are spoiled at the head of a list that starts with no character: the longest
head that some character begins with, and at least one byte. A list that is such a head itself
only ends too early. -/
def spoiled : List UInt8 → Option Nat
  | [] => none
  | lead :: rest =>
    match leadRule lead with
    | none => some 1
    | some (least, greatest) =>
      match rest with
      | [] => none
      | second :: rest =>
        if second < least || greatest < second then some 1
        else match rest with
          | [] => none
          | third :: rest =>
            if !isContinuation third then some 2
            else match rest with
              | [] => none
              | _ => some 3

/-- The first fault of a byte list; a well-formed list has it at its end. -/
def locate (b : ByteArray) : Fault :=
  let index := runEnd b 0
  ⟨index, spoiled (b.data.toList.drop index)⟩

/-- Reads a text from the bytes it was written with. -/
def decode (bytes : List UInt8) : Except Fault String :=
  if valid : (ByteArray.mk bytes.toArray).IsValidUTF8 then .ok (String.ofByteArray _ valid)
  else .error (locate ⟨bytes.toArray⟩)

theorem decode_bytes (s : String) : decode (bytes s) = .ok s := by
  have whole : (⟨(bytes s).toArray⟩ : ByteArray) = s.toByteArray := rfl
  simp [decode, whole, s.isValidUTF8]

theorem bytes_of_decode_eq_ok {b : List UInt8} {s : String} (read : decode b = .ok s) :
    bytes s = b := by
  unfold decode at read
  split at read
  · cases read
    simp [bytes]
  · cases read

theorem decode_eq_ok_iff {b : List UInt8} {s : String} : decode b = .ok s ↔ b = bytes s :=
  ⟨fun read => (bytes_of_decode_eq_ok read).symm, fun same => same ▸ decode_bytes s⟩

end Findings.Utf8
