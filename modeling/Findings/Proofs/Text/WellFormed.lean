import Findings.Text.Utf8
import Mathlib.Data.List.Basic

/-!
Where bytes stop being well formed. Bytes are well formed if they are those of a text, that is of
characters in a row, each in its one encoding: neither a longer one, nor that of a surrogate or of a
number past the last character. The reader passes over characters as long as there is one to read,
so the place it reports is the end of the longest well-formed head (`locate_index`).
-/

namespace Findings.Utf8

/-- The bytes are those of a text. -/
def WellFormed (b : List UInt8) : Prop := ∃ s : String, b = bytes s

theorem bytes_ofList (chars : List Char) :
    bytes (String.ofList chars) = chars.flatMap String.utf8EncodeChar := by
  simp [bytes, List.utf8Encode]

theorem wellFormed_iff {b : List UInt8} :
    WellFormed b ↔ ∃ chars : List Char, b = chars.flatMap String.utf8EncodeChar := by
  constructor
  · intro ⟨s, same⟩
    refine ⟨s.toList, ?_⟩
    rw [same, ← bytes_ofList, String.ofList_toList]
  · intro ⟨chars, same⟩
    exact ⟨String.ofList chars, by rw [same, bytes_ofList]⟩

theorem decode_eq_error_iff {b : List UInt8} {fault : Fault} :
    decode b = .error fault ↔ ¬ WellFormed b ∧ fault = locate ⟨b.toArray⟩ := by
  have readable : WellFormed b ↔ ∃ s, decode b = .ok s :=
    exists_congr fun s => decode_eq_ok_iff.symm
  rw [readable]
  unfold decode
  split
  · exact ⟨nofun, fun refused => absurd ⟨_, rfl⟩ refused.1⟩
  · rw [Except.error.injEq]
    exact ⟨fun same => ⟨nofun, same.symm⟩, fun refused => refused.2.symm⟩

/-! ## Characters at a place -/

/-- A character can be read at a place exactly if its encoding stands there. -/
theorem decodeChar_eq_some_iff {b : ByteArray} {start : Nat} {c : Char} :
    b.utf8DecodeChar? start = some c ↔
      ∃ rest, b.data.toList.drop start = String.utf8EncodeChar c ++ rest := by
  have from_start : (b.extract start b.size).data.toList = b.data.toList.drop start := by
    have whole : (b.data.toList.drop start).length ≤ b.size - start :=
      Nat.le_of_eq List.length_drop
    simp [List.take_of_length_le whole]
  rw [ByteArray.utf8DecodeChar?_eq_utf8DecodeChar?_extract, ← from_start]
  constructor
  · intro read
    obtain ⟨rest, split⟩ := ByteArray.exists_of_utf8DecodeChar?_eq_some read
    exact ⟨rest.data.toList, by rw [split]; simp⟩
  · intro ⟨rest, split⟩
    have whole : b.extract start b.size =
        (String.utf8EncodeChar c).toByteArray ++ rest.toByteArray := by
      apply ByteArray.ext
      apply Array.toList_inj.mp
      rw [split]
      simp
    rw [whole]
    exact ByteArray.utf8DecodeChar?_utf8EncodeChar_append

theorem runEnd_of_encoded {b : ByteArray} {start : Nat} {c : Char} {rest : List UInt8}
    (here : b.data.toList.drop start = String.utf8EncodeChar c ++ rest) :
    runEnd b start = runEnd b (start + c.utf8Size) := by
  have read := decodeChar_eq_some_iff.mpr ⟨rest, here⟩
  have within := ByteArray.le_size_of_utf8DecodeChar?_eq_some read
  have positive := c.utf8Size_pos
  rw [runEnd, read]
  exact if_pos (by omega)

/-- The run that starts at a place consists of characters in a row. -/
theorem exists_run (b : ByteArray) (start : Nat) :
    ∃ (chars : List Char) (rest : List UInt8),
      b.data.toList.drop start = chars.flatMap String.utf8EncodeChar ++ rest ∧
      runEnd b start = start + (chars.flatMap String.utf8EncodeChar).length := by
  induction start using runEnd.induct b with
  | case1 start c read within ih =>
    obtain ⟨after, here⟩ := decodeChar_eq_some_iff.mp read
    obtain ⟨chars, rest, further, ends⟩ := ih
    have size := String.length_utf8EncodeChar c
    have same : b.data.toList.drop (start + c.utf8Size) = after := by
      rw [← List.drop_drop, here, ← size, List.drop_left]
    refine ⟨c :: chars, rest, ?_, ?_⟩
    · rw [here, ← same, further, List.flatMap_cons, List.append_assoc]
    · rw [runEnd_of_encoded here, ends, List.flatMap_cons, List.length_append, size]
      omega
  | case2 start c read outside =>
    have some : (b.utf8DecodeChar? start).isSome := by rw [read]; rfl
    have within := ByteArray.lt_size_of_isSome_utf8DecodeChar? some
    exact absurd within outside
  | case3 start unread =>
    refine ⟨[], b.data.toList.drop start, rfl, ?_⟩
    rw [runEnd, unread]
    rfl

/-- The run goes on for as long as there are characters. -/
theorem le_runEnd {b : ByteArray} {start : Nat} {chars : List Char} {rest : List UInt8}
    (here : b.data.toList.drop start = chars.flatMap String.utf8EncodeChar ++ rest) :
    start + (chars.flatMap String.utf8EncodeChar).length ≤ runEnd b start := by
  induction chars generalizing start with
  | nil =>
    obtain ⟨chars, _, _, ends⟩ := exists_run b start
    rw [ends, List.flatMap_nil, List.length_nil]
    omega
  | cons c chars ih =>
    rw [List.flatMap_cons, List.append_assoc] at here
    have size := String.length_utf8EncodeChar c
    have behind : b.data.toList.drop (start + c.utf8Size) =
        chars.flatMap String.utf8EncodeChar ++ rest := by
      rw [← List.drop_drop, here, ← size, List.drop_left]
    have further := ih behind
    rw [runEnd_of_encoded here, List.flatMap_cons, List.length_append, size]
    omega

/-! ## The longest well-formed head -/

/-- So many bytes are the longest head that is well formed. -/
structure LongestHead (b : List UInt8) (index : Nat) : Prop where
  within : index ≤ b.length
  wellFormed : WellFormed (b.take index)
  longest : ∀ count, index < count → count ≤ b.length → ¬ WellFormed (b.take count)

theorem locate_index (b : List UInt8) : LongestHead b (locate ⟨b.toArray⟩).index := by
  have index : (locate ⟨b.toArray⟩).index = runEnd ⟨b.toArray⟩ 0 := rfl
  have reached : ∀ (chars : List Char) (rest : List UInt8),
      b = chars.flatMap String.utf8EncodeChar ++ rest →
        (chars.flatMap String.utf8EncodeChar).length ≤ runEnd ⟨b.toArray⟩ 0 := by
    intro chars rest split
    have split : (⟨b.toArray⟩ : ByteArray).data.toList.drop 0 =
        chars.flatMap String.utf8EncodeChar ++ rest := split
    have run := le_runEnd split
    omega
  obtain ⟨chars, rest, split, ends⟩ := exists_run ⟨b.toArray⟩ 0
  have split : b = chars.flatMap String.utf8EncodeChar ++ rest := split
  rw [Nat.zero_add] at ends
  rw [index, ends]
  refine ⟨?_, ?_, ?_⟩
  · rw [split, List.length_append]
    exact Nat.le_add_right _ _
  · refine wellFormed_iff.mpr ⟨chars, ?_⟩
    nth_rewrite 1 [split]
    exact List.take_left
  · intro count longer within wellFormed
    obtain ⟨more, head⟩ := wellFormed_iff.mp wellFormed
    have length : (b.take count).length = count := List.length_take_of_le within
    have bound := reached more (b.drop count) (by rw [← head, List.take_append_drop])
    rw [← head, length, ends] at bound
    omega

/-- Bytes are as long as their longest well-formed head only if they are well formed. -/
theorem LongestHead.lt_length {b : List UInt8} {index : Nat} (head : LongestHead b index)
    (garbled : ¬ WellFormed b) : index < b.length := by
  have within := head.within
  by_contra whole
  have same : index = b.length := by omega
  have wellFormed := head.wellFormed
  rw [same, List.take_length] at wellFormed
  exact garbled wellFormed

theorem LongestHead.unique {b : List UInt8} {index other : Nat} (head : LongestHead b index)
    (same : LongestHead b other) : index = other := by
  by_contra differ
  rcases Nat.lt_or_gt_of_ne differ with less | greater
  · exact head.longest other less same.within same.wellFormed
  · exact same.longest index greater head.within head.wellFormed

/-! ## What is reported of the bytes behind it -/

/-- The bytes that are called spoiled are there, and a character has only one more byte than the
most of them. -/
theorem bounds_of_spoiled {b : List UInt8} {count : Nat} (spoils : spoiled b = some count) :
    1 ≤ count ∧ count ≤ 3 ∧ count ≤ b.length := by
  revert spoils
  fun_cases spoiled b
  all_goals
    intro spoils
    cases spoils
    all_goals simp

theorem length_le_of_spoiled_eq_none {b : List UInt8} (short : spoiled b = none) :
    b.length ≤ 3 := by
  revert short
  fun_cases spoiled b
  all_goals
    intro short
    cases short
    all_goals simp

/-- The sentence names the place of the fault. Either it counts the bytes that spoil the text there,
which are three at most, or the bytes end there within a character. -/
theorem locate_message (b : List UInt8) :
    let fault := locate ⟨b.toArray⟩
    (∃ count, 1 ≤ count ∧ count ≤ 3 ∧ fault.index + count ≤ b.length ∧
      fault.message =
        s!"invalid utf-8 sequence of {count} bytes from index {fault.index}") ∨
    (b.length ≤ fault.index + 3 ∧
      fault.message = s!"incomplete utf-8 byte sequence from index {fault.index}") := by
  intro fault
  have within : fault.index ≤ b.length := (locate_index b).within
  have behind : (b.drop fault.index).length = b.length - fault.index := List.length_drop
  have spoils : fault.length = spoiled (b.drop fault.index) := rfl
  rw [Fault.message]
  cases length : fault.length with
  | none =>
    have short := length_le_of_spoiled_eq_none (spoils.symm.trans length)
    exact .inr ⟨by omega, rfl⟩
  | some count =>
    obtain ⟨positive, few, there⟩ := bounds_of_spoiled (spoils.symm.trans length)
    exact .inl ⟨count, positive, few, by omega, rfl⟩

end Findings.Utf8
