import Findings.Proofs.Record.Fields
import Findings.Proofs.Text.WellFormed

/-!
Contents that are no text. Where the contents of a text are all there and not well formed, the
reader stops: it reports the place where they begin, and how many of their bytes are well formed
(`Store.read_garbled`). The bytes behind them are not looked at.
-/

namespace Findings

namespace Record

variable {c d : Cursor}

theorem readContents_of_garbled {contents : List UInt8} (garbled : ¬ Utf8.WellFormed contents)
    (passes : c.Passes contents d) :
    readContents contents.length c =
      .error (.invalidText c.offset (Utf8.locate ⟨contents.toArray⟩)) := by
  have taken := take_eq_ok_iff.mpr ⟨rfl, passes⟩
  have refused := Utf8.decode_eq_error_iff.mpr ⟨garbled, rfl⟩
  change (take contents.length c >>= _) = _
  rw [taken]
  simp only [bind, Except.bind, refused]
  rfl

/-- The length of a text is read whatever its contents are, and then they are refused. -/
theorem readText_of_garbled {contents : List UInt8} (brief : contents.length < absentLength)
    (garbled : ¬ Utf8.WellFormed contents)
    (passes : c.Passes (littleEndian 4 contents.length ++ contents) d) :
    readText c = .error (.invalidText (c.offset + 4) (Utf8.locate ⟨contents.toArray⟩)) := by
  obtain ⟨next, passesLength, passesContents⟩ := Cursor.passes_append.mp passes
  have bound : contents.length < 2 ^ 32 := Nat.lt_of_lt_of_le brief (Nat.sub_le _ 1)
  have length := readWord_eq_ok_iff.mpr ⟨bound, passesLength⟩
  have begins : next.offset = c.offset + 4 := by
    rw [passesLength.offset, length_littleEndian]
  have refused := readContents_of_garbled garbled passesContents
  rw [begins] at refused
  rw [readText, Read.bind_eq_of_eq_ok length, if_neg (Nat.ne_of_lt brief)]
  exact Read.bind_eq_error refused

end Record

namespace Store

open Record

/-- Contents that are not well formed are located exactly, and before anything that follows them.
Behind a header of the first major number and any number of well-formed fields, the reader reports
the place where the contents begin, and in words what is wrong with them, with the place within the
contents where it is: behind the longest head of them that is well formed. The rest of the bytes may
be anything. -/
theorem read_garbled (id : String) (minor : UInt16) {fields : List Field} {more : List Kind}
    (places : layout = fields.map Field.kind ++ .text :: more)
    (brief : ∀ field ∈ fields, field.IsBrief) {contents : List UInt8}
    (fits : contents.length < absentLength) (garbled : ¬ Utf8.WellFormed contents)
    (rest : List UInt8) :
    let front := (⟨1, minor⟩ : Revision).header ++ fields.flatMap Field.bytes ++
      littleEndian 4 contents.length
    front.length = 8 + (fields.flatMap Field.bytes).length + 4 ∧
      ∃ index sentence, Utf8.LongestHead contents index ∧ index < contents.length ∧
        ((∃ count, 1 ≤ count ∧ count ≤ 3 ∧ index + count ≤ contents.length ∧
            sentence = s!"invalid utf-8 sequence of {count} bytes from index {index}") ∨
          (contents.length ≤ index + 3 ∧
            sentence = s!"incomplete utf-8 byte sequence from index {index}")) ∧
        read id (front ++ contents ++ rest) =
          .error (.undecodable id s!"invalid UTF-8 at offset {front.length}: {sentence}") := by
  intro front
  have begins : front.length = 8 + (fields.flatMap Field.bytes).length + 4 := by
    rw [List.length_append, List.length_append, Revision.length_header, length_littleEndian]
    rfl
  have head := Utf8.locate_index contents
  refine ⟨begins, _, _, head, head.lt_length garbled, Utf8.locate_message contents, ?_⟩
  have text := readText_of_garbled fits garbled
    (Cursor.passes_next (headerSize + (fields.flatMap Field.bytes).length)
      (littleEndian 4 contents.length ++ contents) rest)
  have refused := decode_of_readField_eq_error minor
    (littleEndian 4 contents.length ++ contents ++ rest) places brief (Read.bind_eq_error text)
  have same : front ++ contents ++ rest = (⟨1, minor⟩ : Revision).header ++
      (fields.flatMap Field.bytes ++ (littleEndian 4 contents.length ++ contents ++ rest)) := by
    simp only [front, List.append_assoc]
  rw [same, read, refused, begins]
  rfl

/-- The second text is a letter and an overlong spelling of a slash, and nothing follows it. The
first byte of the slash leads nothing, so it spoils the text alone. -/
theorem read_garbled_overlong :
    layout = [Field.text none].map Field.kind ++ .text :: layout.drop 2 ∧
      ¬ Utf8.WellFormed [0x61, 0xC0, 0xAF] ∧ Utf8.LongestHead [0x61, 0xC0, 0xAF] 1 ∧
      read "CVE-1" ((⟨1, 0⟩ : Revision).header ++ [0xFF, 0xFF, 0xFF, 0xFF] ++ [3, 0, 0, 0] ++
          [0x61, 0xC0, 0xAF]) =
        .error (.undecodable "CVE-1"
          "invalid UTF-8 at offset 16: invalid utf-8 sequence of 1 bytes from index 1") := by
  have refused : Utf8.decode [0x61, 0xC0, 0xAF] = .error ⟨1, some 1⟩ := by decide +kernel
  obtain ⟨garbled, located⟩ := Utf8.decode_eq_error_iff.mp refused
  have places : layout = [Field.text none].map Field.kind ++ .text :: layout.drop 2 := rfl
  have brief : ∀ field ∈ [Field.text none], field.IsBrief := by simp [Field.IsBrief]
  obtain ⟨-, index, sentence, head, -⟩ :=
    read_garbled "CVE-1" 0 places brief (by decide) garbled []
  have longest := Utf8.locate_index [0x61, 0xC0, 0xAF]
  rw [← located] at longest
  rw [head.unique longest] at head
  refine ⟨places, garbled, head, ?_⟩
  decide +kernel

end Store

end Findings
