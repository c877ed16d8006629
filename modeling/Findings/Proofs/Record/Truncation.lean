import Findings.Proofs.Record.Fields

/-!
Bytes that end too early. A description is written in pieces that are taken from the bytes at once:
the length of a text, its contents, and the score. Wherever its bytes are cut, the reader stops at
the first piece that is no longer wholly there and reports where that piece begins
(`Store.read_torn`), so no description is read from a part of another one.
-/

namespace Findings

namespace Record

/-- The pieces of a description, in the order of the layout. -/
def pieces (r : Record) : List Piece := r.fields.flatMap Field.pieces

theorem run_flatMap_pieces (fields : List Field) :
    Piece.run (fields.flatMap Field.pieces) = fields.flatMap Field.bytes := List.flatMap_assoc

/-- Of pieces in a row from `origin` on, the first that does not lie wholly before `stop` begins at
`start`. -/
def TornAt (origin : Nat) (pieces : List Piece) (stop start : Nat) : Prop :=
  ∃ before piece after, pieces = before ++ piece :: after ∧
    start = origin + (Piece.run before).length ∧
    start ≤ stop ∧ stop < start + piece.bytes.length

/-- Pieces that lie in front are passed over, and those behind do not matter. -/
theorem TornAt.among {origin stop start : Nat} {pieces : List Piece} (front back : List Piece)
    (torn : TornAt (origin + (Piece.run front).length) pieces stop start) :
    TornAt origin (front ++ pieces ++ back) stop start := by
  obtain ⟨before, piece, after, split, begins, reached, short⟩ := torn
  have length : (Piece.run (front ++ before)).length =
      (Piece.run front).length + (Piece.run before).length := by
    simp [Piece.run]
  refine ⟨front ++ before, piece, after ++ back, ?_, ?_, reached, short⟩
  · simp [split]
  · omega

/-- What stands in front of a piece that is not whole is no longer than what stands in front of
another one, since all pieces before that one are whole. -/
theorem TornAt.le {origin stop start other : Nat} {pieces : List Piece}
    (torn : TornAt origin pieces stop start) (same : TornAt origin pieces stop other) :
    other ≤ start := by
  obtain ⟨before, piece, after, split, begins, -, short⟩ := torn
  obtain ⟨before', piece', after', split', begins', reached', -⟩ := same
  rw [split] at split'
  rcases List.append_eq_append_iff.mp split' with ⟨between, front, back⟩ | ⟨between, front, -⟩
  · cases between with
    | nil =>
      rw [List.append_nil] at front
      rw [begins', front, begins]
    | cons first between =>
      -- The piece lies wholly in front of the other one, which begins before the bytes end.
      obtain ⟨same, -⟩ := List.cons.inj back
      subst same
      have past : (Piece.run before').length = (Piece.run before).length +
          (piece.bytes.length + (Piece.run between).length) := by
        simp [Piece.run, front]
      omega
  · have length : (Piece.run before).length =
        (Piece.run before').length + (Piece.run between).length := by
      simp [Piece.run, front]
    omega

/-- Bytes are torn at one place only. -/
theorem TornAt.unique {origin stop start other : Nat} {pieces : List Piece}
    (torn : TornAt origin pieces stop start) (same : TornAt origin pieces stop other) :
    start = other := Nat.le_antisymm (same.le torn) (torn.le same)

/-- Where things in a row are cut short, there is a first that is not whole. -/
theorem exists_cut {α : Type} (bytes : α → List UInt8) {things : List α} {room : Nat}
    (short : room < (things.flatMap bytes).length) :
    ∃ before thing after, things = before ++ thing :: after ∧
      (before.flatMap bytes).length ≤ room ∧
      room < (before.flatMap bytes).length + (bytes thing).length := by
  induction things generalizing room with
  | nil => simp at short
  | cons head rest ih =>
    by_cases here : room < (bytes head).length
    · exact ⟨[], head, rest, rfl, by simp, by simpa using here⟩
    · have later : room - (bytes head).length < (rest.flatMap bytes).length := by
        rw [List.flatMap_cons, List.length_append] at short
        omega
      obtain ⟨before, thing, after, split, reached, cut⟩ := ih later
      refine ⟨head :: before, thing, after, by rw [split]; rfl, ?_, ?_⟩
      all_goals
        rw [List.flatMap_cons, List.length_append]
        omega

/-! ## Reading what is cut short -/

variable {c : Cursor}

theorem take_of_short {count : Nat} (short : c.rest.length < count) :
    take count c = .error (.endOfRecord c.offset) := if_pos short

theorem readWord_of_short (short : c.rest.length < 4) :
    readWord c = .error (.endOfRecord c.offset) := Read.bind_eq_error (take_of_short short)

theorem readContents_of_short {length : Nat} (short : c.rest.length < length) :
    readContents length c = .error (.endOfRecord c.offset) := by
  change (take length c >>= _) = _
  rw [take_of_short short]
  rfl

/-- A field that is cut short is left at the piece that is not whole: at its beginning, or behind
the length of a text. -/
theorem readField_torn {field : Field} {room : Nat} (brief : field.IsBrief)
    (short : room < field.bytes.length) (cut : c.rest = field.bytes.take room) :
    ∃ start, TornAt c.offset field.pieces (c.offset + room) start ∧
      readField field.kind c = .error (.endOfRecord start) := by
  have left : c.rest.length = room := by
    rw [cut, List.length_take]
    omega
  cases field with
  | score x =>
    have four : (Piece.score x).bytes.length = 4 := length_littleEndian 4 _
    have whole : (Field.score x).bytes = (Piece.score x).bytes := List.append_nil _
    rw [whole, four] at short
    refine ⟨c.offset, ⟨[], .score x, [], rfl, rfl, by omega, by omega⟩, ?_⟩
    exact Read.bind_eq_error (Read.bind_eq_error (readWord_of_short (by omega)))
  | text text =>
    have four : (Piece.length text).bytes.length = 4 := by
      cases text <;> exact length_littleEndian 4 _
    by_cases early : room < 4
    · refine ⟨c.offset, ?_, ?_⟩
      · cases text <;> exact ⟨[], .length _, _, rfl, rfl, by omega, by omega⟩
      · exact Read.bind_eq_error (Read.bind_eq_error (readWord_of_short (by omega)))
    · cases text with
      | none =>
        have whole : (Field.text none).bytes = (Piece.length none).bytes := List.append_nil _
        rw [whole, four] at short
        omega
      | some s =>
        have both : (Field.text (some s)).bytes = littleEndian 4 (Utf8.size s) ++ Utf8.bytes s :=
          congrArg _ (List.append_nil _)
        have length : (littleEndian 4 (Utf8.size s)).length = 4 := length_littleEndian 4 _
        have brief : Utf8.size s < absentLength := brief
        have bound : Utf8.size s < 2 ^ 32 := Nat.lt_of_lt_of_le brief (Nat.sub_le _ 1)
        have ends : room < 4 + Utf8.size s := by
          rw [both, List.length_append, length] at short
          exact short
        -- The length is whole, so it is read, and the contents are what is missing.
        let next : Cursor := ⟨c.offset + 4, (Utf8.bytes s).take (room - 4)⟩
        have passes : c.Passes (littleEndian 4 (Utf8.size s)) next := by
          refine ⟨?_, by rw [length]⟩
          rw [cut, both, List.take_append, length, List.take_of_length_le (by omega)]
        have word := readWord_eq_ok_iff.mpr ⟨bound, passes⟩
        have missing : next.rest.length < Utf8.size s := by
          rw [List.length_take]
          omega
        refine ⟨c.offset + 4, ⟨[.length (some s)], .contents s, [], rfl, ?_, by omega, ?_⟩, ?_⟩
        · simp [Piece.run, four]
        · have contents : (Piece.contents s).bytes.length = Utf8.size s := rfl
          omega
        · have text : readText c = .error (.endOfRecord (c.offset + 4)) := by
            rw [readText, Read.bind_eq_of_eq_ok word, if_neg (Nat.ne_of_lt brief)]
            exact Read.bind_eq_error (readContents_of_short missing)
          exact Read.bind_eq_error text

/-- Fields that are cut short behind a header end the reading at the first piece that is not
whole. -/
theorem decode_torn {fields : List Field} (places : fields.map Field.kind = layout)
    (brief : ∀ field ∈ fields, field.IsBrief) (minor : UInt16) {room : Nat}
    (short : room < (fields.flatMap Field.bytes).length) :
    ∃ start, TornAt headerSize (fields.flatMap Field.pieces) (headerSize + room) start ∧
      decode ((⟨1, minor⟩ : Revision).header ++ (fields.flatMap Field.bytes).take room) =
        .error (.endOfRecord start) := by
  obtain ⟨before, field, after, split, reached, cut⟩ := exists_cut Field.bytes short
  subst split
  have passed : ∀ field ∈ before, field.IsBrief := fun field member =>
    brief field (List.mem_append_left _ member)
  have here : field.IsBrief := brief field (by simp)
  have rest : ((before ++ field :: after).flatMap Field.bytes).take room =
      before.flatMap Field.bytes ++
        field.bytes.take (room - (before.flatMap Field.bytes).length) := by
    have within : room - (before.flatMap Field.bytes).length - field.bytes.length = 0 := by omega
    rw [List.flatMap_append, List.flatMap_cons, List.take_append, List.take_append,
      List.take_of_length_le reached, within, List.take_zero, List.append_nil]
  obtain ⟨start, torn, failed⟩ := readField_torn
    (c := ⟨headerSize + (before.flatMap Field.bytes).length, field.bytes.take
      (room - (before.flatMap Field.bytes).length)⟩) here (by omega) rfl
  have order : layout = before.map Field.kind ++ field.kind :: after.map Field.kind := by
    rw [← places, List.map_append, List.map_cons]
  refine ⟨start, ?_, ?_⟩
  · have stop : headerSize + (before.flatMap Field.bytes).length +
        (room - (before.flatMap Field.bytes).length) = headerSize + room := by
      omega
    rw [stop, ← run_flatMap_pieces before] at torn
    have among := torn.among (before.flatMap Field.pieces) (after.flatMap Field.pieces)
    rwa [List.append_assoc, ← List.flatMap_cons, ← List.flatMap_append] at among
  · rw [rest]
    exact decode_of_readField_eq_error minor _ order passed failed

theorem decode_of_tooShort {bytes : List UInt8} (short : bytes.length < headerSize) :
    decode bytes = .error .headerTooShort := by
  unfold decode
  rw [Revision.ofHeader, if_pos short]
  rfl

end Record

namespace Store

open Record

/-- Every torn write is detected, under every minor number. The bytes of a description are a header
and its pieces in a row. Of fewer bytes than all of them none are read as a description: less than a
header is called too short, and otherwise the bytes end within the first piece that is not wholly
there, which is reported with the place where it begins. -/
theorem read_torn (id : String) {r : Record} {bytes : List UInt8} (written : r.encode = .ok bytes)
    (minor : UInt16) {n : Nat} (short : n < bytes.length) :
    let stored := (⟨1, minor⟩ : Revision).header ++ Piece.run r.pieces
    (bytes.length = stored.length ∧ (minor = 0 → stored = bytes)) ∧
    (n < 8 → read id (stored.take n) = .error (.undecodable id "header too short")) ∧
    (8 ≤ n → ∃ p, TornAt 8 r.pieces n p ∧
      read id (stored.take n) =
        .error (.undecodable id s!"unexpected end of record at offset {p}")) := by
  intro stored
  obtain ⟨body, writtenBody, spelled⟩ := encode_eq_ok_iff.mp written
  obtain ⟨brief, fields⟩ := body_eq_ok_iff_fields.mp writtenBody
  have pieces : Piece.run r.pieces = r.fields.flatMap Field.bytes := run_flatMap_pieces r.fields
  have header : ∀ m : UInt16, (⟨1, m⟩ : Revision).header.length = 8 := fun m =>
    Revision.length_header _
  have length : bytes.length = 8 + (r.fields.flatMap Field.bytes).length := by
    rw [spelled, List.length_append, fields, Revision.length_header]
    rfl
  have total : stored.length = 8 + (r.fields.flatMap Field.bytes).length := by
    rw [List.length_append, header, pieces]
  refine ⟨⟨by omega, ?_⟩, ?_, ?_⟩
  · intro least
    subst least
    rw [spelled, fields, ← pieces]
    rfl
  · intro early
    have few : (stored.take n).length < headerSize := by
      rw [List.length_take]
      exact Nat.lt_of_le_of_lt (Nat.min_le_left _ _) early
    rw [read, decode_of_tooShort few]
    rfl
  · intro late
    have room : n - 8 < (r.fields.flatMap Field.bytes).length := by omega
    obtain ⟨start, torn, failed⟩ := decode_torn r.kind_fields brief minor room
    have stop : headerSize + (n - 8) = n := Nat.add_sub_of_le late
    have cut : stored.take n = (⟨1, minor⟩ : Revision).header ++
        (r.fields.flatMap Field.bytes).take (n - 8) := by
      rw [List.take_append, header, pieces, List.take_of_length_le (by rw [header]; exact late)]
    rw [stop] at torn
    refine ⟨start, torn, ?_⟩
    rw [cut, read, failed]
    rfl

/-- The severity is torn between the two bytes of its only letter, under a minor number that
tolerates bytes at the end. Its contents begin at the eightieth byte. -/
theorem read_torn_within_letter :
    severe.encode = .ok severeBytes ∧ 81 < severeBytes.length ∧ TornAt 8 severe.pieces 81 80 ∧
      read "CVE-1" (((⟨1, 7⟩ : Revision).header ++ Piece.run severe.pieces).take 81) =
        .error (.undecodable "CVE-1" "unexpected end of record at offset 80") := by
  have encoded : severe.encode = .ok severeBytes := by decide +kernel
  have short : 81 < severeBytes.length := by decide
  have letter : TornAt 8 severe.pieces 81 80 := by
    refine ⟨severe.pieces.take 18, .contents "é", severe.pieces.drop 19, ?_, ?_, ?_, ?_⟩
    all_goals decide +kernel
  obtain ⟨p, torn, told⟩ := (read_torn "CVE-1" encoded 7 short).2.2 (by decide)
  rw [torn.unique letter] at told
  exact ⟨encoded, short, letter, told⟩

end Store

end Findings
