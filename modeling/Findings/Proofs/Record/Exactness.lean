import Findings.Proofs.Record.RoundTrip

/-!
Stored bytes have one spelling. What is read was written: bytes that are accepted are a header of
the first major number, the very body that is written for the description, and behind it only what
a newer minor number may append (`Record.decode_eq_ok_iff`). So there is no second spelling of a
description under the current revision (`Store.read_accepts_only_written`).
-/

namespace Findings

namespace Record

theorem encode_eq_ok_iff {r : Record} {bytes : List UInt8} :
    r.encode = .ok bytes ↔ ∃ body, r.body = .ok body ∧ bytes = Revision.current.header ++ body := by
  constructor
  · intro written
    obtain ⟨body, writtenBody, returned⟩ := bind_eq_ok_iff.mp written
    cases returned
    exact ⟨body, writtenBody, rfl⟩
  · rintro ⟨body, writtenBody, rfl⟩
    exact encode_of_body writtenBody

/-- Bytes are read as a description exactly if its body stands in them behind a header of the first
major number, with nothing behind it under the current minor number. -/
theorem decode_eq_ok_iff {bytes : List UInt8} {r : Record} :
    decode bytes = .ok r ↔ ∃ (minor : UInt16) (body tail : List UInt8), r.body = .ok body ∧
      bytes = (⟨1, minor⟩ : Revision).header ++ body ++ tail ∧ (minor = 0 → tail = []) := by
  constructor
  · intro read
    obtain ⟨⟨major, minor⟩, header, later⟩ := bind_eq_ok_iff.mp read
    obtain ⟨rest, rfl⟩ := Revision.ofHeader_eq_ok_iff.mp header
    dsimp only at later
    by_cases foreign : major ≠ Revision.current.major
    · rw [if_pos foreign] at later
      cases later
    · rw [if_neg foreign, List.drop_left' (Revision.length_header _)] at later
      obtain ⟨⟨_, next⟩, fields, returned⟩ := bind_eq_ok_iff.mp later
      dsimp only at returned
      by_cases refused : next.rest ≠ [] ∧ minor ≤ Revision.current.minor
      · rw [if_pos refused] at returned
        cases returned
      · rw [if_neg refused] at returned
        cases returned
        obtain ⟨body, written, passes⟩ := readFields_eq_ok_iff.mp fields
        have behind : rest = body ++ next.rest := passes.rest
        have known : major = 1 := Decidable.not_not.mp foreign
        refine ⟨minor, body, next.rest, written, ?_, fun least => ?_⟩
        · rw [behind, List.append_assoc, known]
        · by_contra trailing
          exact refused ⟨trailing, UInt16.le_zero_iff.mpr least⟩
  · rintro ⟨minor, body, tail, written, rfl, whole⟩
    rw [decode_header_append written, if_neg fun refused => refused.2 (whole refused.1)]

/-! ## Headers of the first major number -/

/-- The places of bytes whose header leaves only its minor number open. -/
theorem header_append_pieces (minor : UInt16) (body tail : List UInt8) :
    let bytes := (⟨1, minor⟩ : Revision).header ++ body ++ tail
    bytes.take 6 = magic ++ littleEndian 2 1 ∧
      (bytes.drop 6).take 2 = littleEndian 2 minor.toNat ∧ bytes.drop 8 = body ++ tail :=
  ⟨rfl, rfl, rfl⟩

theorem minor_eq_zero {minor : UInt16} (zeros : littleEndian 2 minor.toNat = [0, 0]) :
    minor = 0 := by
  have number := Revision.ofLittleEndian_two minor
  rw [zeros] at number
  exact number.symm

/-- Under the current minor number the bytes that are read are the bytes that are written. -/
theorem encode_of_decode {bytes : List UInt8} {r : Record} (accepted : decode bytes = .ok r)
    (current : (bytes.drop 6).take 2 = [0, 0]) : r.encode = .ok bytes := by
  obtain ⟨minor, body, tail, written, rfl, whole⟩ := decode_eq_ok_iff.mp accepted
  obtain ⟨-, places, -⟩ := header_append_pieces minor body tail
  have least : minor = 0 := minor_eq_zero (places.symm.trans current)
  rw [whole least, List.append_nil, least]
  exact encode_of_body written

/-- Under any minor number the bytes that are read are written again up to the minor number and
what stands behind the body. -/
theorem encode_of_decode_newer {bytes : List UInt8} {r : Record} (accepted : decode bytes = .ok r) :
    ∃ count, r.encode = .ok (bytes.take 6 ++ [0, 0] ++ (bytes.drop 8).take count) := by
  obtain ⟨minor, body, tail, written, rfl, -⟩ := decode_eq_ok_iff.mp accepted
  obtain ⟨front, -, behind⟩ := header_append_pieces minor body tail
  refine ⟨body.length, ?_⟩
  rw [front, behind, List.take_left]
  exact encode_of_body written

end Record

namespace Store

open Record (littleEndian)

theorem read_eq_ok_iff {id : String} {bytes : List UInt8} {r : Record} :
    read id bytes = .ok r ↔ Record.decode bytes = .ok r := by
  unfold read
  cases Record.decode bytes with
  | error fault => exact ⟨nofun, nofun⟩
  | ok other => rw [Except.ok.injEq, Except.ok.injEq]

theorem read_of_encode {id : String} {bytes : List UInt8} {r : Record}
    (encoded : r.encode = .ok bytes) : read id bytes = .ok r := by
  obtain ⟨body, written, rfl⟩ := Record.encode_eq_ok_iff.mp encoded
  refine read_eq_ok_iff.mpr (Record.decode_eq_ok_iff.mpr ⟨0, body, [], written, ?_, fun _ => rfl⟩)
  exact (List.append_nil _).symm

/-- Bytes are accepted exactly if they are the letters, the first major number, some minor number,
the very body that is written for the description, and a tail, which the current minor number does
not allow. Hence writing the description again gives the same bytes up to the minor number and the
tail, and exactly the same bytes under the current minor number; so no two byte strings under that
number are read as one description. -/
theorem read_accepts_only_written (id : String) (bytes : List UInt8) (r : Record) :
    (read id bytes = .ok r ↔ ∃ (minor : UInt16) (body tail : List UInt8),
      r.encode = .ok (Record.magic ++ littleEndian 2 1 ++ littleEndian 2 0 ++ body) ∧
      bytes = Record.magic ++ littleEndian 2 1 ++ littleEndian 2 minor.toNat ++ body ++ tail ∧
      (minor = 0 → tail = [])) ∧
    (read id bytes = .ok r →
      (∃ count, r.encode = .ok (bytes.take 6 ++ [0, 0] ++ (bytes.drop 8).take count)) ∧
      ((bytes.drop 6).take 2 = [0, 0] → r.encode = .ok bytes ∧
        ∀ id' other, read id' other = .ok r → (other.drop 6).take 2 = [0, 0] → other = bytes)) := by
  refine ⟨?_, fun accepted => ⟨?_, fun current => ?_⟩⟩
  · rw [read_eq_ok_iff, Record.decode_eq_ok_iff]
    constructor
    · rintro ⟨minor, body, tail, written, spelled, whole⟩
      exact ⟨minor, body, tail, Record.encode_of_body written, spelled, whole⟩
    · rintro ⟨minor, body, tail, encoded, spelled, whole⟩
      obtain ⟨body', written, same⟩ := Record.encode_eq_ok_iff.mp encoded
      have bodies : body = body' := List.append_cancel_left same
      exact ⟨minor, body, tail, bodies ▸ written, spelled, whole⟩
  · exact Record.encode_of_decode_newer (read_eq_ok_iff.mp accepted)
  · have encoded := Record.encode_of_decode (read_eq_ok_iff.mp accepted) current
    refine ⟨encoded, fun id' other accepted' current' => ?_⟩
    have encoded' := Record.encode_of_decode (read_eq_ok_iff.mp accepted') current'
    exact Except.ok.inj (encoded'.symm.trans encoded)

/-- The body of a description whose only text is its severity. -/
def severeBody : List UInt8 :=
  List.replicate 60 0xFF ++ [0, 0, 0xC0, 0x7F] ++ List.replicate 4 0xFF ++
    [2, 0, 0, 0, 0xC3, 0xA9] ++ List.replicate 4 0xFF

/-- The bytes of that description under the current revision. -/
def severeBytes : List UInt8 := [0x56, 0x44, 0x44, 0x53, 1, 0, 0, 0] ++ severeBody

/-- A description whose only text is its severity, with a score that is no number. -/
def severe : Record where
  score := ⟨0x7FC00000⟩
  severity := some "é"

/-- Under a newer minor number with three bytes appended, and under the current one. -/
theorem read_accepts_only_written_severe :
    let newer : List UInt8 := [0x56, 0x44, 0x44, 0x53, 1, 0, 7, 0] ++ severeBody ++ [1, 2, 3]
    read "CVE-1" newer = .ok severe ∧ read "CVE-1" severeBytes = .ok severe ∧
      (∃ count, severe.encode = .ok (newer.take 6 ++ [0, 0] ++ (newer.drop 8).take count)) ∧
      severe.encode = .ok severeBytes := by
  have newer : read "CVE-1" ([0x56, 0x44, 0x44, 0x53, 1, 0, 7, 0] ++ severeBody ++ [1, 2, 3]) =
      .ok severe := by decide +kernel
  have current : read "CVE-1" severeBytes = .ok severe := by decide +kernel
  exact ⟨newer, current, ((read_accepts_only_written _ _ _).2 newer).1,
    (((read_accepts_only_written _ _ _).2 current).2 rfl).1⟩

end Store

end Findings
