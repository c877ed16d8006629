import Mathlib.Data.List.Basic
import Findings.Proofs.Record.Truncation

/-!
Reading by places. A reader over a whole buffer holds all bytes and the position it has come to, and
takes bytes from between two places. Differences and slices are only there within the buffer, and a
reader that is refused keeps its position, so that reading may go on from there. Such a reader does
what the reader of `Record.decode` does with the bytes that are left (`Scan.Matches`), and it never
asks for anything outside of its buffer, whatever the bytes are (`Reader.reads_stay_within`).
-/

namespace Findings.Record

/-! ## Readers over a whole buffer -/

/-- The difference of two numbers, if it is not below zero. -/
def minus? (a b : Nat) : Option Nat := if b ≤ a then some (a - b) else none

/-- The bytes from one place up to another, if both are places of the buffer and in this order. -/
def slice? (bytes : List UInt8) (start stop : Nat) : Option (List UInt8) :=
  if start ≤ stop ∧ stop ≤ bytes.length then some ((bytes.drop start).take (stop - start)) else none

/-- All bytes, and the place that reading has come to. -/
structure Reader where
  bytes : List UInt8
  position : Nat
  deriving DecidableEq

/-- A step of a reader over a whole buffer. It answers or is refused, and either way it leaves the
reader somewhere; it comes to nothing if it asks for what is outside of the buffer. -/
abbrev Scan := ExceptT Fault (StateT Reader Option)

namespace Reader

/-- The reader behind a header. -/
def start (bytes : List UInt8) : Reader := ⟨bytes, headerSize⟩

/-- The number of bytes that are left. -/
def remaining? (r : Reader) : Option Nat := minus? r.bytes.length r.position

/-- Takes the next bytes, as many as are asked for. -/
def take (count : Nat) : Scan (List UInt8) := fun r => do
  let remaining ← r.remaining?
  if remaining < count then return (.error (.endOfRecord r.position), r)
  let bytes ← slice? r.bytes r.position (r.position + count)
  return (.ok bytes, { r with position := r.position + count })

/-- Reads a number of four bytes. -/
def word : Scan Nat := do
  let bytes ← take 4
  let first ← bytes[0]?
  let second ← bytes[1]?
  let third ← bytes[2]?
  let fourth ← bytes[3]?
  return ofLittleEndian [first, second, third, fourth]

/-- Reads a score. -/
def score : Scan Number.Single := do
  let word ← word
  return ⟨UInt32.ofNat word⟩

/-- Reads the contents of a text of a known length. -/
def contents (length : Nat) : Scan String := do
  let offset := (← get).position
  let bytes ← take length
  match Utf8.decode bytes with
  | .ok s => return s
  | .error fault => throw (.invalidText offset fault)

/-- Reads a text. -/
def text : Scan (Option String) := do
  let length ← word
  if length = absentLength then return none
  let contents ← contents length
  return some contents

/-- What is left of the bytes. -/
def cursor (r : Reader) : Cursor := ⟨r.position, r.bytes.drop r.position⟩

/-- A reader goes on in its buffer, does not go back and does not pass the end. -/
structure Advances (r next : Reader) : Prop where
  bytes : next.bytes = r.bytes
  forward : r.position ≤ next.position
  within : next.position ≤ next.bytes.length

theorem Advances.refl {r : Reader} (within : r.position ≤ r.bytes.length) : r.Advances r :=
  ⟨rfl, Nat.le_refl _, within⟩

theorem Advances.trans {r next last : Reader} (first : r.Advances next)
    (second : next.Advances last) :
    r.Advances last :=
  ⟨second.bytes.trans first.bytes, Nat.le_trans first.forward second.forward, second.within⟩

variable {r : Reader} {count : Nat}

theorem remaining?_of_within (within : r.position ≤ r.bytes.length) :
    r.remaining? = some (r.bytes.length - r.position) := if_pos within

/-- Bytes are refused if fewer are left, and the reader stays where it is. -/
theorem take_of_short (within : r.position ≤ r.bytes.length)
    (short : r.bytes.length - r.position < count) :
    take count r = some (.error (.endOfRecord r.position), r) := by
  unfold take
  rw [remaining?_of_within within]
  exact if_pos short

/-- Bytes are taken if as many are left. -/
theorem take_of_enough (enough : r.position + count ≤ r.bytes.length) :
    take count r =
      some (.ok ((r.bytes.drop r.position).take count),
        { r with position := r.position + count }) := by
  have within : r.position ≤ r.bytes.length := Nat.le_of_add_right_le enough
  have left : ¬ r.bytes.length - r.position < count := by omega
  have between : slice? r.bytes r.position (r.position + count) =
      some ((r.bytes.drop r.position).take count) := by
    rw [slice?, if_pos ⟨Nat.le_add_right _ _, enough⟩, Nat.add_sub_cancel_left]
  unfold take
  rw [remaining?_of_within within]
  change (if _ then _ else _) = _
  rw [if_neg left, between]
  rfl

end Reader

/-! ## The two readers agree -/

section Agreement

variable {α β : Type} {scan : Scan α} {read : Read α} {further : α → Scan β} {later : α → Read β}
  {r next : Reader}

theorem Scan.bind_of_ok {a : α} (scanned : scan r = some (.ok a, next)) :
    (scan >>= further) r = further a next := by
  change (scan r >>= fun x => ExceptT.bindCont further x.1 x.2) = _
  rw [scanned]
  rfl

theorem Scan.bind_of_error {fault : Fault} (refused : scan r = some (.error fault, next)) :
    (scan >>= further) r = some (.error fault, next) := by
  change (scan r >>= fun x => ExceptT.bindCont further x.1 x.2) = _
  rw [refused]
  rfl

/-- A step over a whole buffer stays within it and does what a step of reading does with the bytes
that are left; where bytes are refused, it reports the position it is left at. -/
def Scan.Matches (scan : Scan α) (read : Read α) : Prop :=
  ∀ r : Reader, r.position ≤ r.bytes.length → ∃ answer next, scan r = some (answer, next) ∧
    r.Advances next ∧ read r.cursor = answer.map (fun a => (a, next.cursor)) ∧
    ∀ start, answer = .error (.endOfRecord start) → next.position = start

namespace Scan.Matches

theorem pure (a : α) : Matches (Pure.pure a : Scan α) (Pure.pure a) :=
  fun r within => ⟨.ok a, r, rfl, .refl within, rfl, nofun⟩

/-- Steps that agree may follow each other. The second has to agree for what the first can
answer. -/
theorem bind (first : Matches scan read)
    (second : ∀ a c d, read c = .ok (a, d) → Matches (further a) (later a)) :
    Matches (scan >>= further) (read >>= later) := by
  intro r within
  obtain ⟨answer, next, scanned, advances, answered, reported⟩ := first r within
  cases answer with
  | error fault =>
    refine ⟨.error fault, next, bind_of_error scanned, advances, Read.bind_eq_error answered, ?_⟩
    intro start refused
    cases refused
    exact reported start rfl
  | ok a =>
    obtain ⟨final, last, scanned', advances', answered', reported'⟩ :=
      second a r.cursor next.cursor answered next advances.within
    refine ⟨final, last, ?_, advances.trans advances', ?_, reported'⟩
    · rw [bind_of_ok scanned]
      exact scanned'
    · rw [Read.bind_eq_of_eq_ok answered]
      exact answered'

theorem map (f : α → β) (agrees : Matches scan read) :
    Matches (scan >>= fun a => Pure.pure (f a)) (read >>= fun a => Pure.pure (f a)) :=
  agrees.bind fun a _ _ _ => .pure (f a)

end Scan.Matches

end Agreement

namespace Reader

open Scan

theorem length_rest_cursor (r : Reader) : r.cursor.rest.length = r.bytes.length - r.position :=
  List.length_drop

theorem take_matches (count : Nat) : Matches (take count) (Record.take count) := by
  intro r within
  have left := r.length_rest_cursor
  by_cases short : r.bytes.length - r.position < count
  · refine ⟨_, r, take_of_short within short, .refl within, ?_, fun start refused => ?_⟩
    · apply Record.take_of_short
      rwa [left]
    · cases refused
      rfl
  · have enough : r.position + count ≤ r.bytes.length := by omega
    refine ⟨_, _, take_of_enough enough, ⟨rfl, Nat.le_add_right _ _, enough⟩, ?_, nofun⟩
    rw [Record.take, if_neg (left ▸ short)]
    change Except.ok (_, (⟨_, (r.bytes.drop r.position).drop count⟩ : Cursor)) = _
    rw [List.drop_drop]
    rfl

theorem word_matches : Matches word readWord := by
  apply (take_matches 4).bind
  intro bytes c d read
  have four := (take_eq_ok_iff.mp read).1
  match bytes, four with
  | [first, second, third, fourth], _ => exact .pure _

theorem score_matches : Matches score readScore := word_matches.map _

theorem contents_matches (length : Nat) : Matches (contents length) (readContents length) := by
  intro r within
  obtain ⟨answer, next, scanned, advances, answered, reported⟩ := take_matches length r within
  have begun : contents length r = (take length >>= fun bytes => match Utf8.decode bytes with
      | .ok s => Pure.pure s
      | .error fault => throw (.invalidText r.position fault)) r := rfl
  have read : readContents length r.cursor = (Record.take length r.cursor >>= fun taken =>
      match Utf8.decode taken.1 with
      | .ok s => Pure.pure (s, taken.2)
      | .error fault => throw (.invalidText r.position fault)) := rfl
  rw [begun, read, answered]
  cases answer with
  | error fault =>
    refine ⟨.error fault, next, bind_of_error scanned, advances, rfl, ?_⟩
    intro start refused
    cases refused
    exact reported start rfl
  | ok bytes =>
    rw [bind_of_ok scanned]
    dsimp only [Except.map, Bind.bind, Except.bind]
    cases Utf8.decode bytes with
    | ok s => exact ⟨.ok s, next, rfl, advances, rfl, nofun⟩
    | error fault =>
      exact ⟨.error (.invalidText r.position fault), next, rfl, advances, rfl, nofun⟩

theorem text_matches : Matches text readText := by
  apply word_matches.bind
  intro length c d read
  by_cases absent : length = absentLength
  · rw [if_pos absent, if_pos absent]
    exact .pure none
  · rw [if_neg absent, if_neg absent]
    exact (contents_matches length).map some

end Reader

/-! ## Whole descriptions -/

/-- Reads the revision in a header by the places of its bytes. -/
def Revision.ofPlaces (bytes : List UInt8) : Option (Except Fault Revision) := do
  if bytes.length < headerSize then return .error .headerTooShort
  let mark ← slice? bytes 0 4
  if mark ≠ magic then return .error .badMagic
  let major ← bytes[4]?
  let major' ← bytes[5]?
  let minor ← bytes[6]?
  let minor' ← bytes[7]?
  return .ok ⟨UInt16.ofNat (ofLittleEndian [major, major']),
    UInt16.ofNat (ofLittleEndian [minor, minor'])⟩

theorem Revision.ofPlaces_eq (bytes : List UInt8) : ofPlaces bytes = some (ofHeader bytes) := by
  by_cases short : bytes.length < headerSize
  · rw [ofPlaces, ofHeader, if_pos short, if_pos short]
    rfl
  · obtain ⟨mark, major, minor, rest, rfl, four, twoMajor, twoMinor⟩ :=
      exists_pieces (Nat.not_lt.mp short)
    rw [ofHeader_append four twoMajor twoMinor, ofPlaces, if_neg short]
    obtain ⟨a, b, c, d, rfl⟩ := List.length_eq_four.mp four
    obtain ⟨e, f, rfl⟩ := List.length_eq_two.mp twoMajor
    obtain ⟨g, h, rfl⟩ := List.length_eq_two.mp twoMinor
    have front : slice? ([a, b, c, d] ++ [e, f] ++ [g, h] ++ rest) 0 4 = some [a, b, c, d] :=
      if_pos ⟨Nat.zero_le 4, by simp⟩
    rw [front]
    change (if [a, b, c, d] ≠ magic then _ else _) = some (if [a, b, c, d] ≠ magic then _ else _)
    split <;> rfl

namespace Reader

open Scan

/-- Reads the field at a place. -/
def field : Kind → Scan Field
  | .text => do return .text (← text)
  | .score => do return .score (← score)

/-- Reads fields, one after the other. -/
def fields : List Kind → Scan (List Field)
  | [] => return []
  | kind :: rest => do
    let first ← field kind
    let others ← fields rest
    return first :: others

/-- Reads a description from a whole buffer. -/
def decode (bytes : List UInt8) : Option (Except Fault Record) := do
  match ← Revision.ofPlaces bytes with
  | .error fault => return .error fault
  | .ok revision =>
    if revision.major ≠ Revision.current.major then return .error (.unsupported revision)
    match ← fields layout (start bytes) with
    | (.error fault, _) => return .error fault
    | (.ok fields, reader) =>
      let left ← reader.remaining?
      if 0 < left ∧ revision.minor ≤ Revision.current.minor then return .error (.trailing left)
      return .ok (ofFields fields)

theorem field_matches (kind : Kind) : Matches (field kind) (readField kind) := by
  cases kind with
  | text => exact text_matches.map Field.text
  | score => exact score_matches.map Field.score

theorem fields_matches (kinds : List Kind) : Matches (fields kinds) (readAll kinds) := by
  induction kinds with
  | nil => exact .pure []
  | cons kind rest ih =>
    apply (field_matches kind).bind
    intro first _ _ _
    exact ih.map (first :: ·)

/-- Reading by places comes to what reading comes to, whatever the bytes are. -/
theorem decode_eq (bytes : List UInt8) : decode bytes = some (Record.decode bytes) := by
  unfold decode Record.decode
  rw [Revision.ofPlaces_eq]
  cases header : Revision.ofHeader bytes with
  | error fault => rfl
  | ok revision =>
    obtain ⟨rest, written⟩ := Revision.ofHeader_eq_ok_iff.mp header
    have enough : headerSize ≤ bytes.length := by
      rw [written, List.length_append, Revision.length_header]
      exact Nat.le_add_right _ _
    obtain ⟨answer, next, scanned, advances, answered, -⟩ :=
      fields_matches layout (start bytes) enough
    have read : readFields ⟨headerSize, bytes.drop headerSize⟩ =
        answer.map fun fields => (ofFields fields, next.cursor) := by
      rw [readFields_eq_readAll]
      cases answer with
      | error fault => exact Read.bind_eq_error answered
      | ok fields => exact Read.bind_eq_of_eq_ok answered
    have left : next.remaining? = some next.cursor.rest.length := by
      rw [remaining?_of_within advances.within, length_rest_cursor]
    change (if revision.major ≠ Revision.current.major then _ else
        fields layout (start bytes) >>= _) =
      some (if revision.major ≠ Revision.current.major then _ else
        readFields ⟨headerSize, bytes.drop headerSize⟩ >>= _)
    by_cases foreign : revision.major ≠ Revision.current.major
    · rw [if_pos foreign, if_pos foreign]
      rfl
    · rw [if_neg foreign, if_neg foreign, scanned, read]
      cases answer with
      | error fault => rfl
      | ok fields =>
        -- Both readers ask whether bytes are left that the revision does not allow.
        change (next.remaining? >>= fun left =>
            if 0 < left ∧ revision.minor ≤ Revision.current.minor then _ else _) =
          some (if next.cursor.rest ≠ [] ∧ revision.minor ≤ Revision.current.minor then _ else _)
        rw [left]
        change (if 0 < next.cursor.rest.length ∧ _ then _ else _) = _
        simp only [List.length_pos_iff]
        split <;> rfl

end Reader

/-! ## Reads in any order -/

/-- What a reader can be asked for. -/
inductive Demand where
  | word
  | score
  | text
  deriving DecidableEq, Repr

/-- What a reader answers. -/
inductive Item where
  | word (n : Nat)
  | score (x : Number.Single)
  | text (t : Option String)

namespace Demand

/-- The read over a whole buffer. -/
def scan : Demand → Scan Item
  | word => do return .word (← Reader.word)
  | score => do return .score (← Reader.score)
  | text => do return .text (← Reader.text)

/-- The read from what is left of the bytes. -/
def read : Demand → Read Item
  | word => do return .word (← readWord)
  | score => do return .score (← readScore)
  | text => do return .text (← readText)

/-- The number of bytes a read needs of those that are left: a text needs four for its length, and
then as many as the length says unless that stands for an absent text. -/
def needed (left : List UInt8) : Demand → Nat
  | word => 4
  | score => 4
  | text =>
    if left.length < 4 ∨ ofLittleEndian (left.take 4) = absentLength then 4
    else 4 + ofLittleEndian (left.take 4)

theorem scan_matches (demand : Demand) : Scan.Matches demand.scan demand.read := by
  cases demand with
  | word => exact Reader.word_matches.map Item.word
  | score => exact Reader.score_matches.map Item.score
  | text => exact Reader.text_matches.map Item.text

section Outcomes

variable {c : Cursor}

theorem readWord_of_enough (enough : 4 ≤ c.rest.length) :
    readWord c = .ok (ofLittleEndian (c.rest.take 4), ⟨c.offset + 4, c.rest.drop 4⟩) := by
  have taken : take 4 c = .ok (c.rest.take 4, ⟨c.offset + 4, c.rest.drop 4⟩) :=
    if_neg (Nat.not_lt.mpr enough)
  exact Read.bind_eq_of_eq_ok taken

/-- The contents of a text are refused if bytes are missing, and if they are not well formed. -/
theorem readContents_cases (length : Nat) (c : Cursor) :
    (c.rest.length < length ∧ readContents length c = .error (.endOfRecord c.offset)) ∨
      length ≤ c.rest.length ∧
        ((∃ s, readContents length c = .ok (s, ⟨c.offset + length, c.rest.drop length⟩)) ∨
          ∃ fault, Utf8.decode (c.rest.take length) = .error fault ∧
            readContents length c = .error (.invalidText c.offset fault)) := by
  by_cases short : c.rest.length < length
  · exact .inl ⟨short, readContents_of_short short⟩
  · have taken : take length c =
        .ok (c.rest.take length, ⟨c.offset + length, c.rest.drop length⟩) := if_neg short
    have begun : readContents length c = match Utf8.decode (c.rest.take length) with
        | .ok s => .ok (s, ⟨c.offset + length, c.rest.drop length⟩)
        | .error fault => .error (.invalidText c.offset fault) := by
      change (take length c >>= _) = _
      rw [taken]
      rfl
    refine .inr ⟨Nat.not_lt.mp short, ?_⟩
    cases decoded : Utf8.decode (c.rest.take length) with
    | ok s =>
      rw [decoded] at begun
      exact .inl ⟨s, begun⟩
    | error fault =>
      rw [decoded] at begun
      exact .inr ⟨fault, rfl, begun⟩

/-- A text is refused if bytes are missing for its length or for its contents; if none are missing,
it is read unless its contents are not well formed. -/
theorem readText_cases (c : Cursor) :
    let needed := Demand.text.needed c.rest
    (c.rest.length < needed ∧ ∃ start, readText c = .error (.endOfRecord start)) ∨
      needed ≤ c.rest.length ∧
        ((∃ text, readText c = .ok (text, ⟨c.offset + needed, c.rest.drop needed⟩)) ∨
          ∃ fault, Utf8.decode ((c.rest.drop 4).take (needed - 4)) = .error fault ∧
            readText c = .error (.invalidText (c.offset + 4) fault)) := by
  intro needed
  by_cases few : c.rest.length < 4
  · have four : needed = 4 := if_pos (.inl few)
    rw [four]
    exact .inl ⟨few, c.offset, Read.bind_eq_error (readWord_of_short few)⟩
  · have word := readWord_of_enough (Nat.not_lt.mp few)
    by_cases absent : ofLittleEndian (c.rest.take 4) = absentLength
    · have four : needed = 4 := if_pos (.inr absent)
      have read : readText c = .ok (none, ⟨c.offset + 4, c.rest.drop 4⟩) := by
        unfold readText
        rw [Read.bind_eq_of_eq_ok word, if_pos absent]
        rfl
      rw [four]
      exact .inr ⟨Nat.not_lt.mp few, .inl ⟨none, read⟩⟩
    · have more : needed = 4 + ofLittleEndian (c.rest.take 4) :=
        if_neg (not_or.mpr ⟨few, absent⟩)
      have begun : readText c = (readContents (ofLittleEndian (c.rest.take 4)) >>= fun contents =>
          pure (some contents)) ⟨c.offset + 4, c.rest.drop 4⟩ := by
        unfold readText
        rw [Read.bind_eq_of_eq_ok word, if_neg absent]
      have left : (⟨c.offset + 4, c.rest.drop 4⟩ : Cursor).rest.length = c.rest.length - 4 :=
        List.length_drop
      rw [begun, more, Nat.add_sub_cancel_left]
      rcases readContents_cases (ofLittleEndian (c.rest.take 4)) ⟨c.offset + 4, c.rest.drop 4⟩ with
        ⟨short, refused⟩ | ⟨enough, ⟨s, read⟩ | ⟨fault, garbled, refused⟩⟩
      · exact .inl ⟨by omega, c.offset + 4, Read.bind_eq_error refused⟩
      · refine .inr ⟨by omega, .inl ⟨some s, ?_⟩⟩
        rw [Read.bind_eq_of_eq_ok read, List.drop_drop, Nat.add_assoc]
        rfl
      · exact .inr ⟨by omega, .inr ⟨fault, garbled, Read.bind_eq_error refused⟩⟩

end Outcomes

/-- A read is refused if fewer bytes are left than it needs. Otherwise it answers and has passed
over the bytes it needs, but for a text whose contents are not well formed. -/
theorem read_cases (demand : Demand) (c : Cursor) :
    let needed := demand.needed c.rest
    (c.rest.length < needed ∧ ∃ start, demand.read c = .error (.endOfRecord start)) ∨
      needed ≤ c.rest.length ∧
        ((∃ item, demand.read c = .ok (item, ⟨c.offset + needed, c.rest.drop needed⟩)) ∨
          demand = .text ∧
            ∃ fault, Utf8.decode ((c.rest.drop 4).take (needed - 4)) = .error fault ∧
              demand.read c = .error (.invalidText (c.offset + 4) fault)) := by
  intro needed
  have four : c.rest.length < 4 ∨ 4 ≤ c.rest.length := Nat.lt_or_ge _ _
  cases demand with
  | word =>
    rcases four with few | enough
    · exact .inl ⟨few, _, Read.bind_eq_error (readWord_of_short few)⟩
    · have word := readWord_of_enough enough
      exact .inr ⟨enough, .inl ⟨_, Read.bind_eq_of_eq_ok word⟩⟩
  | score =>
    rcases four with few | enough
    · exact .inl ⟨few, _, Read.bind_eq_error (Read.bind_eq_error (readWord_of_short few))⟩
    · have score : readScore c = .ok (_, _) := Read.bind_eq_of_eq_ok (readWord_of_enough enough)
      exact .inr ⟨enough, .inl ⟨_, Read.bind_eq_of_eq_ok score⟩⟩
  | text =>
    rcases readText_cases c with
      ⟨short, start, refused⟩ | ⟨enough, ⟨text, read⟩ | ⟨fault, garbled, read⟩⟩
    · exact .inl ⟨short, start, Read.bind_eq_error refused⟩
    · exact .inr ⟨enough, .inl ⟨.text text, Read.bind_eq_of_eq_ok read⟩⟩
    · exact .inr ⟨enough, .inr ⟨rfl, fault, garbled, Read.bind_eq_error read⟩⟩

/-- A read of a reader that leaves it at `next`: it stays within the buffer and does not go back, it
does what the read of the bytes that are left does, and it is refused exactly if fewer bytes are
left than it needs. A refusal reports the position the reader is left at. -/
structure Served (demand : Demand) (r : Reader) (answer : Except Fault Item) (next : Reader) :
    Prop where
  advances : r.Advances next
  answered : demand.read r.cursor = answer.map fun item => (item, next.cursor)
  outcome :
    let left := r.bytes.length - r.position
    let needed := demand.needed r.cursor.rest
    (left < needed ∧ answer = .error (.endOfRecord next.position)) ∨
      needed ≤ left ∧
        ((∃ item, answer = .ok item ∧ next.position = r.position + needed) ∨
          demand = .text ∧ ∃ fault, answer = .error (.invalidText (r.position + 4) fault) ∧
            Utf8.decode ((r.cursor.rest.drop 4).take (needed - 4)) = .error fault)

/-- A reader within its buffer serves any read. -/
theorem exists_served (demand : Demand) {r : Reader} (within : r.position ≤ r.bytes.length) :
    ∃ answer next, demand.scan r = some (answer, next) ∧ demand.Served r answer next := by
  obtain ⟨answer, next, scanned, advances, answered, reported⟩ := demand.scan_matches r within
  refine ⟨answer, next, scanned, advances, answered, ?_⟩
  have left := r.length_rest_cursor
  have cases := demand.read_cases r.cursor
  rw [answered, left] at cases
  rcases cases with ⟨short, start, refused⟩ | ⟨enough, ⟨item, read⟩ | ⟨rfl, fault, garbled, read⟩⟩
  · refine .inl ⟨short, ?_⟩
    cases answer with
    | ok item => cases refused
    | error fault =>
      cases refused
      rw [reported start rfl]
  · refine .inr ⟨enough, .inl ⟨item, ?_⟩⟩
    cases answer with
    | error fault => cases read
    | ok other =>
      have same := Prod.mk.inj (Except.ok.inj read)
      exact ⟨congrArg Except.ok same.1, congrArg Cursor.offset same.2⟩
  · refine .inr ⟨enough, .inr ⟨rfl, fault, ?_, garbled⟩⟩
    cases answer with
    | ok item => cases read
    | error other =>
      cases read
      rfl

end Demand

namespace Reader

/-- Where a reader stands after some reads, those that were refused included. -/
def after (r : Reader) (demands : List Demand) : Option Reader :=
  demands.foldlM (fun r demand => (demand.scan r).map Prod.snd) r

/-- A reader within its buffer stays within it. -/
theorem exists_after {r : Reader} (within : r.position ≤ r.bytes.length) (demands : List Demand) :
    ∃ last, r.after demands = some last ∧ r.Advances last := by
  induction demands generalizing r with
  | nil => exact ⟨r, rfl, .refl within⟩
  | cons demand rest ih =>
    obtain ⟨answer, next, scanned, served⟩ := demand.exists_served within
    obtain ⟨last, reached, advances⟩ := ih served.advances.within
    refine ⟨last, ?_, served.advances.trans advances⟩
    unfold after
    rw [List.foldlM_cons, scanned]
    exact reached

theorem after_concat {r last next : Reader} {demands : List Demand} {demand : Demand}
    {answer : Except Fault Item} (reached : r.after demands = some last)
    (scanned : demand.scan last = some (answer, next)) :
    r.after (demands ++ [demand]) = some next := by
  unfold after at reached ⊢
  rw [List.foldlM_append, reached]
  change (demand.scan last).map Prod.snd >>= _ = _
  rw [scanned]
  rfl

/-- Behind a header, whatever was read before and whether it was read or refused, a reader stands
within its buffer and not in front of any place it stood at, and each further read comes to an
answer or a refusal without a difference below zero or a place outside of the buffer. It takes bytes
exactly if as many are left, and where it is refused it stays, and says where. Read this way, bytes
are the description that they are read as from what is left of them. -/
theorem reads_stay_within {bytes : List UInt8} (header : headerSize ≤ bytes.length)
    (demands : List Demand) :
    (∃ r, (start bytes).after demands = some r ∧ (start bytes).Advances r ∧
      (∀ demand : Demand, ∃ answer next, demand.scan r = some (answer, next) ∧
        demand.Served r answer next ∧ (start bytes).after (demands ++ [demand]) = some next) ∧
      ∀ count,
        (count ≤ bytes.length - r.position →
          r.position + count ≤ bytes.length ∧
            take count r = some (.ok ((bytes.drop r.position).take count),
              { r with position := r.position + count })) ∧
          (bytes.length - r.position < count →
            take count r = some (.error (.endOfRecord r.position), r))) ∧
      decode bytes = some (Record.decode bytes) := by
  refine ⟨?_, decode_eq bytes⟩
  obtain ⟨r, reached, advances⟩ := exists_after (r := start bytes) header demands
  have within := advances.within
  have same : r.bytes = bytes := advances.bytes
  refine ⟨r, reached, advances, fun demand => ?_, fun count => ⟨fun enough => ?_, fun short => ?_⟩⟩
  · obtain ⟨answer, next, scanned, served⟩ := demand.exists_served within
    exact ⟨answer, next, scanned, served, after_concat reached scanned⟩
  · rw [same] at within
    have inside : r.position + count ≤ bytes.length := by omega
    refine ⟨inside, ?_⟩
    rw [← same] at inside
    rw [take_of_enough inside, same]
  · rw [← same] at short
    exact take_of_short within short

/-- A header and a text of five bytes of which only one is there. -/
def cut : List UInt8 := Revision.current.header ++ [5, 0, 0, 0, 0x61]

/-- The text is refused behind its length, where one byte can still be taken and two cannot. -/
theorem reads_stay_within_cut :
    headerSize ≤ cut.length ∧ (start cut).after [.text] = some ⟨cut, 12⟩ ∧
      take 1 ⟨cut, 12⟩ = some (.ok [0x61], ⟨cut, 13⟩) ∧
      take 2 ⟨cut, 12⟩ = some (.error (.endOfRecord 12), ⟨cut, 12⟩) := by
  have header : headerSize ≤ cut.length := by decide
  have stands : (start cut).after [.text] = some ⟨cut, 12⟩ := by decide
  obtain ⟨⟨r, reached, -, -, taken⟩, -⟩ := reads_stay_within header [.text]
  have here : r = ⟨cut, 12⟩ := Option.some.inj (reached.symm.trans stands)
  subst here
  exact ⟨header, stands, ((taken 1).1 (by decide)).2, (taken 2).2 (by decide)⟩

end Reader

end Findings.Record
