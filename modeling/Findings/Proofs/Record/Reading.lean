import Findings.Record.Layout
import Mathlib.Algebra.Ring.Nat

/-!
What the reader of stored descriptions accepts. Each step of reading is answered by the step of
writing it undoes: a step succeeds on exactly the bytes that are written for its result, and it
leaves what comes after them (`readFields_eq_ok_iff`).
-/

namespace Findings.Record

/-! ## Numbers -/

theorem length_littleEndian (count n : Nat) : (littleEndian count n).length = count := by
  induction count generalizing n with
  | zero => rfl
  | succ count ih => rw [littleEndian, List.length_cons, ih]

/-- A number that fits its bytes is read back. -/
theorem ofLittleEndian_littleEndian {count n : Nat} (fits : n < 256 ^ count) :
    ofLittleEndian (littleEndian count n) = n := by
  induction count generalizing n with
  | zero => exact (Nat.lt_one_iff.mp fits).symm
  | succ count ih =>
    have shorter : n / 256 < 256 ^ count := by
      rw [Nat.div_lt_iff_lt_mul (by decide)]
      exact Nat.lt_of_lt_of_eq fits (Nat.pow_succ ..)
    have lowest : (UInt8.ofNat (n % 256)).toNat = n % 256 :=
      UInt8.toNat_ofNat_of_lt (Nat.mod_lt n (by decide))
    rw [littleEndian, ofLittleEndian, ih shorter, lowest]
    exact Nat.mod_add_div n 256

theorem ofLittleEndian_lt (bytes : List UInt8) : ofLittleEndian bytes < 256 ^ bytes.length := by
  induction bytes with
  | nil => exact Nat.one_pos
  | cons b rest ih =>
    have lowest := b.toNat_lt
    rw [ofLittleEndian, List.length_cons, Nat.pow_succ]
    omega

/-- Bytes are the only ones of their length that stand for their number. -/
theorem littleEndian_ofLittleEndian (bytes : List UInt8) :
    littleEndian bytes.length (ofLittleEndian bytes) = bytes := by
  induction bytes with
  | nil => rfl
  | cons b rest ih =>
    have below := b.toNat_lt
    have lowest : (b.toNat + 256 * ofLittleEndian rest) % 256 = b.toNat := by omega
    have higher : (b.toNat + 256 * ofLittleEndian rest) / 256 = ofLittleEndian rest := by omega
    rw [ofLittleEndian, List.length_cons, littleEndian, lowest, higher, ih, UInt8.ofNat_toNat]

/-! ## Headers -/

namespace Revision

theorem length_header (r : Revision) : r.header.length = headerSize := by
  unfold header
  rw [List.length_append, List.length_append, length_littleEndian, length_littleEndian]
  rfl

/-- Bytes that are long enough have the pieces of a header. -/
theorem exists_pieces {bytes : List UInt8} (enough : headerSize ≤ bytes.length) :
    ∃ mark major minor rest, bytes = mark ++ major ++ minor ++ rest ∧
      mark.length = 4 ∧ major.length = 2 ∧ minor.length = 2 := by
  change 8 ≤ bytes.length at enough
  refine ⟨bytes.take 4, (bytes.drop 4).take 2, (bytes.drop 6).take 2, bytes.drop 8, ?_, ?_⟩
  · have minor := List.take_append_drop 2 (bytes.drop 6)
    have major := List.take_append_drop 2 (bytes.drop 4)
    rw [List.drop_drop] at minor major
    rw [List.append_assoc, List.append_assoc, minor, major, List.take_append_drop]
  · simp only [List.length_take, List.length_drop]
    omega

/-- A header is read piece by piece. -/
theorem ofHeader_append {mark major minor rest : List UInt8} (four : mark.length = 4)
    (twoMajor : major.length = 2) (twoMinor : minor.length = 2) :
    ofHeader (mark ++ major ++ minor ++ rest) =
      if mark ≠ magic then .error .badMagic
      else .ok ⟨UInt16.ofNat (ofLittleEndian major), UInt16.ofNat (ofLittleEndian minor)⟩ := by
  have enough : ¬ (mark ++ major ++ minor ++ rest).length < headerSize := by
    simp only [List.length_append, headerSize]
    omega
  have first : (mark ++ major ++ minor ++ rest).take 4 = mark := by
    rw [List.append_assoc, List.append_assoc, List.take_left' four]
  have second : ((mark ++ major ++ minor ++ rest).drop 4).take 2 = major := by
    rw [List.append_assoc, List.append_assoc, List.drop_left' four, List.take_left' twoMajor]
  have third : ((mark ++ major ++ minor ++ rest).drop 6).take 2 = minor := by
    have six : (mark ++ major).length = 6 := by
      rw [List.length_append, four, twoMajor]
    rw [List.append_assoc, List.drop_left' six, List.take_left' twoMinor]
  rw [ofHeader, if_neg enough, first, second, third]

theorem ofLittleEndian_two (n : UInt16) :
    UInt16.ofNat (ofLittleEndian (littleEndian 2 n.toNat)) = n := by
  have bound : n.toNat < 256 ^ 2 := n.toNat_lt
  rw [ofLittleEndian_littleEndian bound, UInt16.ofNat_toNat]

/-- Two bytes are those of the number they stand for. -/
theorem littleEndian_two {bytes : List UInt8} (two : bytes.length = 2) :
    littleEndian 2 (UInt16.ofNat (ofLittleEndian bytes)).toNat = bytes := by
  have bound := ofLittleEndian_lt bytes
  rw [two] at bound
  rw [UInt16.toNat_ofNat_of_lt' bound, ← two, littleEndian_ofLittleEndian]

/-- A revision is read from exactly the bytes that begin with its header. -/
theorem ofHeader_eq_ok_iff {bytes : List UInt8} {r : Revision} :
    ofHeader bytes = .ok r ↔ ∃ rest, bytes = r.header ++ rest := by
  constructor
  · intro read
    by_cases short : bytes.length < headerSize
    · rw [ofHeader, if_pos short] at read
      cases read
    · obtain ⟨mark, major, minor, rest, rfl, four, twoMajor, twoMinor⟩ :=
        exists_pieces (Nat.not_lt.mp short)
      rw [ofHeader_append four twoMajor twoMinor] at read
      split at read
      · cases read
      · rename_i marked
        cases read
        refine ⟨rest, ?_⟩
        rw [header, littleEndian_two twoMajor, littleEndian_two twoMinor,
          Decidable.not_not.mp marked]
  · rintro ⟨rest, rfl⟩
    rw [header, ofHeader_append rfl (length_littleEndian 2 _) (length_littleEndian 2 _),
      ofLittleEndian_two, ofLittleEndian_two]
    rfl

end Revision

/-! ## Steps of reading -/

/-- Reading has passed over some bytes and stands behind them. -/
structure Cursor.Passes (c : Cursor) (bytes : List UInt8) (d : Cursor) : Prop where
  rest : c.rest = bytes ++ d.rest
  offset : d.offset = c.offset + bytes.length

namespace Cursor

theorem passes_nil {c d : Cursor} : c.Passes [] d ↔ d = c := by
  constructor
  · rintro ⟨rest, offset⟩
    cases c
    cases d
    cases rest
    cases offset
    rfl
  · rintro rfl
    exact ⟨rfl, rfl⟩

theorem passes_append {c e : Cursor} {first second : List UInt8} :
    c.Passes (first ++ second) e ↔ ∃ d, c.Passes first d ∧ d.Passes second e := by
  constructor
  · rintro ⟨rest, offset⟩
    refine ⟨⟨c.offset + first.length, second ++ e.rest⟩, ⟨?_, rfl⟩, ⟨rfl, ?_⟩⟩
    · rw [rest, List.append_assoc]
    · rw [offset, List.length_append, Nat.add_assoc]
  · rintro ⟨d, ⟨rest, offset⟩, ⟨rest', offset'⟩⟩
    refine ⟨?_, ?_⟩
    · rw [rest, rest', List.append_assoc]
    · rw [offset', offset, List.length_append, Nat.add_assoc]

/-- Bytes can be passed where they stand next. -/
theorem passes_next (offset : Nat) (bytes rest : List UInt8) :
    (⟨offset, bytes ++ rest⟩ : Cursor).Passes bytes ⟨offset + bytes.length, rest⟩ := ⟨rfl, rfl⟩

end Cursor

variable {α β : Type} {c d e : Cursor}

theorem bind_eq_ok_iff {ε : Type} {x : Except ε α} {f : α → Except ε β} {b : β} :
    x >>= f = .ok b ↔ ∃ a, x = .ok a ∧ f a = .ok b := by
  cases x with
  | error e =>
    constructor
    · intro failed
      cases failed
    · rintro ⟨a, failed, -⟩
      cases failed
  | ok a =>
    constructor
    · exact fun later => ⟨a, rfl, later⟩
    · rintro ⟨_, ⟨⟩, later⟩
      exact later

theorem Read.bind_eq_ok_iff {x : Read α} {f : α → Read β} {b : β} :
    (x >>= f) c = .ok (b, e) ↔ ∃ a d, x c = .ok (a, d) ∧ f a d = .ok (b, e) := by
  change (x c >>= fun next => f next.1 next.2) = .ok (b, e) ↔ _
  rw [Record.bind_eq_ok_iff, Prod.exists]

theorem take_eq_ok_iff {count : Nat} {bytes : List UInt8} :
    take count c = .ok (bytes, d) ↔ bytes.length = count ∧ c.Passes bytes d := by
  unfold take
  constructor
  · intro read
    split at read
    · cases read
    · rename_i enough
      cases read
      have length := List.length_take_of_le (Nat.not_lt.mp enough)
      exact ⟨length, (List.take_append_drop count c.rest).symm, by rw [length]⟩
  · rintro ⟨rfl, rest, offset⟩
    have enough : ¬ c.rest.length < bytes.length := by
      rw [rest, List.length_append]
      omega
    rw [if_neg enough, rest, List.take_left, List.drop_left, ← offset]

theorem readWord_eq_ok_iff {n : Nat} :
    readWord c = .ok (n, d) ↔ n < 2 ^ 32 ∧ c.Passes (littleEndian 4 n) d := by
  have range : 256 ^ 4 = 2 ^ 32 := by decide
  unfold readWord
  rw [Read.bind_eq_ok_iff]
  constructor
  · rintro ⟨bytes, d, read, returned⟩
    cases returned
    obtain ⟨length, passes⟩ := take_eq_ok_iff.mp read
    have bound := ofLittleEndian_lt bytes
    have written := littleEndian_ofLittleEndian bytes
    rw [length] at bound written
    exact ⟨range ▸ bound, written.symm ▸ passes⟩
  · rintro ⟨bound, passes⟩
    refine ⟨_, d, take_eq_ok_iff.mpr ⟨length_littleEndian 4 n, passes⟩, ?_⟩
    rw [ofLittleEndian_littleEndian (range.symm ▸ bound)]
    rfl

/-- A score keeps all its bits, also those of a score that is no number. -/
theorem readScore_eq_ok_iff {x : Number.Single} :
    readScore c = .ok (x, d) ↔ c.Passes (littleEndian 4 x.bits.toNat) d := by
  unfold readScore
  rw [Read.bind_eq_ok_iff]
  constructor
  · rintro ⟨n, d, read, returned⟩
    cases returned
    obtain ⟨bound, passes⟩ := readWord_eq_ok_iff.mp read
    rwa [UInt32.toNat_ofNat_of_lt' bound]
  · intro passes
    refine ⟨x.bits.toNat, d, readWord_eq_ok_iff.mpr ⟨x.bits.toNat_lt, passes⟩, ?_⟩
    rw [UInt32.ofNat_toNat]
    rfl

theorem readContents_eq_ok_iff {length : Nat} {s : String} :
    readContents length c = .ok (s, d) ↔ Utf8.size s = length ∧ c.Passes (Utf8.bytes s) d := by
  change (take length c >>= _) = .ok (s, d) ↔ _
  rw [bind_eq_ok_iff]
  constructor
  · rintro ⟨⟨bytes, next⟩, taken, later⟩
    obtain ⟨size, passes⟩ := take_eq_ok_iff.mp taken
    cases decoded : Utf8.decode bytes with
    | error fault =>
      simp only [decoded] at later
      cases later
    | ok t =>
      simp only [decoded] at later
      cases later
      rw [← Utf8.bytes_of_decode_eq_ok decoded] at size passes
      exact ⟨size, passes⟩
  · rintro ⟨size, passes⟩
    refine ⟨_, take_eq_ok_iff.mpr ⟨size, passes⟩, ?_⟩
    simp only [Utf8.decode_bytes]
    rfl

/-- A text is written unless it is as long as the length that stands for an absent one. -/
theorem textBytes_some_eq_ok_iff {field s : String} {bytes : List UInt8} :
    textBytes field (some s) = .ok bytes ↔
      Utf8.size s < absentLength ∧ bytes = littleEndian 4 (Utf8.size s) ++ Utf8.bytes s := by
  change (if Utf8.size s < absentLength then _ else _) = Except.ok bytes ↔ _
  by_cases brief : Utf8.size s < absentLength
  · rw [if_pos brief, Except.ok.injEq, and_iff_right brief]
    exact eq_comm
  · rw [if_neg brief]
    exact ⟨nofun, fun written => absurd written.1 brief⟩

/-- A text is read from exactly the bytes it is written with. -/
theorem readText_eq_ok_iff (field : String) {text : Option String} :
    readText c = .ok (text, d) ↔
      ∃ bytes, textBytes field text = .ok bytes ∧ c.Passes bytes d := by
  unfold readText
  rw [Read.bind_eq_ok_iff]
  constructor
  · rintro ⟨length, next, word, later⟩
    obtain ⟨bound, passes⟩ := readWord_eq_ok_iff.mp word
    by_cases absent : length = absentLength
    · rw [if_pos absent] at later
      cases later
      exact ⟨_, rfl, absent ▸ passes⟩
    · rw [if_neg absent] at later
      obtain ⟨s, last, contents, returned⟩ := Read.bind_eq_ok_iff.mp later
      cases returned
      obtain ⟨rfl, passes'⟩ := readContents_eq_ok_iff.mp contents
      have brief : Utf8.size s < absentLength :=
        Nat.lt_of_le_of_ne (Nat.le_sub_one_of_lt bound) absent
      exact ⟨_, textBytes_some_eq_ok_iff.mpr ⟨brief, rfl⟩,
        Cursor.passes_append.mpr ⟨next, passes, passes'⟩⟩
  · rintro ⟨bytes, written, passes⟩
    cases text with
    | none =>
      cases written
      exact ⟨absentLength, d, readWord_eq_ok_iff.mpr ⟨by decide, passes⟩, rfl⟩
    | some s =>
      obtain ⟨brief, rfl⟩ := textBytes_some_eq_ok_iff.mp written
      obtain ⟨next, word, contents⟩ := Cursor.passes_append.mp passes
      have bound : Utf8.size s < 2 ^ 32 := Nat.lt_of_lt_of_le brief (Nat.sub_le _ 1)
      refine ⟨Utf8.size s, next, readWord_eq_ok_iff.mpr ⟨bound, word⟩, ?_⟩
      rw [if_neg (Nat.ne_of_lt brief)]
      exact Read.bind_eq_ok_iff.mpr ⟨s, d, readContents_eq_ok_iff.mpr ⟨rfl, contents⟩, rfl⟩

/-! ## Texts in a row -/

theorem textsBytes_cons_eq_ok_iff {field : String} {text : Option String}
    {rest : List (String × Option String)} {bytes : List UInt8} :
    textsBytes ((field, text) :: rest) = .ok bytes ↔
      ∃ first others, textBytes field text = .ok first ∧ textsBytes rest = .ok others ∧
        bytes = first ++ others := by
  rw [textsBytes, bind_eq_ok_iff]
  constructor
  · rintro ⟨first, head, later⟩
    obtain ⟨others, tail, returned⟩ := bind_eq_ok_iff.mp later
    cases returned
    exact ⟨first, others, head, tail, rfl⟩
  · rintro ⟨first, others, head, tail, rfl⟩
    exact ⟨first, head, bind_eq_ok_iff.mpr ⟨others, tail, rfl⟩⟩

/-- Reads texts, as many as are asked for. -/
def readTexts : Nat → Read (List (Option String))
  | 0 => return []
  | count + 1 => do
    let first ← readText
    let others ← readTexts count
    return first :: others

theorem length_of_readTexts {count : Nat} {texts : List (Option String)}
    (read : readTexts count c = .ok (texts, d)) : texts.length = count := by
  induction count generalizing texts c with
  | zero =>
    cases read
    rfl
  | succ count ih =>
    obtain ⟨first, next, -, later⟩ := Read.bind_eq_ok_iff.mp read
    obtain ⟨others, last, rest, returned⟩ := Read.bind_eq_ok_iff.mp later
    cases returned
    rw [List.length_cons, ih rest]

/-- Texts are read from exactly the bytes they are written with. -/
theorem readTexts_eq_ok_iff (fields : List (String × Option String)) :
    readTexts fields.length c = .ok (fields.map Prod.snd, d) ↔
      ∃ bytes, textsBytes fields = .ok bytes ∧ c.Passes bytes d := by
  induction fields generalizing c with
  | nil =>
    constructor
    · intro read
      cases read
      exact ⟨[], rfl, Cursor.passes_nil.mpr rfl⟩
    · rintro ⟨bytes, written, passes⟩
      cases written
      cases Cursor.passes_nil.mp passes
      rfl
  | cons head rest ih =>
    obtain ⟨field, text⟩ := head
    change (readText >>= _) c = .ok (text :: rest.map Prod.snd, d) ↔ _
    rw [Read.bind_eq_ok_iff]
    constructor
    · rintro ⟨_, next, read, later⟩
      obtain ⟨_, last, others, returned⟩ := Read.bind_eq_ok_iff.mp later
      cases returned
      obtain ⟨first, firstWritten, passesFirst⟩ := (readText_eq_ok_iff field).mp read
      obtain ⟨bytes, othersWritten, passesOthers⟩ := ih.mp others
      exact ⟨first ++ bytes,
        textsBytes_cons_eq_ok_iff.mpr ⟨first, bytes, firstWritten, othersWritten, rfl⟩,
        Cursor.passes_append.mpr ⟨next, passesFirst, passesOthers⟩⟩
    · rintro ⟨bytes, written, passes⟩
      obtain ⟨first, others, firstWritten, othersWritten, rfl⟩ :=
        textsBytes_cons_eq_ok_iff.mp written
      obtain ⟨next, passesFirst, passesOthers⟩ := Cursor.passes_append.mp passes
      refine ⟨text, next, (readText_eq_ok_iff field).mpr ⟨first, firstWritten, passesFirst⟩, ?_⟩
      exact Read.bind_eq_ok_iff.mpr
        ⟨_, d, ih.mpr ⟨others, othersWritten, passesOthers⟩, rfl⟩

/-! ## Descriptions -/

/-- The description that has some texts before its score and some after it. -/
def ofTexts (before : List (Option String)) (score : Number.Single)
    (after : List (Option String)) : Record where
  assignerShortName := before.getD 1 none
  classification := before.getD 5 none
  cweId := before.getD 7 none
  datePublished := before.getD 8 none
  dateUpdated := before.getD 9 none
  description := before.getD 10 none
  reference := before.getD 13 none
  score
  scoreVersion := after.getD 0 none
  severity := after.getD 1 none
  metrics := {
    accessComplexity := before.getD 0 none
    attackVector := before.getD 2 none
    authentication := before.getD 3 none
    availabilityImpact := before.getD 4 none
    confidentialityImpact := before.getD 6 none
    integrityImpact := before.getD 11 none
    privilegesRequired := before.getD 12 none
    scope := before.getD 14 none
    userInteraction := after.getD 2 none }

theorem readFields_eq : readFields = do
    let before ← readTexts 15
    let score ← readScore
    let after ← readTexts 3
    return ofTexts before score after := by
  simp only [readTexts, bind_assoc, pure_bind]
  rfl

/-- The texts of a description stand in the places they are read from. -/
theorem ofTexts_texts (r : Record) :
    ofTexts (r.textsBeforeScore.map Prod.snd) r.score (r.textsAfterScore.map Prod.snd) = r := rfl

theorem texts_ofTexts {before after : List (Option String)} (score : Number.Single)
    (fifteen : before.length = 15) (three : after.length = 3) :
    (ofTexts before score after).textsBeforeScore.map Prod.snd = before ∧
      (ofTexts before score after).textsAfterScore.map Prod.snd = after := by
  -- The lengths leave one shape for each list, and there each text stands in its place.
  match before, after, fifteen, three with
  | [_, _, _, _, _, _, _, _, _, _, _, _, _, _, _], [_, _, _], _, _ => exact ⟨rfl, rfl⟩

theorem body_eq_ok_iff {r : Record} {bytes : List UInt8} :
    r.body = .ok bytes ↔ ∃ before after, textsBytes r.textsBeforeScore = .ok before ∧
      textsBytes r.textsAfterScore = .ok after ∧
      bytes = before ++ littleEndian 4 r.score.bits.toNat ++ after := by
  rw [body, bind_eq_ok_iff]
  constructor
  · rintro ⟨before, head, later⟩
    obtain ⟨after, tail, returned⟩ := bind_eq_ok_iff.mp later
    cases returned
    exact ⟨before, after, head, tail, rfl⟩
  · rintro ⟨before, after, head, tail, rfl⟩
    exact ⟨before, head, bind_eq_ok_iff.mpr ⟨after, tail, rfl⟩⟩

/-- The fields of a description are read from exactly the bytes it is written with. -/
theorem readFields_eq_ok_iff {r : Record} :
    readFields c = .ok (r, d) ↔ ∃ bytes, r.body = .ok bytes ∧ c.Passes bytes d := by
  rw [readFields_eq, Read.bind_eq_ok_iff]
  constructor
  · rintro ⟨before, next, first, later⟩
    obtain ⟨score, next', second, later⟩ := Read.bind_eq_ok_iff.mp later
    obtain ⟨after, last, third, returned⟩ := Read.bind_eq_ok_iff.mp later
    cases returned
    obtain ⟨inOrder, inOrder'⟩ :=
      texts_ofTexts score (length_of_readTexts first) (length_of_readTexts third)
    obtain ⟨head, headWritten, passesHead⟩ :=
      (readTexts_eq_ok_iff (ofTexts before score after).textsBeforeScore).mp (inOrder.symm ▸ first)
    obtain ⟨tail, tailWritten, passesTail⟩ :=
      (readTexts_eq_ok_iff (ofTexts before score after).textsAfterScore).mp (inOrder'.symm ▸ third)
    have passesScore := readScore_eq_ok_iff.mp second
    refine ⟨_, body_eq_ok_iff.mpr ⟨head, tail, headWritten, tailWritten, rfl⟩, ?_⟩
    exact Cursor.passes_append.mpr
      ⟨next', Cursor.passes_append.mpr ⟨next, passesHead, passesScore⟩, passesTail⟩
  · rintro ⟨bytes, written, passes⟩
    obtain ⟨head, tail, headWritten, tailWritten, rfl⟩ := body_eq_ok_iff.mp written
    obtain ⟨next', passesScored, passesTail⟩ := Cursor.passes_append.mp passes
    obtain ⟨next, passesHead, passesScore⟩ := Cursor.passes_append.mp passesScored
    have first := (readTexts_eq_ok_iff r.textsBeforeScore).mpr ⟨head, headWritten, passesHead⟩
    have third := (readTexts_eq_ok_iff r.textsAfterScore).mpr ⟨tail, tailWritten, passesTail⟩
    refine ⟨_, next, first, Read.bind_eq_ok_iff.mpr
      ⟨r.score, next', readScore_eq_ok_iff.mpr passesScore, Read.bind_eq_ok_iff.mpr
        ⟨_, d, third, ?_⟩⟩⟩
    rw [ofTexts_texts]
    rfl

end Findings.Record
