import Findings.Proofs.Record.Fields

/-!
What is decided by the header. Bytes are refused for their header before anything behind it is
looked at, and the places behind it are never refused for a fault of the header, so each such fault
says exactly what the first eight bytes are (`Store.read_header_decides`). The identifier that bytes
are stored under is only named in the complaint.
-/

namespace Findings

namespace Record

/-! ## Faults of the header -/

/-- The fault is told from the header alone. -/
def Fault.OfHeader : Fault → Prop
  | headerTooShort | badMagic | unsupported _ => True
  | endOfRecord _ | invalidText _ _ | trailing _ => False

/-- Reading never fails for a fault of the header. -/
def Read.Behind {α : Type} (x : Read α) : Prop :=
  ∀ c fault, x c = .error fault → ¬ fault.OfHeader

namespace Read.Behind

variable {α β : Type}

theorem pure (a : α) : Behind (Pure.pure a) := by
  intro c fault failed
  cases failed

/-- A reader that is put together goes only forward where its parts do. -/
theorem bind {x : Read α} {f : α → Read β} (first : Behind x) (next : ∀ a, Behind (f a)) :
    Behind (x >>= f) := by
  intro c fault failed
  cases step : x c with
  | error fault' =>
    have same : Except.error fault' = Except.error fault := (bind_eq_error step).symm.trans failed
    cases same
    exact first c fault step
  | ok result =>
    obtain ⟨a, d⟩ := result
    rw [bind_eq_of_eq_ok step] at failed
    exact next a d fault failed

theorem take (count : Nat) : Behind (Record.take count) := by
  intro c fault failed
  unfold Record.take at failed
  split at failed
  · cases failed
    exact id
  · cases failed

theorem readWord : Behind Record.readWord := (take 4).bind fun _ => pure _

theorem readScore : Behind Record.readScore := readWord.bind fun _ => pure _

theorem readContents (length : Nat) : Behind (Record.readContents length) := by
  intro c fault failed
  change (Record.take length c >>= _) = _ at failed
  cases taken : Record.take length c with
  | error fault' =>
    rw [taken] at failed
    cases failed
    exact take length c fault taken
  | ok result =>
    obtain ⟨bytes, next⟩ := result
    rw [taken] at failed
    simp only [Bind.bind, Except.bind] at failed
    split at failed
    · cases failed
    · cases failed
      exact id

theorem readText : Behind Record.readText := by
  refine readWord.bind fun length => ?_
  split
  · exact pure none
  · exact (readContents length).bind fun _ => pure _

theorem readField (kind : Kind) : Behind (Record.readField kind) := by
  cases kind with
  | text => exact readText.bind fun _ => pure _
  | score => exact readScore.bind fun _ => pure _

theorem readAll (kinds : List Kind) : Behind (Record.readAll kinds) := by
  induction kinds with
  | nil => exact pure []
  | cons kind rest ih => exact (readField kind).bind fun _ => ih.bind fun _ => pure _

theorem readFields : Behind Record.readFields := by
  rw [readFields_eq_readAll]
  exact (readAll layout).bind fun _ => pure _

end Read.Behind

variable {bytes : List UInt8} {r : Revision} {fault : Fault}

/-- A header that cannot be read decides. -/
theorem decode_of_ofHeader_eq_error (refused : Revision.ofHeader bytes = .error fault) :
    decode bytes = .error fault := by
  unfold decode
  rw [refused]
  rfl

/-- A header of another major number decides, whatever stands behind it. -/
theorem decode_of_foreign (header : Revision.ofHeader bytes = .ok r) (foreign : r.major ≠ 1) :
    decode bytes = .error (.unsupported r) := by
  have other : r.major ≠ Revision.current.major := foreign
  unfold decode
  rw [header]
  simp only [Bind.bind, Except.bind, if_pos other]
  rfl

/-- Behind a header of the first major number nothing is refused for a fault of the header. -/
theorem not_ofHeader_of_decode (header : Revision.ofHeader bytes = .ok r) (known : r.major = 1)
    (failed : decode bytes = .error fault) : ¬ fault.OfHeader := by
  have current : ¬ r.major ≠ Revision.current.major := fun foreign => foreign known
  unfold decode at failed
  rw [header] at failed
  simp only [Bind.bind, Except.bind, if_neg current] at failed
  cases fields : readFields ⟨headerSize, bytes.drop headerSize⟩ with
  | error fault' =>
    rw [fields] at failed
    cases failed
    exact Read.Behind.readFields _ fault fields
  | ok result =>
    rw [fields] at failed
    dsimp only [pure, Except.pure] at failed
    split at failed
    · cases failed
      exact id
    · cases failed

/-! ## What the header decides -/

theorem Revision.magic_prefix_of_header (begins : r.header <+: bytes) : magic <+: bytes := by
  obtain ⟨rest, spelled⟩ := begins
  refine ⟨littleEndian 2 r.major.toNat ++ littleEndian 2 r.minor.toNat ++ rest, ?_⟩
  rw [← spelled, header]
  simp only [List.append_assoc]

/-- Bytes that begin with a header are as long as one at the least. -/
theorem Revision.le_length_of_header (begins : r.header <+: bytes) : headerSize ≤ bytes.length := by
  rw [← r.length_header]
  exact begins.length_le

/-- Bytes begin with the header of one revision at most. -/
theorem Revision.eq_of_header_prefix {s : Revision} (first : r.header <+: bytes)
    (second : s.header <+: bytes) : r = s := by
  obtain ⟨rest, spelled⟩ := first
  obtain ⟨rest', spelled'⟩ := second
  have readFirst := ofHeader_eq_ok_iff.mpr ⟨rest, spelled.symm⟩
  have readSecond := ofHeader_eq_ok_iff.mpr ⟨rest', spelled'.symm⟩
  exact Except.ok.inj (readFirst.symm.trans readSecond)

/-- The major number stands behind the letters. -/
theorem Revision.major_bytes_eq_iff (begins : r.header <+: bytes) :
    (bytes.drop 4).take 2 = littleEndian 2 1 ↔ r.major = 1 := by
  obtain ⟨rest, spelled⟩ := begins
  have places : (bytes.drop 4).take 2 = littleEndian 2 r.major.toNat := by
    rw [← spelled]
    rfl
  rw [places]
  constructor
  · intro same
    have number := ofLittleEndian_two r.major
    rw [same] at number
    exact number.symm
  · intro known
    rw [known]
    rfl

/-- What the header of some bytes decides. -/
inductive Ruling (bytes : List UInt8) : Prop
  | short (few : bytes.length < headerSize) (refused : decode bytes = .error .headerTooShort)
  | unmarked (enough : headerSize ≤ bytes.length) (other : ¬ magic <+: bytes)
    (refused : decode bytes = .error .badMagic)
  | foreign (r : Revision) (begins : r.header <+: bytes) (major : r.major ≠ 1)
    (refused : decode bytes = .error (.unsupported r))
  /-- The places behind the header decide. -/
  | known (r : Revision) (begins : r.header <+: bytes) (major : r.major = 1)
    (onward : ∀ fault, decode bytes = .error fault → ¬ fault.OfHeader)

theorem ruling (bytes : List UInt8) : Ruling bytes := by
  cases header : Revision.ofHeader bytes with
  | ok r =>
    obtain ⟨rest, spelled⟩ := Revision.ofHeader_eq_ok_iff.mp header
    have begins : r.header <+: bytes := ⟨rest, spelled.symm⟩
    by_cases known : r.major = 1
    · exact .known r begins known fun fault => not_ofHeader_of_decode header known
    · exact .foreign r begins known (decode_of_foreign header known)
  | error fault =>
    have refused := decode_of_ofHeader_eq_error header
    unfold Revision.ofHeader at header
    split at header
    next few =>
      cases header
      exact .short few refused
    next enough =>
      split at header
      next marked =>
        cases header
        refine .unmarked (Nat.not_lt.mp enough) (fun begins => marked ?_) refused
        exact (List.prefix_iff_eq_take.mp begins).symm
      next => cases header

/-- Bytes are refused as too short when they are shorter than a header. -/
theorem decode_eq_tooShort_iff :
    decode bytes = .error .headerTooShort ↔ bytes.length < headerSize := by
  cases ruling bytes with
  | short few refused => exact ⟨fun _ => few, fun _ => refused⟩
  | unmarked enough _ refused =>
    refine ⟨fun failed => ?_, fun few => absurd enough (Nat.not_le.mpr few)⟩
    cases refused.symm.trans failed
  | foreign r begins _ refused =>
    have enough := Revision.le_length_of_header begins
    refine ⟨fun failed => ?_, fun few => absurd enough (Nat.not_le.mpr few)⟩
    cases refused.symm.trans failed
  | known r begins _ onward =>
    have enough := Revision.le_length_of_header begins
    exact ⟨fun failed => absurd trivial (onward _ failed),
      fun few => absurd enough (Nat.not_le.mpr few)⟩

/-- Bytes are refused for their magic when they are long enough and begin otherwise. -/
theorem decode_eq_badMagic_iff :
    decode bytes = .error .badMagic ↔ headerSize ≤ bytes.length ∧ ¬ magic <+: bytes := by
  cases ruling bytes with
  | short few refused =>
    refine ⟨fun failed => ?_, fun both => absurd both.1 (Nat.not_le.mpr few)⟩
    cases refused.symm.trans failed
  | unmarked enough other refused => exact ⟨fun _ => ⟨enough, other⟩, fun _ => refused⟩
  | foreign r begins _ refused =>
    have marked := Revision.magic_prefix_of_header begins
    refine ⟨fun failed => ?_, fun both => absurd marked both.2⟩
    cases refused.symm.trans failed
  | known r begins _ onward =>
    have marked := Revision.magic_prefix_of_header begins
    exact ⟨fun failed => absurd trivial (onward _ failed), fun both => absurd marked both.2⟩

/-- The revision that is refused is the one whose header is there. -/
theorem decode_eq_unsupported_iff :
    decode bytes = .error (.unsupported r) ↔ r.header <+: bytes ∧ r.major ≠ 1 := by
  cases ruling bytes with
  | short few refused =>
    refine ⟨fun failed => ?_, fun both => ?_⟩
    · cases refused.symm.trans failed
    · exact absurd (Revision.le_length_of_header both.1) (Nat.not_le.mpr few)
  | unmarked _ other refused =>
    refine ⟨fun failed => ?_, fun both => absurd (Revision.magic_prefix_of_header both.1) other⟩
    cases refused.symm.trans failed
  | foreign s begins major refused =>
    refine ⟨fun failed => ?_, fun both => ?_⟩
    · cases refused.symm.trans failed
      exact ⟨begins, major⟩
    · exact Revision.eq_of_header_prefix begins both.1 ▸ refused
  | known s begins major onward =>
    refine ⟨fun failed => absurd trivial (onward _ failed), fun both => ?_⟩
    exact absurd (Revision.eq_of_header_prefix begins both.1 ▸ major) both.2

/-! ## Sentences -/

theorem append_ne_of_begins_otherwise {front rest whole : String}
    (other : ¬ front.toList <+: whole.toList) : front ++ rest ≠ whole := by
  intro same
  subst same
  exact other ⟨rest.toList, String.toList_append.symm⟩

theorem append_ne_of_ends_otherwise {front rest whole : String}
    (other : ¬ rest.toList <:+ whole.toList) : front ++ rest ≠ whole := by
  intro same
  subst same
  exact other ⟨front.toList, String.toList_append.symm⟩

/-- The two sentences without a number are said of nothing else. -/
theorem Fault.eq_of_message_eq {plain : Fault} (bare : plain = .headerTooShort ∨ plain = .badMagic)
    (same : fault.message = plain.message) : fault = plain := by
  cases fault with
  | headerTooShort =>
    rcases bare with rfl | rfl
    · rfl
    · exact absurd same (by decide)
  | badMagic =>
    rcases bare with rfl | rfl
    · exact absurd same (by decide)
    · rfl
  | unsupported revision =>
    change "unsupported revision " ++ _ ++ "." ++ _ = _ at same
    rw [String.append_assoc, String.append_assoc] at same
    refine absurd same (append_ne_of_begins_otherwise ?_)
    rcases bare with rfl | rfl <;> decide
  | endOfRecord offset =>
    refine absurd same (append_ne_of_begins_otherwise ?_)
    rcases bare with rfl | rfl <;> decide
  | invalidText offset fault =>
    change "invalid UTF-8 at offset " ++ _ ++ ": " ++ _ = _ at same
    rw [String.append_assoc, String.append_assoc] at same
    refine absurd same (append_ne_of_begins_otherwise ?_)
    rcases bare with rfl | rfl <;> decide
  | trailing count =>
    refine absurd same (append_ne_of_ends_otherwise ?_)
    rcases bare with rfl | rfl <;> decide

end Record

/-! ## Stored bytes -/

namespace Store

open Record

variable {id : String} {bytes : List UInt8}

/-- A lookup fails with the error of the fault that decoding comes upon. -/
theorem read_eq_error_iff {e : FeedError} :
    read id bytes = .error e ↔ ∃ fault, decode bytes = .error fault ∧ e = .ofFault id fault := by
  unfold read
  cases decode bytes with
  | ok r =>
    refine ⟨nofun, fun both => ?_⟩
    obtain ⟨fault, failed, -⟩ := both
    cases failed
  | error fault =>
    constructor
    · intro failed
      cases failed
      exact ⟨fault, rfl, rfl⟩
    · intro both
      obtain ⟨other, failed, named⟩ := both
      cases failed
      rw [named]

/-- A revision is reported as it is, and any other fault by its sentence, under the identifier that
was asked for. -/
theorem ofFault_cases (id : String) (fault : Fault) :
    (∃ r, fault = .unsupported r ∧ FeedError.ofFault id fault = .unsupported r) ∨
      (∀ r, fault ≠ .unsupported r) ∧
        FeedError.ofFault id fault = .undecodable id fault.message := by
  cases fault with
  | unsupported r => exact .inl ⟨r, rfl, rfl⟩
  | _ => exact .inr ⟨fun r => nofun, rfl⟩

theorem read_eq_unsupported_iff {r : Revision} :
    read id bytes = .error (.unsupported r) ↔ decode bytes = .error (.unsupported r) := by
  rw [read_eq_error_iff]
  constructor
  · intro both
    obtain ⟨fault, failed, named⟩ := both
    rcases ofFault_cases id fault with ⟨s, rfl, foreign⟩ | ⟨-, undecodable⟩
    · cases named.trans foreign
      exact failed
    · cases named.trans undecodable
  · exact fun failed => ⟨_, failed, rfl⟩

/-- A sentence without a number tells the fault. -/
theorem read_eq_bare_iff {plain : Fault} (bare : plain = .headerTooShort ∨ plain = .badMagic) :
    read id bytes = .error (.undecodable id plain.message) ↔ decode bytes = .error plain := by
  rw [read_eq_error_iff]
  constructor
  · intro both
    obtain ⟨fault, failed, named⟩ := both
    rcases ofFault_cases id fault with ⟨s, rfl, foreign⟩ | ⟨-, undecodable⟩
    · cases named.trans foreign
    · have same := (FeedError.undecodable.inj (named.trans undecodable)).2
      rw [failed, Fault.eq_of_message_eq bare same.symm]
  · intro failed
    refine ⟨plain, failed, ?_⟩
    rcases bare with rfl | rfl <;> rfl

/-- The header is checked exactly, and before anything else. Bytes are of an unsupported revision
exactly if they begin with its header and its major number is not the first, whatever follows;
their header is too short exactly if they are fewer than eight, and its letters are wrong exactly if
they are eight at least and do not begin with the letters. The identifier decides nothing: under any
other one the same bytes give the same description, or the same revision is refused, or the same
sentence is said of the identifier that was asked for. -/
theorem read_header_decides (id : String) (bytes : List UInt8) :
    (∀ r : Revision, read id bytes = .error (.unsupported r) ↔ r.header <+: bytes ∧ r.major ≠ 1) ∧
    ((∃ r : Revision, read id bytes = .error (.unsupported r)) ↔
      8 ≤ bytes.length ∧ magic <+: bytes ∧ (bytes.drop 4).take 2 ≠ littleEndian 2 1) ∧
    (read id bytes = .error (.undecodable id "header too short") ↔ bytes.length < 8) ∧
    (read id bytes = .error (.undecodable id "invalid magic bytes") ↔
      8 ≤ bytes.length ∧ ¬ magic <+: bytes) ∧
    ∀ other,
      (∃ r, read id bytes = .ok r ∧ read other bytes = .ok r) ∨
      (∃ r, read id bytes = .error (.unsupported r) ∧ read other bytes = .error (.unsupported r)) ∨
      ∃ message, read id bytes = .error (.undecodable id message) ∧
        read other bytes = .error (.undecodable other message) := by
  have foreign (r : Revision) :
      read id bytes = .error (.unsupported r) ↔ r.header <+: bytes ∧ r.major ≠ 1 :=
    read_eq_unsupported_iff.trans decode_eq_unsupported_iff
  refine ⟨foreign, ?_, (read_eq_bare_iff (.inl rfl)).trans decode_eq_tooShort_iff,
    (read_eq_bare_iff (.inr rfl)).trans decode_eq_badMagic_iff, fun other => ?_⟩
  · constructor
    · intro refused
      obtain ⟨r, refused⟩ := refused
      obtain ⟨begins, major⟩ := (foreign r).mp refused
      exact ⟨Revision.le_length_of_header begins, Revision.magic_prefix_of_header begins,
        fun same => major ((Revision.major_bytes_eq_iff begins).mp same)⟩
    · intro ⟨enough, marked, major⟩
      cases ruling bytes with
      | short few _ => exact absurd enough (Nat.not_le.mpr few)
      | unmarked _ unmarked _ => exact absurd marked unmarked
      | foreign r begins other _ => exact ⟨r, (foreign r).mpr ⟨begins, other⟩⟩
      | known r begins known _ =>
        exact absurd ((Revision.major_bytes_eq_iff begins).mpr known) major
  · cases decoded : decode bytes with
    | ok r => exact .inl ⟨r, read_eq_ok_iff.mpr decoded, read_eq_ok_iff.mpr decoded⟩
    | error fault =>
      have answers (k : String) : read k bytes = .error (.ofFault k fault) :=
        read_eq_error_iff.mpr ⟨fault, decoded, rfl⟩
      rw [answers id, answers other]
      cases fault with
      | unsupported r => exact .inr (.inl ⟨r, rfl, rfl⟩)
      | _ => exact .inr (.inr ⟨_, rfl, rfl⟩)

end Store

end Findings
