import Findings.Proofs.Record.Exactness

/-!
The layout as a row of nineteen places, and a description as the fields that stand there. Reading a
description is reading its fields one after the other (`readFields_eq_readAll`), so what a place
does to the reader is told once for a field and then for a whole description: fields that are well
formed are passed over, and the first place that cannot be read decides
(`decode_of_readField_eq_error`).
-/

namespace Findings.Record

/-! ## Fields -/

/-- What a place of the layout holds. -/
inductive Kind where
  | text
  | score
  deriving DecidableEq, Repr

/-- The places of the layout. -/
def layout : List Kind := List.replicate 15 .text ++ .score :: List.replicate 3 .text

/-- What stands at a place. -/
inductive Field where
  | text (text : Option String)
  | score (score : Number.Single)
  deriving DecidableEq, Repr

/-- The part of a field that is taken from the bytes at once. -/
inductive Piece where
  /-- The length of a text, also where it stands for an absent text. -/
  | length (text : Option String)
  | contents (text : String)
  | score (score : Number.Single)
  deriving DecidableEq, Repr

def Piece.bytes : Piece → List UInt8
  | length none => littleEndian 4 absentLength
  | length (some s) => littleEndian 4 (Utf8.size s)
  | contents s => Utf8.bytes s
  | score x => littleEndian 4 x.bits.toNat

/-- The bytes of pieces in a row. -/
def Piece.run (pieces : List Piece) : List UInt8 := pieces.flatMap Piece.bytes

namespace Field

def kind : Field → Kind
  | text _ => .text
  | score _ => .score

def pieces : Field → List Piece
  | text none => [.length none]
  | text (some s) => [.length (some s), .contents s]
  | score x => [.score x]

def bytes (field : Field) : List UInt8 := Piece.run field.pieces

/-- The field can be written: its text is not as long as the length of an absent one. -/
def IsBrief : Field → Prop
  | text (some s) => Utf8.size s < absentLength
  | text none | score _ => True

/-- A text that is brief is written as the bytes of its field. -/
theorem textBytes_eq_ok_iff {name : String} {text : Option String} {written : List UInt8} :
    textBytes name text = .ok written ↔
      (Field.text text).IsBrief ∧ written = (Field.text text).bytes := by
  cases text with
  | none =>
    have sole : (Field.text none).bytes = littleEndian 4 absentLength := List.append_nil _
    rw [textBytes, Except.ok.injEq, sole]
    exact ⟨fun same => ⟨trivial, same.symm⟩, fun same => same.2.symm⟩
  | some s =>
    have both : (Field.text (some s)).bytes = littleEndian 4 (Utf8.size s) ++ Utf8.bytes s :=
      congrArg _ (List.append_nil _)
    rw [textBytes_some_eq_ok_iff, both]
    exact Iff.rfl

end Field

/-- The fields of a description, in the order of the layout. -/
def fields (r : Record) : List Field :=
  r.textsBeforeScore.map (fun text => .text text.2) ++
    .score r.score :: r.textsAfterScore.map fun text => .text text.2

theorem kind_fields (r : Record) : r.fields.map Field.kind = layout := rfl

theorem textsBytes_eq_ok_iff {texts : List (String × Option String)} {written : List UInt8} :
    let fields : List Field := texts.map fun text => .text text.2
    textsBytes texts = .ok written ↔
      (∀ field ∈ fields, field.IsBrief) ∧ written = fields.flatMap Field.bytes := by
  intro fields
  subst fields
  induction texts generalizing written with
  | nil =>
    rw [textsBytes, Except.ok.injEq]
    exact ⟨fun same => ⟨by simp, same.symm⟩, fun same => same.2.symm⟩
  | cons head rest ih =>
    obtain ⟨name, text⟩ := head
    rw [textsBytes_cons_eq_ok_iff, List.map_cons, List.forall_mem_cons, List.flatMap_cons]
    constructor
    · intro both
      obtain ⟨first, others, headWritten, restWritten, same⟩ := both
      have head := Field.textBytes_eq_ok_iff.mp headWritten
      have rest := ih.mp restWritten
      exact ⟨⟨head.1, rest.1⟩, by rw [same, head.2, rest.2]⟩
    · intro both
      obtain ⟨⟨headBrief, restBrief⟩, same⟩ := both
      exact ⟨_, _, Field.textBytes_eq_ok_iff.mpr ⟨headBrief, rfl⟩, ih.mpr ⟨restBrief, rfl⟩, same⟩

/-- A description is written as its fields, one after the other. -/
theorem body_eq_ok_iff_fields {r : Record} {written : List UInt8} :
    r.body = .ok written ↔
      (∀ field ∈ r.fields, field.IsBrief) ∧ written = r.fields.flatMap Field.bytes := by
  have score : (Field.score r.score).bytes = littleEndian 4 r.score.bits.toNat := List.append_nil _
  unfold fields
  rw [body_eq_ok_iff, List.forall_mem_append, List.forall_mem_cons, List.flatMap_append,
    List.flatMap_cons, score]
  constructor
  · intro ⟨before, after, beforeWritten, afterWritten, same⟩
    have front := textsBytes_eq_ok_iff.mp beforeWritten
    have back := textsBytes_eq_ok_iff.mp afterWritten
    exact ⟨⟨front.1, trivial, back.1⟩, by rw [same, front.2, back.2, List.append_assoc]⟩
  · intro ⟨⟨frontBrief, _, backBrief⟩, same⟩
    refine ⟨_, _, textsBytes_eq_ok_iff.mpr ⟨frontBrief, rfl⟩,
      textsBytes_eq_ok_iff.mpr ⟨backBrief, rfl⟩, ?_⟩
    rw [same, List.append_assoc]

/-! ## Reading them -/

/-- Reads the field at a place. -/
def readField : Kind → Read Field
  | .text => do return .text (← readText)
  | .score => do return .score (← readScore)

/-- Reads fields, one after the other. -/
def readAll : List Kind → Read (List Field)
  | [] => return []
  | kind :: rest => do
    let first ← readField kind
    let others ← readAll rest
    return first :: others

def Field.text? : Field → Option String
  | .text t => t
  | .score _ => none

def Field.score? : Field → Option Number.Single
  | .text _ => none
  | .score x => some x

/-- The description of some fields. -/
def ofFields (fields : List Field) : Record :=
  ofTexts ((fields.take 15).map Field.text?) ((fields.findSome? Field.score?).getD .zero)
    ((fields.drop 16).map Field.text?)

theorem readFields_eq_readAll : readFields = do
    let fields ← readAll layout
    return ofFields fields := by
  simp only [layout, List.replicate, List.cons_append, List.nil_append, readAll, readField,
    bind_assoc, pure_bind]
  rfl

section Reading

variable {c d : Cursor}

/-- A brief field is read from the bytes it is written with, whatever follows. -/
theorem readField_of_passes {field : Field} (brief : field.IsBrief)
    (passes : c.Passes field.bytes d) : readField field.kind c = .ok (field, d) := by
  cases field with
  | text text =>
    have written : textBytes "" text = .ok (Field.text text).bytes :=
      Field.textBytes_eq_ok_iff.mpr ⟨brief, rfl⟩
    have read := (readText_eq_ok_iff "").mpr ⟨_, written, passes⟩
    exact Read.bind_eq_ok_iff.mpr ⟨text, d, read, rfl⟩
  | score x =>
    have passes : c.Passes (littleEndian 4 x.bits.toNat ++ []) d := passes
    rw [List.append_nil] at passes
    exact Read.bind_eq_ok_iff.mpr ⟨x, d, readScore_eq_ok_iff.mpr passes, rfl⟩

theorem Read.bind_eq_error {α β : Type} {x : Read α} {f : α → Read β} {fault : Fault}
    (failed : x c = .error fault) : (x >>= f) c = .error fault := by
  change (x c >>= fun next => f next.1 next.2) = .error fault
  rw [failed]
  rfl

theorem Read.bind_eq_of_eq_ok {α β : Type} {x : Read α} {f : α → Read β} {a : α}
    (read : x c = .ok (a, d)) : (x >>= f) c = f a d := by
  change (x c >>= fun next => f next.1 next.2) = f a d
  rw [read]
  rfl

/-- Fields that are well formed are passed over, and the place behind them decides if it cannot be
read, whatever the places behind that one are. -/
theorem readAll_of_readField_eq_error {fields : List Field} {kind : Kind} {fault : Fault}
    (more : List Kind) (brief : ∀ field ∈ fields, field.IsBrief)
    (passes : c.Passes (fields.flatMap Field.bytes) d) (failed : readField kind d = .error fault) :
    readAll (fields.map Field.kind ++ kind :: more) c = .error fault := by
  induction fields generalizing c with
  | nil =>
    have here : d = c := Cursor.passes_nil.mp passes
    rw [here] at failed
    exact Read.bind_eq_error failed
  | cons field rest ih =>
    obtain ⟨headBrief, restBrief⟩ := List.forall_mem_cons.mp brief
    rw [List.flatMap_cons] at passes
    obtain ⟨next, passesHead, passesRest⟩ := Cursor.passes_append.mp passes
    have head := readField_of_passes headBrief passesHead
    have failedRest := ih restBrief passesRest
    rw [List.map_cons, List.cons_append, readAll, Read.bind_eq_of_eq_ok head]
    exact Read.bind_eq_error failedRest

end Reading

/-- Behind a header of the first major number, well-formed fields are passed over, and the first
place that cannot be read gives the fault of the whole, whatever the minor number is. -/
theorem decode_of_readField_eq_error {fields : List Field} {kind : Kind} {more : List Kind}
    {fault : Fault} (minor : UInt16) (rest : List UInt8)
    (places : layout = fields.map Field.kind ++ kind :: more)
    (brief : ∀ field ∈ fields, field.IsBrief)
    (failed : readField kind ⟨headerSize + (fields.flatMap Field.bytes).length, rest⟩ =
      .error fault) :
    decode ((⟨1, minor⟩ : Revision).header ++ (fields.flatMap Field.bytes ++ rest)) =
      .error fault := by
  have revision := Revision.ofHeader_eq_ok_iff.mpr
    ⟨fields.flatMap Field.bytes ++ rest, (rfl : (⟨1, minor⟩ : Revision).header ++ _ = _)⟩
  have behind : ((⟨1, minor⟩ : Revision).header ++ (fields.flatMap Field.bytes ++ rest)).drop
      headerSize = fields.flatMap Field.bytes ++ rest :=
    List.drop_left' (Revision.length_header _)
  have walked := readAll_of_readField_eq_error more brief
    (Cursor.passes_next headerSize (fields.flatMap Field.bytes) rest) failed
  rw [← places] at walked
  have read : readFields ⟨headerSize, fields.flatMap Field.bytes ++ rest⟩ = .error fault := by
    rw [readFields_eq_readAll]
    exact Read.bind_eq_error walked
  unfold decode
  rw [revision, behind]
  change (readFields _ >>= fun next => _) = _
  rw [read]
  rfl

end Findings.Record
