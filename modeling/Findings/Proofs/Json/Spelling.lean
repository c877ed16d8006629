import Findings.Proofs.Json.Decimals
import Findings.Proofs.Json.Drafts

/-!
Values that are read back from their texts. A reader that comes upon the text of a value finds the
value and goes on right behind it, whatever the text goes on with that stands in no number
(`Json.Reads`). The parts of a container may stand apart, so this holds of values in one line and of
values that are set out over lines. Either takes that not too many containers stand within one
another (`Json.height`), and of a number what is found is what its text spells (`Json.reread`).
Where the numbers are read back too, a document that is such a text has the value for its draft
(`Json.ofText_compact`).
-/

namespace Findings.Json

/-! ## Strings -/

section Strings

variable {seen rest tail : List Char}

theorem number?_fixed : ∀ n < 32, Text.Hex.number? (Text.Hex.fixed 4 n) = some n := by decide

/-- A control character is read back from its four digits. -/
theorem stringAfter_control {c : Char} (control : c.val < 32) :
    stringAfter none true seen (['\\', 'u'] ++ Text.Hex.fixed 4 c.toNat ++ tail) =
      stringAfter none true (c :: seen) tail := by
  have small : c.toNat < 32 := UInt32.lt_iff_toNat_lt.mp control
  have value := number?_fixed c.toNat small
  obtain ⟨a, b, d, e, digits⟩ : ∃ a b d e, Text.Hex.fixed 4 c.toNat = [a, b, d, e] :=
    ⟨_, _, _, _, rfl⟩
  have low : ¬0xD800 ≤ c.toNat := by omega
  have high : ¬0xDC00 ≤ c.toNat := by omega
  rw [digits] at value ⊢
  simp only [List.cons_append, List.nil_append]
  rw [stringAfter, value]
  simp [low, high]

/-- A character is read back from how it is written. -/
theorem stringAfter_escapeChar (c : Char) :
    stringAfter none true seen (escapeChar c ++ tail) = stringAfter none true (c :: seen) tail := by
  unfold escapeChar
  split
  next => rfl
  next => rfl
  next => rfl
  next => rfl
  next => rfl
  next => rfl
  next => rfl
  next quote backslash _ _ _ _ _ =>
    split
    next control => exact stringAfter_control control
    next plain =>
      have kept : (decide (c.val < 32) || c == '\\') = false := by
        simpa [plain] using backslash
      rw [List.singleton_append, stringAfter, kept]
      · rfl
      · exact quote
      · exact fun _ _ _ _ _ same _ => backslash same
      · exact fun _ _ same _ => backslash same

/-- Characters are read back one after the other, up to the closing quote. -/
theorem stringAfter_flatMap (s : List Char) :
    stringAfter none true seen (s.flatMap escapeChar ++ '"' :: rest) =
      some (some (String.ofList (seen.reverse ++ s)), rest) := by
  induction s generalizing seen with
  | nil => simp [stringAfter]
  | cons c s ih =>
    rw [List.flatMap_cons, List.append_assoc, stringAfter_escapeChar, ih]
    simp

/-- A string is read back from how it is written. -/
theorem stringAfter_stringText (s : String) (rest : List Char) :
    stringText s ++ rest = '"' :: (s.toList.flatMap escapeChar ++ '"' :: rest) ∧
      stringAfter none true [] (s.toList.flatMap escapeChar ++ '"' :: rest) =
        some (some s, rest) := by
  constructor
  · simp [stringText]
  · rw [stringAfter_flatMap]
    simp

end Strings

/-! ## Values -/

mutual

/-- The numbers in a value are read back, and its containers, with so many open around it, are not
too many within one another. -/
def Legible (depth : Nat) : Json → Prop
  | .null | .bool _ | .string _ => True
  | .number n => n.ReadsBack
  | .array items => depth + 1 < nestingLimit ∧ LegibleItems (depth + 1) items
  | .object members => depth + 1 < nestingLimit ∧ LegibleMembers (depth + 1) members

/-- The same of all items. -/
def LegibleItems (depth : Nat) : List Json → Prop
  | [] => True
  | item :: rest => Legible depth item ∧ LegibleItems depth rest

/-- The same of the values of all members. -/
def LegibleMembers (depth : Nat) : List (String × Json) → Prop
  | [] => True
  | (_, value) :: rest => Legible depth value ∧ LegibleMembers depth rest

end

theorem legibleItems_iff {depth : Nat} {items : List Json} :
    LegibleItems depth items ↔ ∀ item ∈ items, item.Legible depth := by
  induction items with
  | nil => simp [LegibleItems]
  | cons item rest ih => simp [LegibleItems, ih]

theorem legibleMembers_iff {depth : Nat} {members : List (String × Json)} :
    LegibleMembers depth members ↔ ∀ m ∈ members, m.2.Legible depth := by
  induction members with
  | nil => simp [LegibleMembers]
  | cons m rest ih => simp [LegibleMembers, ih]

theorem legible_ofNat {depth n : Nat} (fits : n < Nat.pow 2 64) :
    Legible depth (.ofNat n) :=
  Number.readsBack_integer (by omega) (Int.ofNat_lt.mpr fits)

/-! ## What is read of a value -/

/-- What the text of a number is read as. -/
def Number.reread (n : Number) : Draft := (readValue 1 0 n.text).1

mutual

/-- What the text of a value is read as: the value, but for the numbers that are not read back. -/
def reread : Json → Draft
  | .null => .null
  | .bool b => .bool b
  | .number n => n.reread
  | .string s => .string s
  | .array items => .array (rereadItems items)
  | .object members => .object (rereadMembers members) true

/-- What the texts of items are read as. -/
def rereadItems : List Json → List Draft
  | [] => []
  | item :: rest => reread item :: rereadItems rest

/-- What the texts of members are read as. -/
def rereadMembers : List (String × Json) → List (String × Draft)
  | [] => []
  | (key, value) :: rest => (key, reread value) :: rereadMembers rest

end

section Values

variable {n : Number} {depth : Nat} {rest : List Char}

theorem skipSpace_cons {c : Char} (mark : isSpace c = false) (rest : List Char) :
    skipSpace (c :: rest) = c :: rest :=
  List.dropWhile_cons_of_neg (by simp [mark])

/-- A numeral begins with a minus or a digit. -/
theorem Numeral.exists_text_eq {numeral : Numeral} (proper : numeral.Proper) :
    ∃ c more, numeral.text = c :: more ∧ (c = '-' ∨ Findings.Number.isDigit c = true) := by
  rw [text]
  cases numeral.negative with
  | true => exact ⟨'-', _, rfl, .inl rfl⟩
  | false =>
    obtain ⟨c, more, whole⟩ := List.exists_cons_of_ne_nil proper.whole.given
    have digit := proper.whole.all c (whole ▸ List.mem_cons_self)
    refine ⟨c, more ++ (fractionText numeral.fraction ++ exponentText numeral.exponent), ?_,
      .inr digit⟩
    rw [if_neg Bool.false_ne_true, List.nil_append, unsignedText, whole, List.cons_append]

theorem isSpace_of_numeral {c : Char} (first : c = '-' ∨ Findings.Number.isDigit c = true) :
    isSpace c = false := by
  cases space : isSpace c with
  | false => rfl
  | true =>
    simp only [isSpace, Bool.or_eq_true, beq_iff_eq] at space
    rcases space with ((rfl | rfl) | rfl) | rfl <;> exact absurd first (by decide)

/-- The draft of a number, which is unreadable where no number is as great. -/
def draftOf : Option Number → Draft
  | some n => .number n
  | none => .unreadable

/-- No value but a number begins like one. -/
theorem readValue_numeral {numeral : Numeral} (proper : numeral.Proper) (stops : Stops rest)
    (fuel depth : Nat) : readValue (fuel + 1) depth (numeral.text ++ rest) =
      (draftOf numeral.value?, some rest) := by
  have split := Numeral.split?_text proper stops
  obtain ⟨c, more, text, first⟩ := Numeral.exists_text_eq proper
  rw [text, List.cons_append] at split ⊢
  unfold readValue
  rw [skipSpace_cons (isSpace_of_numeral first)]
  split
  case h_7 =>
    simp only [split]
    cases numeral.value? <;> rfl
  all_goals
    next same =>
      obtain ⟨rfl, -⟩ := List.cons.inj same
      exact absurd first (by decide)

/-- A reader that comes upon the text finds the draft and goes on behind it, wherever the text goes
on with nothing that a number could go on with. The text begins with a mark that stands neither
between values nor behind the last of them. -/
structure Reads (depth : Nat) (text : List Char) (draft : Draft) : Prop where
  begins : ∃ c more, text = c :: more ∧ isSpace c = false ∧ c ≠ ']'
  finds : ∀ {fuel : Nat} {rest : List Char}, Stops rest → 2 * text.length ≤ fuel + 1 →
    readValue (fuel + 1) depth (text ++ rest) = (draft, some rest)

/-- Where a number is written a reader finds what it finds in the text of the number alone. -/
theorem reads_number (n : Number) : Reads depth n.text n.reread := by
  rcases n.spelled with ⟨numeral, proper, text⟩ | text
  · have alone := readValue_numeral proper stops_nil 0 0
    rw [List.append_nil, ← text] at alone
    obtain ⟨c, more, spelled, first⟩ := Numeral.exists_text_eq proper
    refine ⟨⟨c, more, text.trans spelled, isSpace_of_numeral first, ?_⟩, fun stops _ => ?_⟩
    · rintro rfl
      exact absurd first (by decide)
    · rw [Number.reread, alone, text]
      exact readValue_numeral proper stops _ depth
  · rw [Number.reread, text]
    exact ⟨⟨'n', _, rfl, rfl, by decide⟩, fun _ _ => rfl⟩

/-- A number that is read back is what its text is read as. -/
theorem Number.ReadsBack.reread_eq (reads : n.ReadsBack) : n.reread = .number n := by
  obtain ⟨numeral, split, value⟩ := reads [] delimited_nil
  rcases n.spelled with ⟨spelled, proper, text⟩ | text
  · rw [text, Numeral.split?_text proper stops_nil] at split
    cases split
    have alone := readValue_numeral proper stops_nil 0 0
    rw [List.append_nil, ← text, value] at alone
    rw [reread, alone]
    rfl
  · rw [text] at split
    cases split

end Values

mutual

/-- A value that is legible is read back, and its containers are not too many. -/
theorem Legible.reread_eq : ∀ {value : Json} {depth : Nat}, value.Legible depth →
    depth < nestingLimit → value.reread = draft value ∧ depth + value.height < nestingLimit
  | .null, _, _, room | .bool _, _, _, room | .string _, _, _, room => ⟨rfl, room⟩
  | .number _, _, reads, room => ⟨Number.ReadsBack.reread_eq reads, room⟩
  | .array items, depth, ⟨limit, legible⟩, _ => by
    obtain ⟨same, room⟩ := LegibleItems.reread_eq legible limit
    refine ⟨congrArg Draft.array same, ?_⟩
    rw [height_array]
    omega
  | .object members, depth, ⟨limit, legible⟩, _ => by
    obtain ⟨same, room⟩ := LegibleMembers.reread_eq legible limit
    refine ⟨congrArg (Draft.object · true) same, ?_⟩
    rw [height_object]
    omega

theorem LegibleItems.reread_eq : ∀ {items : List Json} {depth : Nat}, LegibleItems depth items →
    depth < nestingLimit → rereadItems items = draftItems items ∧
      depth + Draft.heightItems (draftItems items) < nestingLimit
  | [], _, _, room => ⟨rfl, room⟩
  | item :: rest, depth, ⟨first, others⟩, limit => by
    obtain ⟨same, room⟩ := Legible.reread_eq first limit
    obtain ⟨same', room'⟩ := LegibleItems.reread_eq others limit
    rw [rereadItems, heightItems_cons, draftItems, same, same']
    exact ⟨rfl, by omega⟩

theorem LegibleMembers.reread_eq : ∀ {members : List (String × Json)} {depth : Nat},
    LegibleMembers depth members → depth < nestingLimit →
      rereadMembers members = draftMembers members ∧
        depth + Draft.heightMembers (draftMembers members) < nestingLimit
  | [], _, _, room => ⟨rfl, room⟩
  | (key, value) :: rest, depth, ⟨first, others⟩, limit => by
    obtain ⟨same, room⟩ := Legible.reread_eq first limit
    obtain ⟨same', room'⟩ := LegibleMembers.reread_eq others limit
    rw [rereadMembers, heightMembers_cons, draftMembers, same, same']
    exact ⟨rfl, by omega⟩

end

/-! ## Containers -/

/-- Characters that may stand between the parts of a text. -/
def Blank (space : List Char) : Prop := ∀ c ∈ space, isSpace c = true

theorem blank_nil : Blank [] := nofun

section Containers

variable {fuel depth : Nat} {opening space closing rest : List Char}

/-- Blanks in front of a text are skipped. -/
theorem skipSpace_append (blank : Blank space) (cs : List Char) :
    skipSpace (space ++ cs) = skipSpace cs :=
  List.dropWhile_append_of_pos blank

theorem skipSpace_append_cons {c : Char} (blank : Blank space) (mark : isSpace c = false)
    (cs : List Char) : skipSpace (space ++ c :: cs) = c :: cs := by
  rw [skipSpace_append blank, skipSpace_cons mark]

theorem isForeign_of_isSpace {c : Char} (space : isSpace c = true) : isForeign c = true := by
  simp only [isSpace, Bool.or_eq_true, beq_iff_eq] at space
  rcases space with ((rfl | rfl) | rfl) | rfl <;> decide

/-- No number goes on with a blank. -/
theorem Blank.stops (blank : Blank space) : Stops space := fun c first =>
  isForeign_of_isSpace (blank c (List.mem_of_mem_head? first))

/-- A number ends in front of blanks and a foreign character behind them. -/
theorem stops_append {c : Char} (blank : Blank space) (foreign : isForeign c = true) :
    Stops (space ++ c :: rest) := by
  cases space with
  | nil => exact stops_cons foreign
  | cons d space => exact stops_cons (isForeign_of_isSpace (blank d List.mem_cons_self))

theorem readValue_append (blank : Blank space) (cs : List Char) :
    readValue fuel depth (space ++ cs) = readValue fuel depth cs := by
  cases fuel with
  | zero => rw [readValue, readValue]
  | succ fuel => rw [readValue, readValue, skipSpace_append blank]

theorem readItems_append (blank : Blank space) (cs : List Char) :
    readItems fuel depth (space ++ cs) = readItems fuel depth cs := by
  cases fuel with
  | zero => rw [readItems, readItems]
  | succ fuel => rw [readItems, readItems, readValue_append blank]

theorem readMembers_append (blank : Blank space) (cs : List Char) :
    readMembers fuel depth (space ++ cs) = readMembers fuel depth cs := by
  cases fuel with
  | zero => rw [readMembers, readMembers]
  | succ fuel => rw [readMembers, readMembers, skipSpace_append blank]

/-- An array is what its items are read as, one container deeper. -/
theorem readValue_bracket {c : Char} {cs : List Char} {items : List Draft} (opens : Blank opening)
    (mark : isSpace c = false) (inner : c ≠ ']')
    (read : readItems fuel (depth + 1) (c :: cs) = (items, some rest)) :
    readValue (fuel + 1) depth ('[' :: (opening ++ c :: cs)) =
      (within (depth + 1) (.array items), some rest) := by
  unfold readValue
  rw [skipSpace_cons rfl]
  show (within (depth + 1) (.array (Prod.fst _)), Prod.snd _) = _
  rw [skipSpace_append_cons opens mark]
  split
  next same =>
    cases same
    exact absurd rfl inner
  next => rw [read]

/-- An object is what its members are read as, one container deeper. -/
theorem readValue_brace {cs : List Char} {members : List (String × Draft)} {closed : Bool}
    (opens : Blank opening)
    (read : readMembers fuel (depth + 1) ('"' :: cs) = (members, closed, some rest)) :
    readValue (fuel + 1) depth ('\x7b' :: (opening ++ '"' :: cs)) =
      (within (depth + 1) (.object members closed), some rest) := by
  have key := skipSpace_append_cons opens (show isSpace '"' = false from rfl) cs
  unfold readValue
  rw [skipSpace_cons rfl]
  simp only [key]
  show (within (depth + 1) (.object (readMembers _ _ _).1 (readMembers _ _ _).2.1),
    (readMembers _ _ _).2.2) = _
  rw [read]

/-- An item in front of a closing bracket is the last one. -/
theorem readItems_last {cs after : List Char} {item : Draft}
    (read : readValue fuel depth cs = (item, some after)) (closes : skipSpace after = ']' :: rest) :
    readItems (fuel + 1) depth cs = ([item], some rest) := by
  rw [readItems, read]
  simp only [closes]

/-- An item in front of a comma is followed by others. -/
theorem readItems_comma {cs after more : List Char} {item : Draft} {items : List Draft}
    (read : readValue fuel depth cs = (item, some after)) (goes_on : skipSpace after = ',' :: more)
    (others : readItems fuel depth more = (items, some rest)) :
    readItems (fuel + 1) depth cs = (item :: items, some rest) := by
  rw [readItems, read]
  simp only [goes_on, others]

/-- A member in front of a closing brace is the last one. -/
theorem readMembers_last {cs text after : List Char} {key : String} {value : Draft}
    (name : stringAfter none true [] cs = some (some key, ':' :: text))
    (read : readValue fuel depth text = (value, some after))
    (closes : skipSpace after = '\x7d' :: rest) :
    readMembers (fuel + 1) depth ('"' :: cs) = ([(key, value)], true, some rest) := by
  unfold readMembers
  rw [skipSpace_cons rfl]
  simp only [name]
  rw [skipSpace_cons rfl]
  simp only [read, closes]

/-- A member in front of a comma is followed by others. -/
theorem readMembers_comma {cs text after more : List Char} {key : String} {value : Draft}
    {members : List (String × Draft)} {closed : Bool}
    (name : stringAfter none true [] cs = some (some key, ':' :: text))
    (read : readValue fuel depth text = (value, some after))
    (goes_on : skipSpace after = ',' :: more)
    (others : readMembers fuel depth more = (members, closed, some rest)) :
    readMembers (fuel + 1) depth ('"' :: cs) = ((key, value) :: members, closed, some rest) := by
  unfold readMembers
  rw [skipSpace_cons rfl]
  simp only [name]
  rw [skipSpace_cons rfl]
  simp only [read, goes_on, others]

end Containers

/-- A container of parts, with what stands before them, between them and behind them. -/
def enclosed (first last : Char) (opening space closing : List Char) (parts : List (List Char)) :
    List Char :=
  if parts.isEmpty then [first, last]
  else [first] ++ opening ++ joinWith (',' :: space) parts ++ closing ++ [last]

/-- A key and the text of its value are read as a member. -/
def ReadsMember (depth : Nat) (text : List Char) (member : String × Draft) : Prop :=
  ∃ gap value, Blank gap ∧ text = stringText member.1 ++ ':' :: (gap ++ value) ∧
    Reads depth value member.2

theorem exists_joinWith_cons_eq (separator part : List Char) (parts : List (List Char)) :
    ∃ tail, joinWith separator (part :: parts) = part ++ tail := by
  cases parts with
  | nil => exact ⟨[], (List.append_nil _).symm⟩
  | cons next parts => exact ⟨_, List.append_assoc ..⟩

section Parts

variable {depth : Nat} {opening space closing : List Char} {texts : List (List Char)}

theorem joinWith_cons_cons (separator part next : List Char) (parts : List (List Char)) :
    joinWith separator (part :: next :: parts) =
      part ++ (separator ++ joinWith separator (next :: parts)) := by
  rw [joinWith, List.append_assoc]
  exact nofun

/-- Texts that are joined by commas, with blanks behind each of them, are read as the items they are
read as alone. -/
theorem readItems_joined {fuel : Nat} {items : List Draft} (blank : Blank space)
    (closes : Blank closing) (each : List.Forall₂ (Reads depth) texts items) (some : texts ≠ [])
    (enough : 2 * (joinWith (',' :: space) texts).length ≤ fuel + 1) (rest : List Char) :
    readItems (fuel + 2) depth (joinWith (',' :: space) texts ++ (closing ++ ']' :: rest)) =
      (items, .some rest) := by
  induction each generalizing fuel with
  | nil => exact absurd rfl some
  | @cons text item _ _ first others ih =>
    cases others with
    | nil =>
      exact readItems_last (first.finds (stops_append closes rfl) enough)
        (skipSpace_append_cons closes rfl rest)
    | cons _ _ =>
      rw [joinWith_cons_cons, List.length_append, List.length_append, List.length_cons] at enough
      rw [joinWith_cons_cons, List.append_assoc, List.append_assoc, List.cons_append]
      obtain ⟨fuel, rfl⟩ : ∃ f, fuel = f + 1 := ⟨fuel - 1, by omega⟩
      refine readItems_comma (first.finds (stops_cons rfl) (by omega)) (skipSpace_cons rfl _) ?_
      rw [readItems_append blank]
      exact ih (List.cons_ne_nil _ _) (by omega)

theorem ReadsMember.finds {text : List Char} {key : String} {value : Draft}
    (reads : ReadsMember depth text (key, value)) (rest : List Char) :
    ∃ name after, text ++ rest = '"' :: name ∧
      stringAfter none true [] name = some (some key, ':' :: after) ∧
      ∀ {fuel : Nat}, Stops rest → 2 * text.length ≤ fuel + 1 →
        readValue (fuel + 1) depth after = (value, some rest) := by
  obtain ⟨gap, valueText, apart, rfl, found⟩ := reads
  obtain ⟨shape, name⟩ := stringAfter_stringText key (':' :: (gap ++ (valueText ++ rest)))
  refine ⟨_, _, ?_, name, fun stops enough => ?_⟩
  · rw [List.append_assoc, List.cons_append, List.append_assoc, shape]
  · rw [List.length_append, List.length_cons, List.length_append] at enough
    rw [readValue_append apart]
    exact found.finds stops (by omega)

/-- Members that are joined by commas are read one after the other. -/
theorem readMembers_joined {fuel : Nat} {members : List (String × Draft)} (blank : Blank space)
    (closes : Blank closing) (each : List.Forall₂ (ReadsMember depth) texts members)
    (some : texts ≠ []) (enough : 2 * (joinWith (',' :: space) texts).length ≤ fuel + 1)
    (rest : List Char) :
    readMembers (fuel + 2) depth (joinWith (',' :: space) texts ++ (closing ++ '\x7d' :: rest)) =
      (members, true, .some rest) := by
  induction each generalizing fuel with
  | nil => exact absurd rfl some
  | @cons text member _ _ first others ih =>
    cases others with
    | nil =>
      obtain ⟨name, after, shape, key, reads⟩ := first.finds (closing ++ '\x7d' :: rest)
      rw [joinWith, shape]
      exact readMembers_last key (reads (stops_append closes rfl) enough)
        (skipSpace_append_cons closes rfl rest)
    | @cons next _ others _ _ _ =>
      obtain ⟨name, after, shape, key, reads⟩ := first.finds
        (',' :: (space ++
          (joinWith (',' :: space) (next :: others) ++ (closing ++ '\x7d' :: rest))))
      rw [joinWith_cons_cons, List.length_append, List.length_append, List.length_cons] at enough
      rw [joinWith_cons_cons, List.append_assoc, List.append_assoc, List.cons_append, shape]
      obtain ⟨fuel, rfl⟩ : ∃ f, fuel = f + 1 := ⟨fuel - 1, by omega⟩
      refine readMembers_comma key (reads (stops_cons rfl) (by omega)) (skipSpace_cons rfl _) ?_
      rw [readMembers_append blank]
      exact ih (List.cons_ne_nil _ _) (by omega)

theorem length_enclosed (first last : Char) (opening space closing : List Char)
    (some : texts ≠ []) :
    (joinWith (',' :: space) texts).length + 2 ≤
      (enclosed first last opening space closing texts).length := by
  rw [enclosed, if_neg (by simpa using some)]
  simp only [List.length_append, List.length_singleton]
  omega

theorem enclosed_append (first last : Char) (opening space closing : List Char) (some : texts ≠ [])
    (rest : List Char) : enclosed first last opening space closing texts ++ rest =
      first :: (opening ++ (joinWith (',' :: space) texts ++ (closing ++ last :: rest))) := by
  rw [enclosed, if_neg (by simpa using some)]
  simp

theorem exists_enclosed_eq (first last : Char) (opening space closing : List Char)
    (texts : List (List Char)) :
    ∃ more, enclosed first last opening space closing texts = first :: more := by
  cases texts with
  | nil => exact ⟨[last], rfl⟩
  | cons text texts =>
    have shape := enclosed_append first last opening space closing
      (List.cons_ne_nil text texts) []
    rw [List.append_nil] at shape
    exact ⟨_, shape⟩

/-- An array is read back from its items, wherever blanks stand between them. -/
theorem reads_array {items : List Draft} (room : depth + 1 < nestingLimit) (opens : Blank opening)
    (blank : Blank space) (closes : Blank closing)
    (each : List.Forall₂ (Reads (depth + 1)) texts items) :
    Reads depth (enclosed '[' ']' opening space closing texts) (.array items) := by
  obtain ⟨more, begins⟩ := exists_enclosed_eq '[' ']' opening space closing texts
  refine ⟨⟨'[', more, begins, rfl, by decide⟩, fun {fuel rest} _ enough => ?_⟩
  have limited : within (depth + 1) (.array items) = .array items := if_pos room
  rw [← limited]
  cases each with
  | nil => rfl
  | @cons text item texts items first others =>
    have some : text :: texts ≠ [] := List.cons_ne_nil text texts
    have length := length_enclosed '[' ']' opening space closing some
    obtain ⟨c, _, head, mark, inner⟩ := first.begins
    obtain ⟨tail, joined⟩ := exists_joinWith_cons_eq (',' :: space) text texts
    obtain ⟨fuel, rfl⟩ : ∃ f, fuel = f + 2 := ⟨fuel - 2, by omega⟩
    have read := readItems_joined blank closes (.cons first others) some
      (show _ ≤ fuel + 1 by omega) rest
    rw [enclosed_append '[' ']' opening space closing some]
    rw [joined, head] at read ⊢
    exact readValue_bracket opens mark inner read

/-- An object is read back from its members, wherever blanks stand between them. -/
theorem reads_object {members : List (String × Draft)} (room : depth + 1 < nestingLimit)
    (opens : Blank opening) (blank : Blank space) (closes : Blank closing)
    (each : List.Forall₂ (ReadsMember (depth + 1)) texts members) :
    Reads depth (enclosed '\x7b' '\x7d' opening space closing texts) (.object members true) := by
  obtain ⟨more, begins⟩ := exists_enclosed_eq '\x7b' '\x7d' opening space closing texts
  refine ⟨⟨'\x7b', more, begins, rfl, by decide⟩, fun {fuel rest} _ enough => ?_⟩
  have limited : within (depth + 1) (.object members true) = .object members true := if_pos room
  rw [← limited]
  cases each with
  | nil => rfl
  | @cons text member texts members first others =>
    have some : text :: texts ≠ [] := List.cons_ne_nil text texts
    have length := length_enclosed '\x7b' '\x7d' opening space closing some
    obtain ⟨tail, joined⟩ := exists_joinWith_cons_eq (',' :: space) text texts
    obtain ⟨fuel, rfl⟩ : ∃ f, fuel = f + 2 := ⟨fuel - 2, by omega⟩
    have read := readMembers_joined blank closes (.cons first others) some
      (show _ ≤ fuel + 1 by omega) rest
    obtain ⟨_, _, _, head, _⟩ := first
    rw [enclosed_append '\x7b' '\x7d' opening space closing some]
    rw [joined, head] at read ⊢
    exact readValue_brace opens read

end Parts

/-! ## Texts in one line -/

theorem reads_null {depth : Nat} : Reads depth "null".toList .null :=
  ⟨⟨'n', _, rfl, rfl, by decide⟩, fun _ _ => rfl⟩

theorem reads_true {depth : Nat} : Reads depth "true".toList (.bool true) :=
  ⟨⟨'t', _, rfl, rfl, by decide⟩, fun _ _ => rfl⟩

theorem reads_false {depth : Nat} : Reads depth "false".toList (.bool false) :=
  ⟨⟨'f', _, rfl, rfl, by decide⟩, fun _ _ => rfl⟩

/-- A string is read back wherever it is written. -/
theorem reads_string {depth : Nat} (s : String) : Reads depth (stringText s) (.string s) := by
  refine ⟨⟨'"', _, rfl, rfl, by decide⟩, fun {fuel rest} _ _ => ?_⟩
  obtain ⟨shape, read⟩ := stringAfter_stringText s rest
  rw [shape, readValue, skipSpace_cons rfl]
  simp only [read]

theorem joinWith_eq_enclosed (first last : Char) (parts : List (List Char)) :
    [first] ++ joinWith [','] parts ++ [last] = enclosed first last [] [] [] parts := by
  cases parts with
  | nil => rfl
  | cons part parts => simp [enclosed]

mutual

/-- Where the text of a value begins, a reader finds the value and goes on behind it. -/
theorem reads_compactText : ∀ {value : Json} {depth : Nat},
    depth + value.height < nestingLimit → Reads depth value.compactText value.reread
  | .null, _, _ => reads_null
  | .bool true, _, _ => reads_true
  | .bool false, _, _ => reads_false
  | .number n, _, _ => reads_number n
  | .string s, _, _ => reads_string s
  | .array items, depth, room => by
    rw [height_array] at room
    rw [compactText, joinWith_eq_enclosed]
    exact reads_array (by omega) blank_nil blank_nil blank_nil (reads_compactItems (by omega))
  | .object members, depth, room => by
    rw [height_object] at room
    rw [compactText, joinWith_eq_enclosed]
    exact reads_object (by omega) blank_nil blank_nil blank_nil (reads_compactMembers (by omega))

theorem reads_compactItems : ∀ {items : List Json} {depth : Nat},
    depth + Draft.heightItems (draftItems items) < nestingLimit →
      List.Forall₂ (Reads depth) (compactItems items) (rereadItems items)
  | [], _, _ => .nil
  | item :: rest, depth, room => by
    rw [heightItems_cons] at room
    exact .cons (reads_compactText (by omega)) (reads_compactItems (by omega))

theorem reads_compactMembers : ∀ {members : List (String × Json)} {depth : Nat},
    depth + Draft.heightMembers (draftMembers members) < nestingLimit →
      List.Forall₂ (ReadsMember depth) (compactMembers members) (rereadMembers members)
  | [], _, _ => .nil
  | (key, value) :: rest, depth, room => by
    rw [heightMembers_cons] at room
    have text : stringText key ++ [':'] ++ value.compactText =
        stringText key ++ ':' :: ([] ++ value.compactText) := List.append_assoc ..
    exact .cons ⟨[], _, blank_nil, text, reads_compactText (by omega)⟩
      (reads_compactMembers (by omega))

end

/-- A text that is read, with nothing but blanks behind it, is read throughout. -/
theorem Reads.ofText_eq {text space : List Char} {found : Draft} (reads : Reads 0 text found)
    (blank : Blank space) : Document.ofText (String.ofList (text ++ space)) = ⟨found, true⟩ := by
  have length : (text ++ space).length = text.length + space.length := List.length_append
  have read : readValue (2 * (text ++ space).length + 2) 0 (text ++ space) = (found, some space) :=
    reads.finds blank.stops (by omega)
  have nothing : skipSpace space = [] := by
    have behind := skipSpace_append blank []
    rwa [List.append_nil] at behind
  rw [Document.ofText, String.toList_ofList]
  simp only [read, nothing]
  rfl

/-- The text of a value is read as the value, and all of it. -/
theorem ofText_compact {value : Json} (legible : value.Legible 0) :
    Document.ofText value.compact = ⟨draft value, true⟩ := by
  obtain ⟨same, room⟩ := legible.reread_eq (by decide)
  have read := (reads_compactText room).ofText_eq blank_nil
  rwa [List.append_nil, same] at read

end Findings.Json
