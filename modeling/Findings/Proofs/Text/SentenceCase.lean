import Findings.Proofs.Text.CaseMappings

/-!
Sentence case. Of every text it raises the first letter and lowers the rest
(`sentenceCase_raises_first_letter`), and among the seven-bit characters this changes nothing but
the case. A second pass finds the same letter, but it lowers what the upper case of that letter put
after its first character. So sentence case is idempotent on a text exactly if its first letter is
not one of those whose upper case spells out further capitals (`sentenceCase_idempotent_iff`), as
that of the sharp s does.
-/

namespace Findings.Text

/-! ## The first letter -/

/-- A text without letters. -/
def Unlettered (cs : List Char) : Prop := ∀ c ∈ cs, isAlphabetic c = false

instance : DecidablePred Unlettered := fun cs => List.decidableBAll (isAlphabetic · = false) cs

/-- The first letter of a text stands between a lead-in without letters and the rest. -/
structure FirstLetter (cs lead : List Char) (letter : Char) (rest : List Char) : Prop where
  split : cs = lead ++ letter :: rest
  lead_unlettered : Unlettered lead
  is_letter : isAlphabetic letter

variable {cs lead rest : List Char} {letter : Char}

theorem unlettered_or_firstLetter (cs : List Char) :
    Unlettered cs ∨ ∃ lead letter rest, FirstLetter cs lead letter rest := by
  cases found : cs.find? isAlphabetic with
  | none => exact Or.inl fun c among => Bool.eq_false_iff.mpr (List.find?_eq_none.mp found c among)
  | some letter =>
    obtain ⟨is_letter, lead, rest, split, before⟩ := List.find?_eq_some_iff_append.mp found
    have lead_unlettered : Unlettered lead := fun c among => by simpa using before c among
    exact Or.inr ⟨lead, letter, rest, split, lead_unlettered, is_letter⟩

theorem lowerAll_append (cs ds : List Char) : lowerAll (cs ++ ds) = lowerAll cs ++ lowerAll ds :=
  List.flatMap_append

/-- A lead-in without letters is lowered, and what comes after it decides the rest. -/
theorem capitalize_append (unlettered : Unlettered lead) (rest : List Char) :
    capitalize (lead ++ rest) = lowerAll lead ++ capitalize rest := by
  induction lead with
  | nil => rfl
  | cons c lead ih =>
    have plain : ¬ isAlphabetic c := Bool.eq_false_iff.mp (unlettered c List.mem_cons_self)
    have tail_unlettered : Unlettered lead := fun d among =>
      unlettered d (List.mem_cons_of_mem c among)
    rw [List.cons_append, capitalize, if_neg plain, ih tail_unlettered, ← List.append_assoc]
    rfl

theorem Unlettered.capitalize_eq (unlettered : Unlettered cs) : capitalize cs = lowerAll cs := by
  have whole := capitalize_append unlettered []
  rwa [List.append_nil, capitalize, List.append_nil] at whole

theorem FirstLetter.capitalize_eq (first : FirstLetter cs lead letter rest) :
    capitalize cs = lowerAll lead ++ upperCase letter ++ lowerAll rest := by
  rw [first.split, capitalize_append first.lead_unlettered, capitalize, if_pos first.is_letter,
    List.append_assoc]

@[simp] theorem toList_sentenceCase (s : String) :
    (sentenceCase s).toList = capitalize s.toList :=
  String.toList_ofList

theorem lowerAll_eq_map {f : Char → Char} (single : ∀ c ∈ cs, lowerCase c = [f c]) :
    lowerAll cs = cs.map f := by
  rw [List.map_eq_flatMap]
  exact List.flatMap_congr single

/-- A text whose characters are their own lower case is its own lower case. -/
theorem lowerAll_eq_self (small : ∀ c ∈ cs, lowerCase c = [c]) : lowerAll cs = cs := by
  rw [lowerAll_eq_map (f := id) small, List.map_id]

theorem Unlettered.lowerAll_eq (unlettered : Unlettered cs) : lowerAll cs = cs :=
  lowerAll_eq_self fun c among => lowerCase_of_unlettered (unlettered c among)

theorem Unlettered.capitalize_eq_self (unlettered : Unlettered cs) : capitalize cs = cs := by
  rw [unlettered.capitalize_eq, unlettered.lowerAll_eq]

theorem lowerAll_lowerAll (cs : List Char) : lowerAll (lowerAll cs) = lowerAll cs := by
  refine lowerAll_eq_self fun d among => ?_
  obtain ⟨c, -, image⟩ := List.mem_flatMap.mp among
  exact lowerCase_of_mem_lowerCase image

/-! ## Seven-bit characters -/

/-- A text of seven-bit characters. -/
def IsSevenBit (cs : List Char) : Prop := ∀ c ∈ cs, c.val < 128

instance : DecidablePred IsSevenBit := fun cs => List.decidableBAll (fun c : Char => c.val < 128) cs

/-- The second text is the first in sentence case: it differs in case only, and it has no capital
other than its first letter. -/
structure IsRecased (cs ds : List Char) : Prop where
  length_eq : ds.length = cs.length
  sevenBit : IsSevenBit ds
  agree : ∀ i : Nat, ds[i]?.map Char.toLower = cs[i]?.map Char.toLower
  one_capital : ds.countP Char.isUpper ≤ 1
  capital_first : ∀ before c after, ds = before ++ c :: after → c.isUpper →
    FirstLetter ds before c after

theorem IsSevenBit.lowerAll_eq (narrow : IsSevenBit cs) : lowerAll cs = cs.map Char.toLower :=
  lowerAll_eq_map fun c among => if_pos (narrow c among)

theorem isAlphabetic_of_isUpper {c : Char} (low : c.val < 128) (upper : c.isUpper) :
    isAlphabetic c := by
  rw [isAlphabetic, if_pos low, Char.isAlpha, upper, Bool.true_or]

theorem not_isUpper_of_mem_map_toLower {c : Char} (among : c ∈ cs.map Char.toLower) :
    ¬ c.isUpper := by
  obtain ⟨d, -, rfl⟩ := List.mem_map.mp among
  rw [Char.isUpper_toLower_eq_false]
  exact Bool.false_ne_true

theorem Unlettered.not_isUpper (unlettered : Unlettered cs) (narrow : IsSevenBit cs) {c : Char}
    (among : c ∈ cs) : ¬ c.isUpper := fun upper =>
  Bool.false_ne_true ((unlettered c among).symm.trans
    (isAlphabetic_of_isUpper (narrow c among) upper))

/-- A text of which only one character may be a capital has it at one place only. -/
theorem eq_of_append_cons_eq {before after : List Char} {c : Char}
    (lead_small : ∀ d ∈ lead, ¬ d.isUpper) (rest_small : ∀ d ∈ rest, ¬ d.isUpper)
    (same : lead ++ letter :: rest = before ++ c :: after) (upper : c.isUpper) :
    before = lead ∧ c = letter ∧ after = rest := by
  rcases List.append_eq_append_iff.mp same with ⟨between, rfl, tails⟩ | ⟨between, rfl, tails⟩
  · cases between with
    | nil => simp_all
    | cons d between =>
      obtain ⟨-, rfl⟩ := List.cons.inj tails
      exact absurd upper (rest_small c (by simp))
  · cases between with
    | nil => simp_all
    | cons d between =>
      obtain ⟨rfl, -⟩ := List.cons.inj tails
      exact absurd upper (lead_small c (by simp))

theorem Unlettered.isRecased (unlettered : Unlettered cs) (narrow : IsSevenBit cs) :
    IsRecased cs cs where
  length_eq := rfl
  sevenBit := narrow
  agree := fun _ => rfl
  one_capital := by
    rw [List.countP_eq_zero.mpr fun c among => unlettered.not_isUpper narrow among]
    exact Nat.zero_le 1
  capital_first := fun before c after split upper =>
    absurd upper (unlettered.not_isUpper narrow (by simp [split]))

theorem FirstLetter.isRecased (first : FirstLetter cs lead letter rest)
    (narrow : IsSevenBit cs) :
    IsRecased cs (lead ++ letter.toUpper :: rest.map Char.toLower) := by
  obtain ⟨rfl, lead_unlettered, is_letter⟩ := first
  have lead_narrow : IsSevenBit lead := fun d among => narrow d (by simp [among])
  have letter_narrow : letter.val < 128 := narrow letter (by simp)
  have lead_small : ∀ d ∈ lead, ¬ d.isUpper := fun d among =>
    lead_unlettered.not_isUpper lead_narrow among
  have rest_small : ∀ d ∈ rest.map Char.toLower, ¬ d.isUpper := fun d among =>
    not_isUpper_of_mem_map_toLower among
  refine ⟨?_, ?_, ?_, ?_, ?_⟩
  · simp only [List.length_append, List.length_cons, List.length_map]
  · intro d among
    rcases List.mem_append.mp among with inside | after
    · exact lead_narrow d inside
    · rcases List.mem_cons.mp after with rfl | inside
      · exact toUpper_val_lt letter_narrow
      · obtain ⟨e, within, rfl⟩ := List.mem_map.mp inside
        exact toLower_val_lt (narrow e (by simp [within]))
  · have folded : (lead ++ letter.toUpper :: rest.map Char.toLower).map Char.toLower =
        (lead ++ letter :: rest).map Char.toLower := by
      simp
    intro i
    rw [← List.getElem?_map, folded, List.getElem?_map]
  · rw [List.countP_append, List.countP_cons, List.countP_eq_zero.mpr lead_small,
      List.countP_eq_zero.mpr rest_small]
    split
    · exact Nat.le_refl 1
    · exact Nat.zero_le 1
  · intro before c after same upper
    obtain ⟨rfl, rfl, rfl⟩ := eq_of_append_cons_eq lead_small rest_small same upper
    exact ⟨rfl, lead_unlettered, isAlphabetic_of_isUpper (toUpper_val_lt letter_narrow) upper⟩

theorem capitalize_isRecased (narrow : IsSevenBit cs) : IsRecased cs (capitalize cs) := by
  rcases unlettered_or_firstLetter cs with unlettered | ⟨lead, letter, rest, first⟩
  · rw [unlettered.capitalize_eq_self]
    exact unlettered.isRecased narrow
  · have letter_narrow : letter.val < 128 := narrow letter (by simp [first.split])
    have rest_narrow : IsSevenBit rest := fun d among => narrow d (by simp [first.split, among])
    rw [first.capitalize_eq, first.lead_unlettered.lowerAll_eq, rest_narrow.lowerAll_eq, upperCase,
      if_pos letter_narrow, List.append_assoc, List.singleton_append]
    exact first.isRecased narrow

/-- Sentence case raises one character and no other. A text without letters is lowered throughout;
any other has a first letter, which takes its upper case while everything before and after it takes
its lower case, each of them in as many characters as the mapping has. Among the seven-bit
characters the text keeps its length and its spelling, and no capital is left but the first
letter. -/
theorem sentenceCase_raises_first_letter (s : String) :
    (Unlettered s.toList → (sentenceCase s).toList = lowerAll s.toList) ∧
    (∀ lead letter rest, FirstLetter s.toList lead letter rest →
      (sentenceCase s).toList = lowerAll lead ++ upperCase letter ++ lowerAll rest) ∧
    (Unlettered s.toList ∨ ∃ lead letter rest, FirstLetter s.toList lead letter rest) ∧
    (IsSevenBit s.toList → IsRecased s.toList (sentenceCase s).toList) := by
  rw [toList_sentenceCase]
  exact ⟨fun unlettered => unlettered.capitalize_eq, fun _ _ _ first => first.capitalize_eq,
    unlettered_or_firstLetter s.toList, fun narrow => capitalize_isRecased narrow⟩

/-- A text with a lead-in, one whose first letter has two characters for its upper case, and one
without letters. -/
theorem sentenceCase_raises_first_letter_after_digits :
    sentenceCase "_3rd Party" = "_3Rd party" ∧
      IsRecased "_3rd Party".toList "_3Rd party".toList ∧
      sentenceCase "1ßA" = "1SSa" ∧ sentenceCase "4.2" = "4.2" := by
  have party : FirstLetter "_3rd Party".toList ['_', '3'] 'r' "d Party".toList :=
    ⟨by decide, by decide, by decide⟩
  have sharp : FirstLetter "1ßA".toList ['1'] 'ß' ['A'] :=
    ⟨by decide, by decide, by decide +kernel⟩
  obtain ⟨-, third, -, narrow⟩ := sentenceCase_raises_first_letter "_3rd Party"
  obtain ⟨-, spread, -, -⟩ := sentenceCase_raises_first_letter "1ßA"
  obtain ⟨lowered, -, -, -⟩ := sentenceCase_raises_first_letter "4.2"
  have raised : sentenceCase "_3rd Party" = "_3Rd party" :=
    String.toList_inj.mp ((third _ _ _ party).trans (by decide +kernel))
  refine ⟨raised, ?_, ?_, ?_⟩
  · rw [← raised]
    exact narrow (by decide)
  · exact String.toList_inj.mp ((spread _ _ _ sharp).trans (by decide +kernel))
  · exact String.toList_inj.mp ((lowered (by decide)).trans (by decide +kernel))

/-! ## A second pass -/

/-- The upper case of the character goes on with capitals after its first character. -/
def spreads (c : Char) : Bool := lowerAll (upperCase c).tail != (upperCase c).tail

/-- Where the characters are whose upper case goes on with capitals: the sharp s, letters with an
apostrophe or with an iota below, and ligatures. -/
def spreadingRanges : List (Nat × Nat) := [
  (0xDF, 0xDF), (0x149, 0x149), (0x587, 0x587), (0x1F80, 0x1FAF), (0x1FB2, 0x1FB4),
  (0x1FB7, 0x1FB7), (0x1FBC, 0x1FBC), (0x1FC2, 0x1FC4), (0x1FC7, 0x1FC7), (0x1FCC, 0x1FCC),
  (0x1FF2, 0x1FF4), (0x1FF7, 0x1FF7), (0x1FFC, 0x1FFC), (0xFB00, 0xFB06), (0xFB13, 0xFB17)]

/-- A letter that is its own upper case stays as it is, and so does the lead-in before it. -/
theorem capitalize_of_capital (unlettered : Unlettered lead) (is_letter : isAlphabetic letter)
    (capital : upperCase letter = [letter]) (rest : List Char) :
    capitalize (lead ++ letter :: rest) = lead ++ letter :: lowerAll rest := by
  have first : FirstLetter (lead ++ letter :: rest) lead letter rest :=
    ⟨rfl, unlettered, is_letter⟩
  rw [first.capitalize_eq, unlettered.lowerAll_eq, capital, List.append_assoc,
    List.singleton_append]

/-- Three passes over a text with a first letter. The second one lowers what the upper case of the
letter put after its first character; the third one finds nothing left to lower. -/
theorem FirstLetter.passes (first : FirstLetter cs lead letter rest) :
    ∃ capital more, upperCase letter = capital :: more ∧
      capitalize cs = lead ++ capital :: (more ++ lowerAll rest) ∧
      capitalize (capitalize cs) = lead ++ capital :: (lowerAll more ++ lowerAll rest) ∧
      capitalize (capitalize (capitalize cs)) = capitalize (capitalize cs) := by
  obtain ⟨capital, more, image, is_letter⟩ := exists_capital first.is_letter
  have leads : capital ∈ upperCase letter := by rw [image]; exact List.mem_cons_self
  have fixed : upperCase capital = [capital] := upperCase_of_mem_upperCase leads
  have again := capitalize_of_capital first.lead_unlettered is_letter fixed
  have once : capitalize cs = lead ++ capital :: (more ++ lowerAll rest) := by
    rw [first.capitalize_eq, first.lead_unlettered.lowerAll_eq, image, List.append_assoc,
      List.cons_append]
  have twice : capitalize (capitalize cs) =
      lead ++ capital :: (lowerAll more ++ lowerAll rest) := by
    rw [once, again, lowerAll_append, lowerAll_lowerAll]
  refine ⟨capital, more, image, once, twice, ?_⟩
  rw [twice, again, lowerAll_append, lowerAll_lowerAll, lowerAll_lowerAll]

theorem capitalize_capitalize_iff (cs : List Char) :
    capitalize (capitalize cs) = capitalize cs ↔
      ∀ lead letter rest, FirstLetter cs lead letter rest → spreads letter = false := by
  constructor
  · intro idempotent lead letter rest first
    obtain ⟨capital, more, image, once, twice, -⟩ := first.passes
    rw [twice, once] at idempotent
    have lowered : lowerAll more = more := by simpa using idempotent
    rw [spreads, image, List.tail_cons, lowered, bne_self_eq_false]
  · intro contained
    rcases unlettered_or_firstLetter cs with unlettered | ⟨lead, letter, rest, first⟩
    · rw [unlettered.capitalize_eq_self, unlettered.capitalize_eq_self]
    · obtain ⟨capital, more, image, once, twice, -⟩ := first.passes
      have kept := contained lead letter rest first
      rw [spreads, image, List.tail_cons, bne_eq_false_iff_eq] at kept
      rw [twice, once, kept]

/-- Among the seven-bit characters a second pass changes nothing. -/
theorem IsSevenBit.capitalize_capitalize (narrow : IsSevenBit cs) :
    capitalize (capitalize cs) = capitalize cs := by
  refine (capitalize_capitalize_iff cs).mpr fun lead letter rest first => ?_
  have low : letter.val < 128 := narrow letter (by simp [first.split])
  rw [spreads, upperCase, if_pos low]
  rfl

theorem capitalize_third_pass (cs : List Char) :
    capitalize (capitalize (capitalize cs)) = capitalize (capitalize cs) := by
  rcases unlettered_or_firstLetter cs with unlettered | ⟨lead, letter, rest, first⟩
  · have kept := unlettered.capitalize_eq_self
    rw [kept, kept, kept]
  · obtain ⟨-, -, -, -, -, third⟩ := first.passes
    exact third

theorem spreadingRanges_listed :
    (upperExpansions.all fun entry =>
      spreads (Char.ofNat entry.1) == inRanges spreadingRanges entry.1) &&
    spreadingRanges.all fun range => (List.range' range.1 (range.2 + 1 - range.1)).all fun n =>
      upperExpansions.any fun entry => entry.1 == n := by
  decide +kernel

/-- The characters whose upper case goes on with capitals, all told. -/
theorem spreads_iff {c : Char} : spreads c ↔ inRanges spreadingRanges c.toNat := by
  have listed := spreadingRanges_listed
  simp only [Bool.and_eq_true, List.all_eq_true, List.any_eq_true, beq_iff_eq] at listed
  have single : ∀ d, upperCase c = [d] → spreads c = false := fun d image => by
    rw [spreads, image]
    rfl
  constructor
  · intro spread
    by_cases low : c.val < 128
    · exact absurd spread (Bool.eq_false_iff.mp (single c.toUpper (if_pos low)))
    · have wide : upperCase c = mapWide upperRuns upperExpansions c := if_neg low
      rcases mapWide_cases upperRuns upperExpansions c with
        ⟨entry, among, same, -⟩ | ⟨run, -, -, moved⟩ | unmoved
      · have agree := listed.1 entry among
        rwa [same, Char.ofNat_toNat, spread, eq_comm] at agree
      · exact absurd spread (Bool.eq_false_iff.mp (single _ (wide.trans moved)))
      · exact absurd spread (Bool.eq_false_iff.mp (single _ (wide.trans unmoved)))
  · intro inside
    obtain ⟨range, among, bounds⟩ := List.any_eq_true.mp inside
    simp only [Bool.and_eq_true, decide_eq_true_eq] at bounds
    have member : c.toNat ∈ List.range' range.1 (range.2 + 1 - range.1) :=
      List.mem_range'_1.mpr (by omega)
    obtain ⟨entry, spelled, same⟩ := listed.2 range among c.toNat member
    have agree := listed.1 entry spelled
    rwa [same, Char.ofNat_toNat, inside] at agree

/-- A second pass of sentence case changes a text exactly if the upper case of its first letter goes
on with capitals, and a third pass changes nothing any more. -/
theorem sentenceCase_idempotent_iff (s : String) :
    (sentenceCase (sentenceCase s) = sentenceCase s ↔
      ∀ lead letter rest, FirstLetter s.toList lead letter rest → spreads letter = false) ∧
    sentenceCase (sentenceCase (sentenceCase s)) = sentenceCase (sentenceCase s) := by
  constructor
  · rw [← capitalize_capitalize_iff, ← String.toList_inj]
    simp only [toList_sentenceCase]
  · rw [← String.toList_inj]
    simp only [toList_sentenceCase]
    exact capitalize_third_pass s.toList

/-- The upper case of the sharp s is two capitals, and the second pass lowers the second of them. -/
theorem sentenceCase_sharp_s :
    sentenceCase "ß" = "SS" ∧ sentenceCase (sentenceCase "ß") = "Ss" ∧
      sentenceCase (sentenceCase "ß") ≠ sentenceCase "ß" := by
  have once : sentenceCase "ß" = "SS" := by decide +kernel
  have twice : sentenceCase "SS" = "Ss" := by decide +kernel
  rw [once, twice]
  exact ⟨rfl, rfl, by decide⟩

end Findings.Text
