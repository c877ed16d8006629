import Mathlib
import Findings.Text.Case

/-!
What holds of every character by the case tables. A character that a mapping yields is left alone by
the same mapping (`lowerCase_of_mem_lowerCase`, `upperCase_of_mem_upperCase`), only letters have a
lower case of their own (`lowerCase_of_unlettered`), and the upper case of a letter starts with a
letter (`exists_capital`). The tables are checked run by run, not character by character: the bounds
tell most pairs of runs apart.
-/

namespace Findings.Text

/-! ## Runs -/

namespace CaseRun

/-- The run moves this code point. -/
def holds (run : CaseRun) (n : Nat) : Bool :=
  run.first ≤ n && n ≤ run.last && (n - run.first) % run.stride == 0

/-- Where the run moves a code point. -/
def image (run : CaseRun) (n : Nat) : Nat := (n + run.shift).toNat

/-- The code points that the run moves, one by one. -/
def members (run : CaseRun) : List Nat :=
  List.range' run.first ((run.last - run.first) / run.stride + 1) run.stride

/-- The run of the images. -/
def moved (run : CaseRun) : CaseRun :=
  ⟨run.image run.first, run.image run.last, run.stride, 0⟩

/-- No code point belongs to both runs. Their bounds tell most runs apart; only those that overlap,
such as the capitals and the small letters that take turns, are compared member by member. -/
def apart (run other : CaseRun) : Bool :=
  run.last.blt other.first || other.last.blt run.first || run.members.all fun n => !other.holds n

/-- Only characters above the seven-bit ones lie between the bounds of the run. -/
def isWide (run : CaseRun) : Bool :=
  Nat.ble 128 run.first &&
    (run.last.blt 0xD800 || Nat.blt 0xDFFF run.first && run.last.blt 0x110000)

/-- Every member of the run is a letter. -/
def isLettered (run : CaseRun) : Bool :=
  (run.isWide &&
      alphabeticRanges.any fun range => range.1.ble run.first && run.last.ble range.2) ||
    run.members.all fun n => isAlphabetic (Char.ofNat n)

variable {run other : CaseRun} {n : Nat}

theorem holds_iff :
    run.holds n ↔ run.first ≤ n ∧ n ≤ run.last ∧ (n - run.first) % run.stride = 0 := by
  simp only [holds, Bool.and_eq_true, decide_eq_true_eq, beq_iff_eq, and_assoc]

theorem mem_members (held : run.holds n) : n ∈ run.members := by
  obtain ⟨above, below, aligned⟩ := holds_iff.mp held
  refine List.mem_range'.mpr ⟨(n - run.first) / run.stride, ?_, ?_⟩
  · exact Nat.lt_succ_of_le (Nat.div_le_div_right (Nat.sub_le_sub_right below run.first))
  · rw [Nat.mul_div_cancel' (Nat.dvd_of_mod_eq_zero aligned), Nat.add_sub_cancel' above]

/-- The images of a run lie as far from one another as its members do. -/
theorem holds_moved (grounded : 0 < run.image run.first) (held : run.holds n) :
    run.moved.holds (run.image n) := by
  obtain ⟨above, below, aligned⟩ := holds_iff.mp held
  have positive : 0 < (run.first + run.shift).toNat := grounded
  refine holds_iff.mpr ⟨?_, ?_, ?_⟩
  · show (run.first + run.shift).toNat ≤ (n + run.shift).toNat
    omega
  · show (n + run.shift).toNat ≤ (run.last + run.shift).toNat
    omega
  · have distance : (n + run.shift).toNat - (run.first + run.shift).toNat = n - run.first := by
      omega
    show ((n + run.shift).toNat - (run.first + run.shift).toNat) % run.stride = 0
    rw [distance, aligned]

/-- A run holds nothing that a run apart from it holds. -/
theorem not_holds_of_apart (separate : run.apart other) (held : run.holds n) :
    other.holds n = false := by
  obtain ⟨above, below, -⟩ := holds_iff.mp held
  simp only [apart, Bool.or_eq_true, Nat.blt_eq, List.all_eq_true, Bool.not_eq_true'] at separate
  rcases separate with (before | behind) | checked
  · exact Bool.eq_false_iff.mpr fun both => by have := (holds_iff.mp both).1; omega
  · exact Bool.eq_false_iff.mpr fun both => by have := (holds_iff.mp both).2.1; omega
  · exact checked n (mem_members held)

theorem toNat_ofNat_of_isWide (wide : run.isWide) (held : run.holds n) :
    (Char.ofNat n).toNat = n ∧ 128 ≤ n := by
  obtain ⟨above, below, -⟩ := holds_iff.mp held
  simp only [isWide, Bool.and_eq_true, Bool.or_eq_true, Nat.ble_eq, Nat.blt_eq] at wide
  have valid : n.isValidChar := by
    show n < 0xD800 ∨ 0xDFFF < n ∧ n < 0x110000
    omega
  rw [Char.toNat_ofNat, if_pos valid]
  exact ⟨rfl, wide.1.trans above⟩

end CaseRun

/-! ## Mappings made of two tables -/

/-- The bound between the seven-bit characters and the rest, on code points. -/
theorem val_lt_iff {c : Char} : c.val < 128 ↔ c.toNat < 128 := UInt32.lt_iff_toNat_lt

/-- Beyond the seven-bit characters the letters are those in the table. -/
theorem isAlphabetic_of_wide {c : Char} (wide : 128 ≤ c.toNat) :
    isAlphabetic c = inRanges alphabeticRanges c.toNat :=
  if_neg (val_lt_iff.not.mpr (Nat.not_lt.mpr wide))

theorem CaseRun.isAlphabetic_of_isLettered {run : CaseRun} {n : Nat} (lettered : run.isLettered)
    (held : run.holds n) : isAlphabetic (Char.ofNat n) := by
  obtain ⟨above, below, -⟩ := holds_iff.mp held
  simp only [isLettered, Bool.or_eq_true, Bool.and_eq_true, List.any_eq_true, List.all_eq_true,
    Nat.ble_eq] at lettered
  rcases lettered with ⟨wide, range, listed, low, high⟩ | checked
  · obtain ⟨same, bound⟩ := toNat_ofNat_of_isWide wide held
    rw [isAlphabetic_of_wide (same.symm ▸ bound), same, inRanges, List.any_eq_true]
    exact ⟨range, listed, by simp only [Bool.and_eq_true, decide_eq_true_eq]; omega⟩
  · exact checked n (mem_members held)

section mapWide

variable {runs : List CaseRun} {expansions : List (Nat × List Nat)} {c : Char}

/-- The ways a character can go: it is spelled out, moved by a run, or left alone. -/
theorem mapWide_cases (runs : List CaseRun) (expansions : List (Nat × List Nat)) (c : Char) :
    (∃ entry ∈ expansions, entry.1 = c.toNat ∧
      mapWide runs expansions c = entry.2.map Char.ofNat) ∨
    (∃ run ∈ runs, run.holds c.toNat ∧
      mapWide runs expansions c = [Char.ofNat (run.image c.toNat)]) ∨
    mapWide runs expansions c = [c] := by
  unfold mapWide
  cases listed : expansions.lookup c.toNat with
  | some image =>
    obtain ⟨before, after, split, -⟩ := List.lookup_eq_some_iff.mp listed
    have among : (c.toNat, image) ∈ expansions := by simp [split]
    exact Or.inl ⟨(c.toNat, image), among, rfl, rfl⟩
  | none =>
    rw [shiftIn?]
    cases found : runs.find? _ with
    | none => exact Or.inr (Or.inr rfl)
    | some run =>
      have held : run.holds c.toNat :=
        List.find?_some (p := fun run : CaseRun => run.holds c.toNat) found
      exact Or.inr (Or.inl ⟨run, List.mem_of_find?_eq_some found, held, rfl⟩)

/-- What no table lists stays as it is. -/
theorem mapWide_eq_self (unlisted : ∀ entry ∈ expansions, entry.1 ≠ c.toNat)
    (unmoved : ∀ run ∈ runs, run.holds c.toNat = false) : mapWide runs expansions c = [c] := by
  have unspelled : expansions.lookup c.toNat = none :=
    List.lookup_eq_none_iff.mpr fun entry among => bne_iff_ne.mpr (unlisted entry among).symm
  have still : shiftIn? runs c.toNat = none := by
    rw [shiftIn?, Option.map_eq_none_iff, List.find?_eq_none]
    exact fun run among => Bool.eq_false_iff.mp (unmoved run among)
  rw [mapWide, unspelled, still]

/-- The tables leave every member of the run alone. -/
def CaseRun.isSpared (runs : List CaseRun) (expansions : List (Nat × List Nat))
    (run : CaseRun) : Bool :=
  run.isWide && (runs.all run.apart &&
    expansions.all fun entry => entry.1.blt run.first || run.last.blt entry.1)

/-- What a spared run holds stays as it is. -/
theorem mapWide_of_isSpared {run : CaseRun} {n : Nat} (spared : run.isSpared runs expansions)
    (held : run.holds n) : mapWide runs expansions (Char.ofNat n) = [Char.ofNat n] := by
  obtain ⟨above, below, -⟩ := CaseRun.holds_iff.mp held
  simp only [CaseRun.isSpared, Bool.and_eq_true, List.all_eq_true, Bool.or_eq_true,
    Nat.blt_eq] at spared
  obtain ⟨wide, separate, outside⟩ := spared
  obtain ⟨same, -⟩ := CaseRun.toNat_ofNat_of_isWide wide held
  refine mapWide_eq_self ?_ ?_
  · intro entry among
    rcases outside entry among with before | behind
    · omega
    · omega
  · intro other among
    rw [same]
    exact CaseRun.not_holds_of_apart (separate other among) held

end mapWide

/-! ## Images are left alone -/

section Settling

variable (narrow : Char → Char) (runs : List CaseRun) (expansions : List (Nat × List Nat))

/-- Two tables with the mapping of the seven-bit characters that goes with them. -/
def caseMapping (c : Char) : List Char :=
  if c.val < 128 then [narrow c] else mapWide runs expansions c

/-- The mapping leaves the character with this code point alone. -/
def isFixed (n : Nat) : Bool :=
  caseMapping narrow runs expansions (Char.ofNat n) == [Char.ofNat n]

/-- Whatever the tables yield is left alone. The few images that are seven-bit characters are
compared member by member. -/
def isSettled : Bool :=
  (runs.all fun run => Nat.blt 0 (run.image run.first) &&
    (run.moved.isSpared runs expansions ||
      run.moved.members.all (isFixed narrow runs expansions))) &&
  expansions.all fun entry => entry.2.all (isFixed narrow runs expansions)

variable {narrow runs expansions}

/-- Where the tables are settled, a second mapping changes nothing. -/
theorem caseMapping_of_mem (settled : isSettled narrow runs expansions)
    (twice : ∀ c, narrow (narrow c) = narrow c)
    (kept : ∀ c : Char, c.val < 128 → (narrow c).val < 128)
    {c d : Char} (among : d ∈ caseMapping narrow runs expansions c) :
    caseMapping narrow runs expansions d = [d] := by
  simp only [isSettled, Bool.and_eq_true, Bool.or_eq_true, List.all_eq_true, Nat.blt_eq,
    isFixed, beq_iff_eq] at settled
  obtain ⟨runs_settled, expansions_settled⟩ := settled
  by_cases low : c.val < 128
  · rw [caseMapping, if_pos low, List.mem_singleton] at among
    rw [among, caseMapping, if_pos (kept c low), twice]
  · rw [caseMapping, if_neg low] at among
    rcases mapWide_cases runs expansions c with
      ⟨entry, listed, -, spelled⟩ | ⟨run, listed, held, moved⟩ | unmoved
    · rw [spelled] at among
      obtain ⟨n, inside, rfl⟩ := List.mem_map.mp among
      exact expansions_settled entry listed n inside
    · rw [moved, List.mem_singleton] at among
      obtain ⟨grounded, spared | checked⟩ := runs_settled run listed
      · have held_image := CaseRun.holds_moved grounded held
        have wide : run.moved.isWide := (Bool.and_eq_true_iff.mp spared).1
        obtain ⟨same, bound⟩ := CaseRun.toNat_ofNat_of_isWide wide held_image
        rw [among, caseMapping, if_neg, mapWide_of_isSpared spared held_image]
        exact val_lt_iff.not.mpr (Nat.not_lt.mpr (same.symm ▸ bound))
      · rw [among]
        exact checked _ (CaseRun.mem_members (CaseRun.holds_moved grounded held))
    · rw [unmoved, List.mem_singleton] at among
      rw [among, caseMapping, if_neg low, unmoved]

end Settling

theorem val_lt_of_checked {f : Char → Char} (checked : ∀ n < 128, (f (Char.ofNat n)).val < 128)
    {c : Char} (low : c.val < 128) : (f c).val < 128 := by
  have bound := checked c.toNat (val_lt_iff.mp low)
  rwa [Char.ofNat_toNat] at bound

theorem toLower_val_lt {c : Char} : c.val < 128 → c.toLower.val < 128 :=
  val_lt_of_checked (by decide)

theorem toUpper_val_lt {c : Char} : c.val < 128 → c.toUpper.val < 128 :=
  val_lt_of_checked (by decide)

set_option maxRecDepth 4000 in
theorem lowerTables_settled : isSettled Char.toLower lowerRuns lowerExpansions := by
  decide +kernel

set_option maxRecDepth 4000 in
theorem upperTables_settled : isSettled Char.toUpper upperRuns upperExpansions := by
  decide +kernel

theorem lowerCase_eq_caseMapping (c : Char) :
    lowerCase c = caseMapping Char.toLower lowerRuns lowerExpansions c := rfl

theorem upperCase_eq_caseMapping (c : Char) :
    upperCase c = caseMapping Char.toUpper upperRuns upperExpansions c := rfl

/-- What lower case yields is lower case. -/
theorem lowerCase_of_mem_lowerCase {c d : Char} (among : d ∈ lowerCase c) :
    lowerCase d = [d] := by
  rw [lowerCase_eq_caseMapping] at among ⊢
  exact caseMapping_of_mem lowerTables_settled Char.toLower_toLower_eq_toLower
    (fun _ => toLower_val_lt) among

/-- What upper case yields is upper case. -/
theorem upperCase_of_mem_upperCase {c d : Char} (among : d ∈ upperCase c) :
    upperCase d = [d] := by
  rw [upperCase_eq_caseMapping] at among ⊢
  exact caseMapping_of_mem upperTables_settled Char.toUpper_toUpper_eq_toUpper
    (fun _ => toUpper_val_lt) among

/-! ## Letters -/

set_option maxRecDepth 4000 in
theorem lowerTables_lettered :
    lowerRuns.all CaseRun.isLettered &&
      lowerExpansions.all fun entry => isAlphabetic (Char.ofNat entry.1) := by
  decide +kernel

set_option maxRecDepth 4000 in
theorem upperTables_lettered :
    (upperRuns.all fun run => Nat.blt 0 (run.image run.first) && run.moved.isLettered) &&
      upperExpansions.all fun entry =>
        entry.2.head?.any fun first => isAlphabetic (Char.ofNat first) := by
  decide +kernel

/-- Only letters have a lower case of their own. -/
theorem lowerCase_of_unlettered {c : Char} (unlettered : isAlphabetic c = false) :
    lowerCase c = [c] := by
  have lettered := lowerTables_lettered
  simp only [Bool.and_eq_true, List.all_eq_true] at lettered
  by_cases low : c.val < 128
  · have lead : c.isAlpha = false := by rwa [isAlphabetic, if_pos low] at unlettered
    have small : ¬ c.isUpper := by
      rw [Char.isAlpha, Bool.or_eq_false_iff] at lead
      exact Bool.eq_false_iff.mp lead.1
    rw [lowerCase, if_pos low, Char.toLower_eq_of_not_isUpper small]
  · rw [lowerCase, if_neg low]
    rcases mapWide_cases lowerRuns lowerExpansions c with
      ⟨entry, listed, same, -⟩ | ⟨run, listed, held, -⟩ | unmoved
    · have letter := lettered.2 entry listed
      rw [same, Char.ofNat_toNat, unlettered] at letter
      exact absurd letter Bool.false_ne_true
    · have letter := CaseRun.isAlphabetic_of_isLettered (lettered.1 run listed) held
      rw [Char.ofNat_toNat, unlettered] at letter
      exact absurd letter Bool.false_ne_true
    · exact unmoved

/-- The upper case of a letter starts with a letter. -/
theorem exists_capital {c : Char} (letter : isAlphabetic c) :
    ∃ first rest, upperCase c = first :: rest ∧ isAlphabetic first := by
  have lettered := upperTables_lettered
  simp only [Bool.and_eq_true, List.all_eq_true, Nat.blt_eq, Option.any_eq_true] at lettered
  by_cases low : c.val < 128
  · refine ⟨c.toUpper, [], by rw [upperCase, if_pos low], ?_⟩
    rw [isAlphabetic, if_pos low] at letter
    rw [isAlphabetic, if_pos (toUpper_val_lt low), Char.isAlpha_toUpper_eq_isAlpha, letter]
  · rw [upperCase, if_neg low]
    rcases mapWide_cases upperRuns upperExpansions c with
      ⟨entry, listed, -, spelled⟩ | ⟨run, listed, held, moved⟩ | unmoved
    · obtain ⟨first, leads, capital⟩ := lettered.2 entry listed
      obtain ⟨rest, image⟩ := List.head?_eq_some_iff.mp leads
      exact ⟨Char.ofNat first, rest.map Char.ofNat, by rw [spelled, image, List.map_cons], capital⟩
    · obtain ⟨grounded, capital⟩ := lettered.1 run listed
      exact ⟨_, [], moved,
        CaseRun.isAlphabetic_of_isLettered capital (CaseRun.holds_moved grounded held)⟩
    · exact ⟨c, [], unmoved, letter⟩

end Findings.Text
