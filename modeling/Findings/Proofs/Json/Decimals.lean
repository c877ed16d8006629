import Findings.Proofs.Json.Numerals

/-!
How numbers are spelled. Whatever number is written, its text is a numeral, or `null` where the
number is not finite (`Json.Number.spelled`): digits stand on both sides of a point, and no zero
leads but one that stands alone, since the fewest digits of a positive double begin with none.
-/

namespace Findings

/-! ## The fewest digits -/

namespace Number

/-- Dropping zeros from the end leaves a digit that is none. -/
theorem Decimal.digits_trim {fuel : Nat} {d : Decimal} (positive : d.digits ≠ 0) :
    (d.trim fuel).digits ≠ 0 := by
  induction fuel generalizing d with
  | zero => exact positive
  | succ fuel ih =>
    rw [trim]
    split
    next round =>
      simp only [Bool.and_eq_true, bne_iff_ne, beq_iff_eq] at round
      have fewer : d.digits / 10 ≠ 0 := by omega
      exact ih fewer
    next => exact positive

theorem Decimal.read_of_digits_eq_zero {d : Decimal} (zero : d.digits = 0) :
    d.read .double = 0 := by
  have nothing : d.ratio.1 = 0 := by
    unfold ratio
    split <;> simp [zero]
  have shift : Nat.log2 0 + 1 - Format.double.precision = 0 := rfl
  have whole (den : Nat) : nearestEven 0 den = 0 := by simp [nearestEven]
  rw [read, nothing, Format.nearest, Nat.zero_mul, Nat.zero_div, shift, Nat.zero_mul,
    Nat.zero_add, whole, Nat.min_zero]

theorem units_ne_zero {magnitude : Nat} (positive : magnitude ≠ 0) :
    Format.double.units magnitude ≠ 0 := by
  unfold Format.units
  split
  next => exact positive
  next =>
    refine Nat.mul_ne_zero (Nat.ne_of_gt ?_) (Nat.ne_of_gt (Nat.pow_pos Nat.two_pos))
    exact Nat.add_pos_left (Nat.pow_pos Nat.two_pos) _

/-- A double that is not zero has a digit that is not zero: without one it would read as zero. -/
theorem digits_shortest {magnitude : Nat} (positive : magnitude ≠ 0) :
    (shortest .double magnitude).digits ≠ 0 := by
  unfold shortest
  dsimp only
  split
  next d hit =>
    refine Decimal.digits_trim fun zero => ?_
    obtain ⟨count, _, found⟩ := List.exists_of_findSome?_eq_some hit
    have same := List.find?_some found
    rw [Decimal.read_of_digits_eq_zero zero, beq_iff_eq] at same
    exact positive same.symm
  next => exact units_ne_zero positive

end Number

/-! ## Numerals -/

namespace Json.Numeral

open Findings.Number (isDigit natDigits intDigits positional)

variable {digits : List Char}

theorem digits_zero : Digits ['0'] :=
  ⟨List.cons_ne_nil '0' [], List.forall_mem_singleton.mpr rfl⟩

theorem Digits.append_zeros (some : Digits digits) (count : Nat) :
    Digits (digits ++ List.replicate count '0') := by
  refine ⟨fun none => some.given (List.append_eq_nil_iff.mp none).1, fun c member => ?_⟩
  rcases List.mem_append.mp member with before | zero
  · exact some.all c before
  · rw [(List.mem_replicate.mp zero).2]
    rfl

/-- Digits in front of a point are a whole part, unless a zero leads more of them. -/
structure Whole (digits : List Char) : Prop extends Digits digits where
  leading : digits.head? = some '0' → digits.length ≤ 1

/-- With a point in its place a decimal has digits on both sides of it. Digits are filled up with
zeros in front as far as they do not reach the point, so that one zero stands there alone. -/
theorem positional_spelled (given : Digits digits) (first : digits.head? ≠ some '0')
    (exponent : Int) : ∃ whole fraction, Whole whole ∧ Digits fraction ∧
      positional digits exponent true = whole ++ '.' :: fraction := by
  cases exponent with
  | ofNat n =>
    have leading : (digits ++ List.replicate n '0').head? ≠ some '0' := by
      rwa [List.head?_append_of_ne_nil _ given.given]
    exact ⟨digits ++ List.replicate n '0', ['0'],
      ⟨given.append_zeros n, fun zero => absurd zero leading⟩, digits_zero, rfl⟩
  | negSucc n =>
    obtain ⟨padded, filled⟩ : ∃ padded,
        padded = List.replicate (n + 1 + 1 - digits.length) '0' ++ digits := ⟨_, rfl⟩
    have all : ∀ c ∈ padded, isDigit c = true := by
      intro c member
      rw [filled] at member
      rcases List.mem_append.mp member with zero | behind
      · rw [(List.mem_replicate.mp zero).2]
        rfl
      · exact given.all c behind
    have length : padded.length = n + 1 + 1 - digits.length + digits.length := by
      rw [filled, List.length_append, List.length_replicate]
    obtain ⟨cut, reaches⟩ := Nat.exists_eq_add_of_le (show n + 1 + 1 ≤ padded.length by omega)
    have place : padded.length - (n + 1) = cut + 1 := by omega
    refine ⟨padded.take (cut + 1), padded.drop (cut + 1), ⟨⟨?_, ?_⟩, ?_⟩, ⟨?_, ?_⟩, ?_⟩
    · exact List.ne_nil_of_length_pos (by rw [List.length_take]; omega)
    · exact fun c member => all c (List.mem_of_mem_take member)
    · intro zero
      rw [List.length_take]
      by_cases short : digits.length ≤ n + 1
      · omega
      · -- Nothing was filled up, and the digits themselves begin with no zero.
        have none : n + 1 + 1 - digits.length = 0 := by omega
        rw [none, List.replicate_zero, List.nil_append] at filled
        rw [filled, List.head?_take, if_neg (Nat.succ_ne_zero cut)] at zero
        exact absurd zero first
    · exact List.ne_nil_of_length_pos (by rw [List.length_drop]; omega)
    · exact fun c member => all c (List.mem_of_mem_drop member)
    · rw [positional, ← filled, place]
      simp

/-- A numeral without a sign is written for a positive decimal, with an exponent where the layout
asks for one. -/
theorem set_spelled (negative : Bool) {d : Findings.Number.Decimal} (positive : d.digits ≠ 0) :
    ∃ numeral : Numeral, numeral.Proper ∧ numeral.negative = negative ∧
      numberLayout.set d = numeral.unsignedText := by
  have given := digits_natDigits d.digits
  have first := Findings.Number.head?_natDigits positive
  unfold Findings.Number.Layout.set
  dsimp only
  split
  next =>
    obtain ⟨whole, fraction, ⟨before, leading⟩, behind, text⟩ :=
      positional_spelled given first d.exponent
    refine ⟨⟨negative, whole, some fraction, none⟩, ⟨before, leading, ?_, ?_⟩, rfl, ?_⟩
    · rintro _ ⟨⟩
      exact behind
    · exact fun part none => absurd none (Option.not_mem_none part)
    · rw [unsignedText, exponentText, List.append_nil]
      exact text
  next =>
    generalize d.exponent + ((natDigits d.digits).length - 1 : Nat) = power
    obtain ⟨c, more, digits⟩ := List.exists_cons_of_ne_nil given.given
    rw [digits] at given ⊢
    let fraction : Option (List Char) := if more.isEmpty then none else some more
    refine ⟨⟨negative, [c], fraction, some (decide (power < 0), natDigits power.natAbs)⟩,
      ⟨⟨List.cons_ne_nil c [], ?_⟩, fun _ => Nat.le_refl 1, ?_, ?_⟩, rfl, ?_⟩
    · intro d member
      exact given.all d (List.mem_singleton.mp member ▸ List.mem_cons_self)
    · intro digits member
      cases more with
      | nil => cases member
      | cons d more =>
        cases member
        exact ⟨List.cons_ne_nil d more,
          fun c member => given.all c (List.mem_cons_of_mem _ member)⟩
    · rintro _ ⟨⟩
      exact digits_natDigits _
    · cases more <;> by_cases below : power < 0 <;>
        simp [unsignedText, fraction, fractionText, exponentText, intDigits, below, numberLayout]

end Json.Numeral

namespace Json.Number

/-- Every number is written as a numeral, or as null. -/
theorem spelled (n : Number) :
    (∃ numeral : Numeral, numeral.Proper ∧ n.text = numeral.text) ∨ n.text = "null".toList := by
  cases n with
  | integer n => exact .inl ⟨.ofInt n, Numeral.proper_ofInt n, (Numeral.text_ofInt n).symm⟩
  | float x =>
    rw [text]
    split
    next finite =>
      have low : x.magnitude < Findings.Number.Format.double.infinity := of_decide_eq_true finite
      have number : x.isNaN = false := decide_eq_false (Nat.lt_asymm low)
      have bounded : x.isInfinite = false := beq_false_of_ne (Nat.ne_of_lt low)
      left
      obtain ⟨numeral, proper, sign, body⟩ : ∃ numeral : Numeral, numeral.Proper ∧
          numeral.negative = x.negative ∧
          (if x.magnitude == 0 then Findings.Number.positional ['0'] 0 true
            else numberLayout.set (Findings.Number.shortest .double x.magnitude)) =
              numeral.unsignedText := by
        split
        next =>
          refine ⟨⟨x.negative, ['0'], some ['0'], none⟩,
            ⟨Numeral.digits_zero, fun _ => Nat.le_refl 1, ?_, ?_⟩, rfl, rfl⟩
          · rintro _ ⟨⟩
            exact Numeral.digits_zero
          · exact fun part none => absurd none (Option.not_mem_none part)
        next some =>
          have positive : x.magnitude ≠ 0 := by simpa using some
          exact Numeral.set_spelled x.negative (Findings.Number.digits_shortest positive)
      refine ⟨numeral, proper, ?_⟩
      rw [Numeral.text, sign, ← body, Findings.Number.Layout.text, number, bounded]
      exact String.toList_ofList
    next => exact .inr rfl

/-- A number is read back wherever it stands if it is read back alone. -/
theorem readsBack_iff {n : Number} :
    n.ReadsBack ↔ (Numeral.split? n.text).bind (·.1.value?) = some n := by
  constructor
  · intro reads
    obtain ⟨numeral, split, value⟩ := reads [] delimited_nil
    rw [List.append_nil] at split
    rw [split]
    exact value
  · intro found rest delimited
    rcases n.spelled with ⟨numeral, proper, text⟩ | text
    · have alone := Numeral.split?_text proper stops_nil
      rw [List.append_nil, ← text] at alone
      rw [alone] at found
      exact ⟨numeral, text ▸ Numeral.split?_text proper delimited.stops, found⟩
    · rw [text] at found
      cases found

instance (n : Number) : Decidable n.ReadsBack := decidable_of_iff _ readsBack_iff.symm

end Json.Number

end Findings
