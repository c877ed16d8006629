import Findings.Number.Places
import Findings.Proofs.Number.Doubles

/-!
Rounding to decimal places, on the rationals that patterns stand for. A single times a power of ten
has few enough significant bits for a double, and so has the whole number nearest to it. Of the
three operations only the last one rounds, and what it rounds is the decimal that the single rounds
to.
-/

namespace Findings.Number

/-! ## Operands that are exact -/

/-- The rational that a finite single stands for. -/
def Single.toRat (x : Single) : ℚ := signed x.negative (Format.single.value x.magnitude)

/-- Powers of ten are exact as long as the powers of five fit. -/
theorem Double.powerOfTen_is {places : Nat} (few : places ≤ 12) :
    (powerOfTen places).Is false (10 ^ places * 2 ^ Format.double.scale) := by
  have split : 10 ^ places * 2 ^ Format.double.scale =
      5 ^ places * 2 ^ (places + Format.double.scale) := by
    rw [show 10 = 5 * 2 from rfl, mul_pow, pow_add, mul_assoc]
  have fits : 5 ^ places < 2 ^ 53 :=
    (Nat.pow_le_pow_right (by decide) few).trans_lt (by decide)
  rw [split]
  refine ofRatio_is false Nat.one_pos fits ?_ ?_
  · show places + 1074 ≤ 2000
    omega
  · rw [mul_one]
    exact split

theorem Double.toRat_powerOfTen {places : Nat} (few : places ≤ 12) :
    (powerOfTen places).toRat = 10 ^ places := by
  have unit : (2 ^ Format.double.scale : ℚ) ≠ 0 := by positivity
  rw [(powerOfTen_is few).toRat, signed, if_neg Bool.false_ne_true, Nat.cast_mul, Nat.cast_pow,
    Nat.cast_pow, Nat.cast_ofNat, Nat.cast_ofNat, mul_div_cancel_right₀ _ unit]

/-- A finite single is a significand of its precision, doubled a number of times. -/
theorem Single.exists_significand {x : Single} (finite : x.isFinite) :
    ∃ steps fineness, x.units = steps * 2 ^ fineness ∧ steps < 2 ^ 24 ∧ fineness ≤ 253 := by
  obtain ⟨fineness, steps, magnitude, full, fits⟩ :=
    Format.single.exists_significand x.magnitude
  refine ⟨steps, fineness, ?_, fits, ?_⟩
  · rw [Single.units, magnitude, Format.units_add _ full fits.le]
  · have low : x.magnitude < 255 * 2 ^ 23 := of_decide_eq_true finite
    have binade : Format.single.binade = 2 ^ 23 := rfl
    rw [magnitude, binade] at low
    rw [binade] at full
    omega

/-- How often the unit of a single is doubled, counted from the unit of a double. -/
def widening : Nat := Format.double.scale - Format.single.scale

theorem double_scale_eq : Format.double.scale = Format.single.scale + widening := rfl

/-- Widening a single keeps its sign and the rational it stands for. -/
theorem Double.ofSingle_is {x : Single} (finite : x.isFinite) :
    (Double.ofSingle x).Is x.negative (x.units * 2 ^ widening) := by
  obtain ⟨steps, fineness, units, fits, low⟩ := x.exists_significand finite
  have isNaN : x.isNaN = false := decide_eq_false (Nat.lt_asymm (of_decide_eq_true finite))
  simp only [Double.ofSingle, isNaN, finite, units, Nat.pow_eq, Bool.false_eq_true, if_false,
    if_true]
  rw [mul_assoc, ← pow_add]
  refine ofRatio_is _ (Nat.pow_pos (by decide)) (fits.trans (by decide)) ?_ ?_
  · show fineness + 925 ≤ 2000
    omega
  · rw [double_scale_eq, pow_add, pow_add]
    ring

/-! ## Rounding to decimal places -/

/-- The nearest integer, a half going away from zero. -/
def halfAway (q : ℚ) : ℤ := if q < 0 then -round (-q) else round q

theorem halfAway_signed (negative : Bool) {a : ℚ} (nonneg : 0 ≤ a) :
    (halfAway (signed negative a) : ℚ) = signed negative (round a : ℤ) := by
  cases negative
  · simp [halfAway, signed, nonneg.not_gt]
  · rcases nonneg.eq_or_lt with rfl | positive
    · simp [halfAway, signed]
    · simp [halfAway, signed, positive]

/-- The whole number nearest to a value has no more significant bits than the value. -/
theorem exists_steps_nearestUp (steps fineness scale : Nat) :
    ∃ fewer coarser,
      nearestUp (steps * 2 ^ fineness) (2 ^ scale) * 2 ^ scale = fewer * 2 ^ coarser ∧
      fewer ≤ steps ∧ coarser ≤ max fineness scale := by
  have positive : 0 < 2 ^ scale := Nat.pow_pos (by decide)
  rcases Nat.lt_or_ge fineness scale with fractional | whole
  · refine ⟨_, scale, rfl, nearestUp_le positive ?_, le_max_right _ _⟩
    rw [Nat.mul_left_comm, ← pow_succ']
    exact Nat.mul_le_mul_left steps (Nat.pow_le_pow_right (by decide) fractional)
  · obtain ⟨more, rfl⟩ := Nat.exists_eq_add_of_le whole
    refine ⟨steps, scale + more, ?_, le_rfl, le_max_left _ _⟩
    have regrouped : steps * 2 ^ (scale + more) = steps * 2 ^ more * 2 ^ scale := by
      rw [pow_add]
      ring
    rw [regrouped, nearestUp_mul positive]

section
variable {x : Single} (finite : x.isFinite) {places : Nat} (few : places ≤ 12)

/-- The units of a single, scaled by a power of ten in double precision. -/
def Single.scaledUnits (x : Single) (places : Nat) : Nat :=
  x.units * 2 ^ widening * 10 ^ places

/-- The whole number nearest to a scaled single, without the sign. -/
def Single.scaledWhole (x : Single) (places : Nat) : Nat :=
  nearestUp (x.scaledUnits places) (2 ^ Format.double.scale)

/-- A scaled single is what its units stand for. -/
theorem Single.toRat_mul_pow (x : Single) (places : Nat) :
    x.toRat * 10 ^ places =
      signed x.negative (x.scaledUnits places / (2 ^ Format.double.scale : ℕ)) := by
  rw [Single.toRat, ← signed_mul, Format.value, ← Single.units, Single.scaledUnits,
    double_scale_eq, pow_add]
  push_cast
  field_simp

include finite few

/-- A scaled single has no more significant bits than a double. The twos of the power of ten only
double it, and the fives take twenty-eight bits besides its own twenty-four. -/
theorem Single.exists_scaledUnits_eq :
    ∃ steps fineness, x.scaledUnits places = steps * 2 ^ fineness ∧ steps < 2 ^ 53 ∧
      fineness ≤ 1190 := by
  obtain ⟨steps, fineness, units, fits, low⟩ := x.exists_significand finite
  refine ⟨steps * 5 ^ places, fineness + widening + places, ?_, ?_, ?_⟩
  · rw [Single.scaledUnits, units, pow_add, pow_add, show 10 = 5 * 2 from rfl, mul_pow]
    ring
  · calc steps * 5 ^ places ≤ steps * 5 ^ 12 :=
          Nat.mul_le_mul_left _ (Nat.pow_le_pow_right (by decide) few)
      _ < 2 ^ 24 * 5 ^ 12 := Nat.mul_lt_mul_of_pos_right fits (by decide)
      _ < 2 ^ 53 := by decide
  · show fineness + 925 + places ≤ 1190
    omega

/-- The product with the power of ten is exact. -/
theorem Double.mul_powerOfTen_is :
    ((Double.ofSingle x).mul (powerOfTen places)).Is x.negative (x.scaledUnits places) := by
  obtain ⟨steps, fineness, units, fits, low⟩ := Single.exists_scaledUnits_eq finite few
  rw [(ofSingle_is finite).mul (powerOfTen_is few), Bool.bne_false, units]
  refine ofRatio_is _ (by positivity) fits (by omega) ?_
  rw [← units, Single.scaledUnits, two_mul, pow_add]
  ring

/-- The whole number that the product is rounded to is exact too. -/
theorem Double.round_mul_powerOfTen_is :
    ∃ fineness ≤ 1190,
      x.scaledWhole places * 2 ^ Format.double.scale < 2 ^ (53 + fineness) ∧
      ((Double.ofSingle x).mul (powerOfTen places)).round.Is x.negative
        (x.scaledWhole places * 2 ^ Format.double.scale) := by
  obtain ⟨steps, fineness, units, fits, low⟩ := Single.exists_scaledUnits_eq finite few
  obtain ⟨fewer, coarser, rounded, fewer_le, coarser_le⟩ :=
    exists_steps_nearestUp steps fineness Format.double.scale
  have coarser_le : coarser ≤ 1190 :=
    coarser_le.trans (max_le low (show 1074 ≤ 1190 by decide))
  have fits := fewer_le.trans_lt fits
  -- Either the product is a whole number already, or its nearest one is smaller than its
  -- significand.
  rw [Single.scaledWhole, (mul_powerOfTen_is finite few).round, units]
  refine ⟨coarser, coarser_le, ?_, ?_⟩
  · rw [rounded, pow_add]
    exact Nat.mul_lt_mul_of_pos_right fits (by positivity)
  · rw [rounded]
    refine ofRatio_is _ Nat.one_pos fits (by omega) ?_
    rw [mul_one, rounded]

/-- Rounding to decimal places rounds once. The product with the power of ten is exact, so what is
rounded to a whole number, a half going away from zero, is the value itself; that whole number is
exact, and the quotient is the nearest double to the decimal, under the sign of the value. -/
theorem roundPlaces_isNearest :
    ((Double.ofSingle x).mul (powerOfTen places)).isFinite ∧
    ((Double.ofSingle x).mul (powerOfTen places)).toRat = x.toRat * 10 ^ places ∧
    ((Double.ofSingle x).mul (powerOfTen places)).round.toRat = halfAway (x.toRat * 10 ^ places) ∧
    (roundPlaces x places).IsNearest (halfAway (x.toRat * 10 ^ places) / 10 ^ places) ∧
    (roundPlaces x places).negative = x.negative := by
  have product := Double.mul_powerOfTen_is finite few
  obtain ⟨fineness, low, fits, whole⟩ := Double.round_mul_powerOfTen_is finite few
  have unit : (2 ^ Format.double.scale : ℚ) ≠ 0 := by positivity
  have rounded : ((Double.ofSingle x).mul (powerOfTen places)).round.toRat =
      halfAway (x.toRat * 10 ^ places) := by
    rw [x.toRat_mul_pow, halfAway_signed _ (div_nonneg (Nat.cast_nonneg _) (Nat.cast_nonneg _)),
      ← nearestUp_eq_round (Nat.pow_pos (by decide)), Int.cast_natCast, whole.toRat,
      Nat.cast_mul, Nat.cast_pow, Nat.cast_ofNat, mul_div_cancel_right₀ _ unit]
    rfl
  refine ⟨product.finite, ?_, rounded, ?_⟩
  · rw [product.toRat, x.toRat_mul_pow, Nat.cast_pow, Nat.cast_ofNat]
  have some : 0 < 10 ^ places * 2 ^ Format.double.scale := by positivity
  have quotient : roundPlaces x places = _ := whole.div (Double.powerOfTen_is few) some
  have inRange : (roundPlaces x places).isFinite := by
    rw [quotient, Double.isFinite_ofRatio]
    refine Format.nearest_lt_infinity Double.wide some
      (show fineness + 2 < 2 ^ 11 - 1 by omega) ?_
    rw [← mul_assoc]
    refine Nat.mul_lt_mul_of_pos_right (fits.trans_le ?_) (by positivity)
    exact Nat.le_mul_of_pos_right _ (by positivity)
  constructor
  · have nearest := whole.div_isNearest (Double.powerOfTen_is few) some inRange
    rwa [rounded, Double.toRat_powerOfTen few] at nearest
  · rw [quotient, Double.negative_ofRatio, Bool.bne_false]

example : roundPlaces ⟨0x40840000⟩ 2 = ⟨0x4010851EB851EB85⟩ := by decide +kernel

end

end Findings.Number
