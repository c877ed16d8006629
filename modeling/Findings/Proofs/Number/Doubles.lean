import Findings.Proofs.Number.Nearest

/-!
Doubles as rationals. A quotient of finite doubles is the double nearest to the exact one
(`Double.Is.div_isNearest`), and one that has few enough significant bits is exact
(`Double.ofRatio_is`).
-/

namespace Findings.Number

/-- A magnitude under a sign. -/
def signed (negative : Bool) (magnitude : ℚ) : ℚ := if negative then -magnitude else magnitude

/-- Under one sign magnitudes are as far apart as without it. -/
theorem abs_signed_sub_signed (negative : Bool) (a b : ℚ) :
    |signed negative a - signed negative b| = |a - b| := by
  cases negative
  · rfl
  · rw [signed, signed, if_pos rfl, if_pos rfl, neg_sub_neg, abs_sub_comm]

/-- Under different signs magnitudes are as far apart as they are great together. -/
theorem abs_signed_sub_signed_of_ne {other negative : Bool} (differ : other ≠ negative)
    {a b : ℚ} (left : 0 ≤ a) (right : 0 ≤ b) :
    |signed other a - signed negative b| = a + b := by
  cases other
  · cases negative
    · exact absurd rfl differ
    · simp only [signed, if_pos, Bool.false_eq_true, if_false, sub_neg_eq_add]
      exact abs_of_nonneg (add_nonneg left right)
  · cases negative
    · simp only [signed, if_pos, Bool.false_eq_true, if_false]
      rw [abs_sub_comm, sub_neg_eq_add, add_comm]
      exact abs_of_nonneg (add_nonneg left right)
    · exact absurd rfl differ

theorem signed_mul (negative : Bool) (a b : ℚ) :
    signed negative (a * b) = signed negative a * b := by
  cases negative
  · rfl
  · exact (neg_mul a b).symm

theorem signed_div_signed (left right : Bool) (a b : ℚ) :
    signed left a / signed right b = signed (left != right) (a / b) := by
  cases left <;> cases right <;> simp [signed, neg_div, div_neg]

namespace Double

/-- The rational that a finite double stands for. -/
def toRat (x : Double) : ℚ := signed x.negative (Format.double.value x.magnitude)

/-- A double is the nearest one to a rational: no finite double is closer, and if another number is
as close, the last bit of this one is zero. -/
structure IsNearest (x : Double) (q : ℚ) : Prop where
  finite : x.isFinite
  closest : ∀ other : Double, other.isFinite → |x.toRat - q| ≤ |other.toRat - q|
  even : ∀ other : Double, other.isFinite → |other.toRat - q| = |x.toRat - q| →
    other.toRat = x.toRat ∨ x.magnitude % 2 = 0

/-! ## Signs and units -/

/-- A finite double, by its sign and its units. -/
structure Is (x : Double) (negative : Bool) (units : Nat) : Prop where
  finite : x.isFinite
  sign : x.negative = negative
  units : x.units = units

/-- A finite double is its units under its sign. -/
theorem Is.toRat {x : Double} {negative : Bool} {units : Nat} (is : x.Is negative units) :
    x.toRat = signed negative (units / 2 ^ Format.double.scale) := by
  rw [Double.toRat, is.sign, Format.value, ← Double.units, is.units]

theorem wide : 2 ≤ Format.double.precision := by decide

/-- The sign stands in front of the magnitude. -/
theorem toNat_ofMagnitude (negative : Bool) {magnitude : Nat}
    (low : magnitude ≤ Format.double.infinity) :
    (ofMagnitude negative magnitude).bits.toNat =
      magnitude + if negative then Format.double.signBit else 0 := by
  have below : Format.double.infinity < Format.double.signBit := by decide
  have bits : 2 * Format.double.signBit = 2 ^ 64 := rfl
  apply UInt64.toNat_ofNat_of_lt'
  show _ < 2 ^ 64
  split <;> omega

theorem magnitude_ofMagnitude (negative : Bool) {magnitude : Nat}
    (low : magnitude ≤ Format.double.infinity) :
    (ofMagnitude negative magnitude).magnitude = magnitude := by
  have below : Format.double.infinity < Format.double.signBit := by decide
  rw [Double.magnitude, toNat_ofMagnitude negative low]
  cases negative
  · exact Nat.mod_eq_of_lt (by simpa using low.trans_lt below)
  · rw [if_pos rfl, Nat.add_mod_right, Nat.mod_eq_of_lt (low.trans_lt below)]

theorem negative_ofMagnitude (negative : Bool) {magnitude : Nat}
    (low : magnitude ≤ Format.double.infinity) :
    (ofMagnitude negative magnitude).negative = negative := by
  have below : Format.double.infinity < Format.double.signBit := by decide
  rw [Double.negative, toNat_ofMagnitude negative low]
  cases negative
  · simp
    omega
  · simp

section
variable (negative : Bool) {num den : Nat}

theorem magnitude_ofRatio :
    (ofRatio negative num den).magnitude = Format.double.nearest num den :=
  magnitude_ofMagnitude negative (min_le_left _ _)

theorem negative_ofRatio : (ofRatio negative num den).negative = negative :=
  negative_ofMagnitude negative (min_le_left _ _)

/-- A ratio is finite as a double when it is nearest to a finite one. -/
theorem isFinite_ofRatio :
    (ofRatio negative num den).isFinite ↔
      Format.double.nearest num den < Format.double.infinity := by
  rw [isFinite, magnitude_ofRatio, decide_eq_true_iff]

/-- Within the range of doubles, `ofRatio` gives the nearest one to the signed quotient. Doubles of
the other sign are no closer than zero is. -/
theorem ofRatio_isNearest (positive : 0 < den) (finite : (ofRatio negative num den).isFinite) :
    (ofRatio negative num den).IsNearest (signed negative (num / den)) := by
  have found : (ofRatio negative num den).toRat =
      signed negative (Format.double.value (Format.double.nearest num den)) := by
    rw [toRat, negative_ofRatio, magnitude_ofRatio]
  have closest (pattern : Nat) :=
    Format.value_nearest_closest wide num positive ((isFinite_ofRatio negative).mp finite) pattern
  have quotient : (0 : ℚ) ≤ num / den := by positivity
  have zero : Format.double.value 0 = 0 := by simp [Format.value, Format.units, Format.binade_pos]
  have compare (other : Double) :
      |Format.double.value (Format.double.nearest num den) - num / den| ≤
          |other.toRat - signed negative (num / den)| ∧
        (|other.toRat - signed negative (num / den)| =
            |Format.double.value (Format.double.nearest num den) - num / den| →
          other.toRat = (ofRatio negative num den).toRat ∨
            Format.double.nearest num den % 2 = 0) := by
    rw [found, toRat]
    by_cases same : other.negative = negative
    · rw [same, abs_signed_sub_signed]
      exact ⟨(closest _).1, fun tie => ((closest _).2 tie).imp_left (congrArg _)⟩
    have nonneg : 0 ≤ Format.double.value other.magnitude := by
      unfold Format.value
      positivity
    obtain ⟨least, even⟩ := closest 0
    rw [zero, zero_sub, abs_neg, abs_of_nonneg quotient] at least even
    rw [abs_signed_sub_signed_of_ne same nonneg quotient]
    refine ⟨by linarith, fun tie => ?_⟩
    have none : Format.double.value other.magnitude = 0 := by linarith
    rw [none, zero_add] at tie
    refine (even tie).imp_left fun same => ?_
    rw [none, ← same]
    cases other.negative <;> cases negative <;> simp [signed]
  refine ⟨finite, fun other _ => ?_, fun other _ => ?_⟩
  · rw [found, abs_signed_sub_signed]
    exact (compare other).1
  · rw [found, abs_signed_sub_signed, magnitude_ofRatio, ← found]
    exact (compare other).2

/-- A quotient that is a significand, doubled, is kept as it is. -/
theorem ofRatio_is {steps fineness : Nat} (positive : 0 < den) (fits : steps < 2 ^ 53)
    (room : fineness ≤ 2000)
    (equal : num * 2 ^ Format.double.scale = steps * 2 ^ fineness * den) :
    (ofRatio negative num den).Is negative (steps * 2 ^ fineness) := by
  obtain ⟨finite, units⟩ := Format.units_nearest_of_eq wide positive fits
    (show fineness + 2 < 2 ^ 11 - 1 by omega) equal
  rw [← magnitude_ofRatio negative] at units
  exact ⟨(isFinite_ofRatio negative).mpr finite, negative_ofRatio negative, units⟩

end

/-! ## The operations, on units -/

section
variable {x y : Double} {negative other : Bool} {m n : Nat}

theorem Is.not_isNaN (is : x.Is negative n) : x.isNaN = false :=
  decide_eq_false (Nat.lt_asymm (of_decide_eq_true is.finite))

/-- A product of finite doubles is the ratio of the product of their units. -/
theorem Is.mul (left : x.Is negative m) (right : y.Is other n) :
    x.mul y = ofRatio (negative != other) (m * n) (2 ^ (2 * Format.double.scale)) := by
  simp only [Double.mul, left.not_isNaN, right.not_isNaN, left.finite, right.finite, left.sign,
    right.sign, left.units, right.units, Bool.or_self, Bool.and_self, Bool.false_eq_true, if_false,
    if_true, Nat.pow_eq]

/-- Rounding gives the whole number that is nearest, ties going up. -/
theorem Is.round (is : x.Is negative n) :
    x.round = ofRatio negative (nearestUp n (2 ^ Format.double.scale)) 1 := by
  rw [Double.round, if_pos is.finite, is.sign, is.units, Nat.pow_eq]

/-- A quotient of finite doubles is the ratio of their units. -/
theorem Is.div (left : x.Is negative m) (right : y.Is other n) (some : 0 < n) :
    x.div y = ofRatio (negative != other) m n := by
  have nonzero : y.magnitude ≠ 0 := by
    intro zero
    have units := right.units
    rw [Double.units, zero, Format.units, if_pos (Format.binade_pos _)] at units
    omega
  simp [Double.div, left.not_isNaN, right.not_isNaN, left.finite, right.finite, left.sign,
    right.sign, left.units, right.units, nonzero]

/-- Within the range of doubles a quotient is the nearest one to the exact quotient. -/
theorem Is.div_isNearest (left : x.Is negative m) (right : y.Is other n) (some : 0 < n)
    (finite : (x.div y).isFinite) : (x.div y).IsNearest (x.toRat / y.toRat) := by
  have unit : (2 ^ Format.double.scale : ℚ) ≠ 0 := by positivity
  have quotient : x.toRat / y.toRat = signed (negative != other) (m / n) := by
    rw [left.toRat, right.toRat, signed_div_signed, div_div_div_cancel_right₀ unit]
  rw [left.div right some] at finite ⊢
  rw [quotient]
  exact ofRatio_isNearest _ some finite

end

end Double

end Findings.Number
