import Mathlib.Algebra.Order.Round
import Mathlib.Data.Rat.Floor
import Mathlib.Tactic.FieldSimp
import Mathlib.Tactic.Linarith
import Mathlib.Tactic.Positivity
import Mathlib.Tactic.Ring
import Findings.Number.Binary

/-!
Patterns read as exact rationals. A magnitude pattern is a significand and a number of doublings,
and `Format.nearest` finds both for a quotient: it doubles the grid of whole units until the
significand fits, and takes the nearest whole number of steps. No pattern is closer, and where
another one is as close, the one that is found is even. A quotient that is itself the value of a
pattern is therefore kept as it is.
-/

namespace Findings.Number

/-! ## The nearest whole number -/

/-- Of a quotient, the whole part and the part of a step that is left. -/
theorem cast_div_add_mod {den : Nat} (positive : 0 < den) (num : Nat) :
    (num : ℚ) / den = (num / den : ℕ) + (num % den : ℕ) / den := by
  have denPositive : (0 : ℚ) < den := by exact_mod_cast positive
  have whole : (num : ℚ) = den * (num / den : ℕ) + (num % den : ℕ) := by
    exact_mod_cast (Nat.div_add_mod num den).symm
  rw [div_eq_iff denPositive.ne', add_mul, div_mul_cancel₀ _ denPositive.ne']
  linarith

/-- Rounding to the even neighbour errs by a half at most, and by a half only towards an even
number. -/
theorem nearestEven_error {den : Nat} (positive : 0 < den) (num : Nat) :
    |(nearestEven num den : ℚ) - num / den| ≤ 1 / 2 ∧
      (|(nearestEven num den : ℚ) - num / den| = 1 / 2 → nearestEven num den % 2 = 0) := by
  have denPositive : (0 : ℚ) < den := by exact_mod_cast positive
  have left : (0 : ℚ) ≤ (num % den : ℕ) / den := by positivity
  rw [cast_div_add_mod positive]
  rcases lt_trichotomy (2 * (num % den)) den with below | tie | above
  · have found : nearestEven num den = num / den := by simp [nearestEven, below]
    have less : ((num % den : ℕ) : ℚ) / den < 1 / 2 := by
      have : 2 * ((num % den : ℕ) : ℚ) < den := by exact_mod_cast below
      rw [div_lt_iff₀ denPositive]
      linarith
    rw [found, sub_add_cancel_left, abs_neg, abs_of_nonneg left]
    exact ⟨less.le, fun half => absurd half less.ne⟩
  · have found : nearestEven num den = num / den + num / den % 2 := by simp [nearestEven, tie]
    have half : ((num % den : ℕ) : ℚ) / den = 1 / 2 := by
      have : 2 * ((num % den : ℕ) : ℚ) = den := by exact_mod_cast tie
      rw [div_eq_iff denPositive.ne']
      linarith
    rw [found, half, Nat.cast_add, add_sub_add_left_eq_sub]
    constructor
    · rcases Nat.mod_two_eq_zero_or_one (num / den) with even | odd
      · rw [even]
        norm_num
      · rw [odd]
        norm_num
    · intro _
      omega
  · have found : nearestEven num den = num / den + 1 := by
      simp [nearestEven, above, Nat.lt_asymm above]
    have more : 1 / 2 < ((num % den : ℕ) : ℚ) / den := by
      have : (den : ℚ) < 2 * ((num % den : ℕ) : ℚ) := by exact_mod_cast above
      rw [lt_div_iff₀ denPositive]
      linarith
    have less : ((num % den : ℕ) : ℚ) / den < 1 := by
      rw [div_lt_one denPositive]
      exact_mod_cast Nat.mod_lt num positive
    rw [found, Nat.cast_add, Nat.cast_one, add_sub_add_left_eq_sub, abs_of_pos (by linarith)]
    constructor
    · linarith
    · intro half
      linarith

/-- Beside a number within a half of a rational, every other whole number is a half away or more. -/
theorem half_le_of_ne {whole other : Nat} {q : ℚ} (near : |(whole : ℚ) - q| ≤ 1 / 2)
    (differ : other ≠ whole) : 1 / 2 ≤ |(other : ℚ) - q| := by
  have apart : (1 : ℚ) ≤ |(other : ℚ) - whole| := by
    exact_mod_cast Int.one_le_abs (show (other : ℤ) - whole ≠ 0 by omega)
  have way := abs_sub_le (other : ℚ) q whole
  rw [abs_sub_comm q] at way
  linarith

/-- Rounding up at a half is rounding in the usual sense. -/
theorem nearestUp_eq_round {den : Nat} (positive : 0 < den) (num : Nat) :
    (nearestUp num den : ℤ) = round ((num : ℚ) / den) := by
  have denPositive : (0 : ℚ) < den := by exact_mod_cast positive
  have sum : (num : ℚ) / den + 1 / 2 = ((2 * num + den : ℕ) : ℚ) / (2 * den : ℕ) := by
    push_cast
    field_simp
  rw [round_eq, sum, nearestUp, Rat.floor_natCast_div_natCast]
  exact Int.natCast_ediv _ _

/-- Whole quotients stay. -/
theorem nearestUp_mul {den : Nat} (positive : 0 < den) (whole : Nat) :
    nearestUp (whole * den) den = whole := by
  have regrouped : 2 * (whole * den) + den = den + whole * (2 * den) := by ring
  rw [nearestUp, regrouped, Nat.add_mul_div_right _ _ (by omega), Nat.div_eq_of_lt (by omega),
    Nat.zero_add]

/-- Of a quotient that is half as large, rounding up gives no more. -/
theorem nearestUp_le {num den bound : Nat} (positive : 0 < den) (half : 2 * num ≤ bound * den) :
    nearestUp num den ≤ bound := by
  rw [nearestUp, ← Nat.lt_succ_iff, Nat.div_lt_iff_lt_mul (by omega)]
  calc 2 * num + den ≤ bound * den + den := Nat.add_le_add_right half den
    _ = (bound + 1) * den := (Nat.succ_mul bound den).symm
    _ < (bound + 1) * (2 * den) := Nat.mul_lt_mul_of_pos_left (by omega) (by omega)

/-! ## Patterns as significands and doublings -/

namespace Format

/-- The rational that a magnitude pattern stands for. -/
def value (f : Format) (pattern : Nat) : ℚ := f.units pattern / 2 ^ f.scale

section
variable (f : Format)

theorem binade_pos : 0 < f.binade := Nat.pow_pos (by decide)

/-- Each significand is doubled as often as the exponent says. The significand at the upper bound is
the first one of the next exponent, where it is doubled once less. -/
theorem units_add {doublings significand : Nat}
    (full : doublings = 0 ∨ f.binade ≤ significand) (fits : significand ≤ 2 * f.binade) :
    f.units (doublings * f.binade + significand) = significand * 2 ^ doublings := by
  have positive := f.binade_pos
  by_cases small : significand < f.binade
  · obtain rfl : doublings = 0 := by omega
    simp [units, small]
  have past : ¬ doublings * f.binade + significand < f.binade := by
    have := Nat.zero_le (doublings * f.binade)
    omega
  rw [units, if_neg past, Nat.mul_comm doublings, Nat.mul_add_mod, Nat.mul_add_div positive]
  rcases Nat.lt_or_eq_of_le fits with less | rfl
  · have rest : significand % f.binade = significand - f.binade := by
      rw [Nat.mod_eq_sub_mod (by omega), Nat.mod_eq_of_lt (by omega)]
    have one : significand / f.binade = 1 := Nat.div_eq_of_lt_le (by omega) (by omega)
    rw [rest, one, Nat.add_sub_cancel, Nat.add_sub_cancel' (by omega)]
    rfl
  · rw [Nat.mul_mod_left, Nat.mul_div_cancel 2 positive]
    show f.binade * 2 ^ (doublings + 1) = _
    rw [pow_succ]
    ring

/-- Every pattern is a significand that is doubled a number of times. -/
theorem exists_significand (pattern : Nat) :
    ∃ doublings significand, pattern = doublings * f.binade + significand ∧
      (doublings = 0 ∨ f.binade ≤ significand) ∧ significand < 2 * f.binade := by
  have positive := f.binade_pos
  by_cases small : pattern < f.binade
  · exact ⟨0, pattern, by simp, .inl rfl, by omega⟩
  · refine ⟨pattern / f.binade - 1, f.binade + pattern % f.binade, ?_, .inr (by omega), ?_⟩
    · have exponent : 1 ≤ pattern / f.binade := (Nat.one_le_div_iff positive).2 (by omega)
      have whole := Nat.div_add_mod pattern f.binade
      obtain ⟨less, split⟩ := Nat.exists_eq_add_of_le exponent
      rw [split, Nat.mul_add] at whole
      rw [split, Nat.add_sub_cancel_left, Nat.mul_comm less]
      omega
    · have := Nat.mod_lt pattern positive
      omega

/-- Some pattern stands for each number of units that is a significand, doubled. -/
theorem exists_units_eq {steps : Nat} (fits : steps ≤ 2 * f.binade) (fineness : Nat) :
    ∃ pattern, f.units pattern = steps * 2 ^ fineness := by
  induction fineness generalizing steps with
  | zero => exact ⟨0 * f.binade + steps, units_add f (.inl rfl) fits⟩
  | succ fineness further =>
    by_cases full : f.binade ≤ steps
    · exact ⟨_, units_add f (.inr full) fits⟩
    · have twice : 2 * steps ≤ 2 * f.binade := by omega
      obtain ⟨pattern, units_eq⟩ := further twice
      exact ⟨pattern, by rw [units_eq, pow_succ]; ring⟩

end

/-! ## The nearest pattern -/

section
variable (f : Format) (num den : Nat)

/-- How often `nearest` doubles the grid of units. -/
def doublings : Nat := Nat.log2 (num * 2 ^ f.scale / den) + 1 - f.precision

/-- How many steps of that grid it takes. -/
def significand : Nat := nearestEven (num * 2 ^ f.scale) (den * 2 ^ f.doublings num den)

/-- The quotient in units. -/
def exact : ℚ := num * 2 ^ f.scale / den

theorem nearest_eq :
    f.nearest num den =
      min f.infinity (f.doublings num den * f.binade + f.significand num den) := rfl

end

section
variable {f : Format} (wide : 2 ≤ f.precision) (num : Nat) {den : Nat} (positive : 0 < den)
include wide

theorem two_pow_precision : 2 ^ f.precision = 2 * f.binade := by
  show _ = 2 * 2 ^ (f.precision - 1)
  rw [← pow_succ', Nat.sub_add_cancel (by omega)]

include positive

/-- The grid is doubled only as long as the quotient fills the significand. -/
theorem binade_le_exact :
    f.doublings num den = 0 ∨ (f.binade * 2 ^ f.doublings num den : ℚ) ≤ f.exact num den := by
  by_cases fine : f.doublings num den = 0
  · exact .inl fine
  right
  have coarse := fine
  unfold doublings at coarse
  have some : num * 2 ^ f.scale / den ≠ 0 := by
    intro none
    rw [none, Nat.log2_zero] at coarse
    omega
  have power : f.binade * 2 ^ f.doublings num den = 2 ^ Nat.log2 (num * 2 ^ f.scale / den) := by
    show 2 ^ (f.precision - 1) * 2 ^ _ = _
    rw [← pow_add, doublings]
    congr 1
    omega
  have whole := Nat.log2_self_le some
  rw [← power, Nat.le_div_iff_mul_le positive] at whole
  rw [exact, le_div_iff₀ (by exact_mod_cast positive)]
  exact_mod_cast whole

/-- The grid is doubled until the significand fits. -/
theorem exact_lt_binades :
    f.exact num den < 2 * f.binade * 2 ^ f.doublings num den := by
  have whole : num * 2 ^ f.scale / den < 2 * f.binade * 2 ^ f.doublings num den := by
    refine Nat.lt_log2_self.trans_le ?_
    rw [← two_pow_precision wide, ← pow_add]
    apply Nat.pow_le_pow_right (by decide)
    unfold doublings
    omega
  rw [Nat.div_lt_iff_lt_mul positive] at whole
  rw [exact, div_lt_iff₀ (by exact_mod_cast positive)]
  exact_mod_cast whole

omit wide in
/-- The significand is the nearest number of steps. -/
theorem significand_error :
    |(f.significand num den : ℚ) - f.exact num den / 2 ^ f.doublings num den| ≤ 1 / 2 ∧
      (|(f.significand num den : ℚ) - f.exact num den / 2 ^ f.doublings num den| = 1 / 2 →
        f.significand num den % 2 = 0) := by
  have steps : ((num * 2 ^ f.scale : ℕ) : ℚ) / (den * 2 ^ f.doublings num den : ℕ) =
      f.exact num den / 2 ^ f.doublings num den := by
    rw [exact, div_div]
    push_cast
    rfl
  have grid : 0 < den * 2 ^ f.doublings num den := by positivity
  have error := nearestEven_error grid (num * 2 ^ f.scale)
  rwa [steps] at error

theorem significand_le : f.significand num den ≤ 2 * f.binade := by
  have error := (abs_le.1 (significand_error (f := f) num positive).1).2
  have less : f.exact num den / 2 ^ f.doublings num den < 2 * f.binade := by
    rw [div_lt_iff₀ (by positivity)]
    exact exact_lt_binades wide num positive
  have : (f.significand num den : ℚ) < (2 * f.binade : ℕ) + 1 := by
    push_cast
    linarith
  exact Nat.lt_succ_iff.1 (by exact_mod_cast this)

theorem binade_le_significand :
    f.doublings num den = 0 ∨ f.binade ≤ f.significand num den := by
  refine (binade_le_exact wide num positive).imp_right fun full => ?_
  have error := (abs_le.1 (significand_error (f := f) num positive).1).1
  rw [← le_div_iff₀ (by positivity)] at full
  have : (f.binade : ℚ) < f.significand num den + 1 := by linarith
  exact Nat.lt_succ_iff.1 (by exact_mod_cast this)

/-- The pattern that is found stands for as many units as steps of the doubled grid. -/
theorem units_nearest (finite : f.nearest num den < f.infinity) :
    f.units (f.nearest num den) = f.significand num den * 2 ^ f.doublings num den := by
  rw [nearest_eq] at finite ⊢
  rw [min_eq_right (by omega), units_add f (binade_le_significand wide num positive)
    (significand_le wide num positive)]

omit wide in
/-- On the doubled grid, no number of steps is closer to the quotient. -/
theorem significand_closest (other : Nat) :
    |(f.significand num den * 2 ^ f.doublings num den : ℚ) - f.exact num den| ≤
        |(other * 2 ^ f.doublings num den : ℚ) - f.exact num den| ∧
      (|(other * 2 ^ f.doublings num den : ℚ) - f.exact num den| =
          |(f.significand num den * 2 ^ f.doublings num den : ℚ) - f.exact num den| →
        other = f.significand num den ∨ f.significand num den % 2 = 0) := by
  obtain ⟨near, even⟩ := significand_error (f := f) num positive
  have step : (0 : ℚ) < 2 ^ f.doublings num den := by positivity
  have distance (steps : Nat) : |(steps * 2 ^ f.doublings num den : ℚ) - f.exact num den| =
      |(steps : ℚ) - f.exact num den / 2 ^ f.doublings num den| * 2 ^ f.doublings num den := by
    rw [← abs_of_pos step, ← abs_mul, abs_of_pos step, sub_mul, div_mul_cancel₀ _ step.ne']
  rw [distance, distance, mul_le_mul_iff_of_pos_right step, mul_left_inj' step.ne']
  by_cases same : other = f.significand num den
  · rw [same]
    exact ⟨le_rfl, fun _ => .inl rfl⟩
  have far := half_le_of_ne near same
  exact ⟨near.trans far, fun tie => .inr (even (le_antisymm near (tie ▸ far)))⟩

omit positive in
/-- With an even significand the pattern is even, since a binade is. -/
theorem nearest_even (finite : f.nearest num den < f.infinity)
    (even : f.significand num den % 2 = 0) : f.nearest num den % 2 = 0 := by
  obtain ⟨half, binade_eq⟩ : ∃ half, f.binade = 2 * half := by
    refine ⟨2 ^ (f.precision - 2), ?_⟩
    show 2 ^ (f.precision - 1) = _
    rw [← pow_succ']
    congr 1
    omega
  rw [nearest_eq] at finite ⊢
  rw [min_eq_right (by omega), binade_eq, Nat.mul_left_comm, Nat.mul_add_mod, even]

omit wide positive in
/-- On a finer grid every pattern lies below the first full significand. -/
theorem steps_lt_of_finer {steps fineness : Nat} (fits : steps < 2 * f.binade)
    (finer : fineness < f.doublings num den) :
    (steps * 2 ^ fineness : ℚ) < f.binade * 2 ^ f.doublings num den := by
  have natural : steps * 2 ^ fineness < f.binade * 2 ^ f.doublings num den :=
    calc steps * 2 ^ fineness < 2 * f.binade * 2 ^ fineness :=
          Nat.mul_lt_mul_of_pos_right fits (by positivity)
      _ = f.binade * 2 ^ (fineness + 1) := by rw [pow_succ]; ring
      _ ≤ f.binade * 2 ^ f.doublings num den :=
          Nat.mul_le_mul_left _ (Nat.pow_le_pow_right (by decide) finer)
  exact_mod_cast natural

/-- No pattern stands for a number of units that is closer to the quotient; if another one is as
close, the pattern that is found is even. A pattern of the same or a coarser grid is a number of
steps. One of a finer grid lies below the first full significand, and that one below the
quotient. -/
theorem units_nearest_closest (finite : f.nearest num den < f.infinity) (other : Nat) :
    |(f.units (f.nearest num den) : ℚ) - f.exact num den| ≤
        |(f.units other : ℚ) - f.exact num den| ∧
      (|(f.units other : ℚ) - f.exact num den| =
          |(f.units (f.nearest num den) : ℚ) - f.exact num den| →
        f.units other = f.units (f.nearest num den) ∨ f.nearest num den % 2 = 0) := by
  obtain ⟨fineness, steps, rfl, full, fits⟩ := f.exists_significand other
  rw [units_nearest wide num positive finite, units_add f full fits.le]
  push_cast
  rcases Nat.lt_or_ge fineness (f.doublings num den) with finer | coarser
  · have below := steps_lt_of_finer num fits finer
    have reached := (binade_le_exact wide num positive).resolve_left (by omega)
    have closest := (significand_closest (f := f) num positive f.binade).1
    rw [abs_of_nonpos (sub_nonpos.2 reached)] at closest
    have away : |(steps * 2 ^ fineness : ℚ) - f.exact num den| =
        f.exact num den - steps * 2 ^ fineness := by
      rw [abs_sub_comm, abs_of_pos (by linarith)]
    rw [away]
    constructor
    · linarith
    · intro tie
      linarith
  · obtain ⟨more, rfl⟩ := Nat.exists_eq_add_of_le coarser
    obtain ⟨closest, even⟩ := significand_closest (f := f) num positive (steps * 2 ^ more)
    have regrouped : (steps * 2 ^ (f.doublings num den + more) : ℚ) =
        (steps * 2 ^ more : ℕ) * 2 ^ f.doublings num den := by
      push_cast
      rw [pow_add]
      ring
    rw [regrouped]
    refine ⟨closest, fun tie => (even tie).imp (fun same => ?_)
      (nearest_even wide num finite)⟩
    rw [← same, pow_add]
    ring

/-- The nearest pattern as a rational: none is closer to the quotient, and a tie is even. -/
theorem value_nearest_closest (finite : f.nearest num den < f.infinity) (other : Nat) :
    |f.value (f.nearest num den) - num / den| ≤ |f.value other - num / den| ∧
      (|f.value other - num / den| = |f.value (f.nearest num den) - num / den| →
        f.value other = f.value (f.nearest num den) ∨ f.nearest num den % 2 = 0) := by
  have unit : (0 : ℚ) < 2 ^ f.scale := by positivity
  have distance (pattern : Nat) : |f.value pattern - num / den| =
      |(f.units pattern : ℚ) - f.exact num den| / 2 ^ f.scale := by
    rw [← abs_of_pos unit, ← abs_div, value, exact, sub_div, mul_div_right_comm,
      mul_div_cancel_right₀ _ unit.ne']
  obtain ⟨closest, even⟩ := units_nearest_closest wide num positive finite other
  rw [distance, distance, div_le_div_iff_of_pos_right unit, div_left_inj' unit.ne']
  refine ⟨closest, fun tie => (even tie).imp_left fun same => ?_⟩
  rw [value, value, same]

end

section
variable {f : Format} (wide : 2 ≤ f.precision) {num den : Nat} (positive : 0 < den)
include wide positive

/-- A quotient below the greatest finite values has a finite nearest pattern. -/
theorem nearest_lt_infinity {spare : Nat} (room : spare + 2 < 2 ^ f.exponentBits - 1)
    (bounded : num * 2 ^ f.scale < 2 ^ (f.precision + spare) * den) :
    f.nearest num den < f.infinity := by
  have few : f.doublings num den ≤ spare := by
    by_cases none : num * 2 ^ f.scale / den = 0
    · rw [doublings, none, Nat.log2_zero]
      omega
    · have := (Nat.log2_lt none).2 ((Nat.div_lt_iff_lt_mul positive).2 bounded)
      unfold doublings
      omega
  refine lt_of_le_of_lt (min_le_right _ _) ?_
  calc f.doublings num den * f.binade + f.significand num den
      ≤ spare * f.binade + 2 * f.binade :=
        Nat.add_le_add (Nat.mul_le_mul_right _ few) (significand_le wide num positive)
    _ = (spare + 2) * f.binade := by ring
    _ < f.infinity := (Nat.mul_lt_mul_right f.binade_pos).2 room

/-- A quotient that is a significand, doubled, is kept as it is. -/
theorem units_nearest_of_eq {steps fineness : Nat} (fits : steps < 2 ^ f.precision)
    (room : fineness + 2 < 2 ^ f.exponentBits - 1)
    (equal : num * 2 ^ f.scale = steps * 2 ^ fineness * den) :
    f.nearest num den < f.infinity ∧ f.units (f.nearest num den) = steps * 2 ^ fineness := by
  have finite : f.nearest num den < f.infinity := by
    refine nearest_lt_infinity wide positive room ?_
    rw [equal, pow_add]
    exact Nat.mul_lt_mul_of_pos_right (Nat.mul_lt_mul_of_pos_right fits (by positivity)) positive
  refine ⟨finite, ?_⟩
  rw [two_pow_precision wide] at fits
  obtain ⟨pattern, units_eq⟩ := f.exists_units_eq fits.le fineness
  have exact_eq : f.exact num den = f.units pattern := by
    rw [exact, div_eq_iff (by exact_mod_cast positive.ne'), units_eq]
    exact_mod_cast equal
  have closest := (units_nearest_closest wide num positive finite pattern).1
  rw [exact_eq, sub_self, abs_zero, abs_nonpos_iff, sub_eq_zero] at closest
  rw [← units_eq]
  exact_mod_cast closest

end

end Format

end Findings.Number
