import Findings.Json.Shape
import Findings.Proofs.Json.Drafts
import Findings.Proofs.Number.Places
import Findings.Proofs.Record.Reading

/-!
Numbers that come from texts. An integer that is read has 64 bits, signed below zero and unsigned
above, and any other number is a finite double: scaling by powers of ten either stays in range or
refuses (`Json.scale_isFinite`). So every number in the draft of a text fits (`Json.ofText_fits`),
and what is read from it as a double is finite.
-/

namespace Findings

namespace Number

namespace Double

theorem isFinite_ofRatio_of_lt (negative : Bool) {num den size : Nat} (positive : 0 < den)
    (room : size ≤ 1023) (bounded : num < 2 ^ size * den) :
    (ofRatio negative num den).isFinite := by
  obtain ⟨spare, split⟩ : ∃ spare, size + 1074 = 53 + spare := Nat.exists_eq_add_of_le (by omega)
  have few : spare + 2 < 2 ^ 11 - 1 := by omega
  have same : size + Format.double.scale = 53 + spare := split
  refine (isFinite_ofRatio negative).mpr (Format.nearest_lt_infinity wide positive few ?_)
  have unit : 0 < 2 ^ Format.double.scale := by positivity
  calc num * 2 ^ Format.double.scale
      < 2 ^ size * den * 2 ^ Format.double.scale := Nat.mul_lt_mul_of_pos_right bounded unit
    _ = 2 ^ (53 + spare) * den := by rw [← same, pow_add, mul_right_comm]

theorem isFinite_ofNat {n : Nat} (fits : n < 2 ^ 64) : (ofNat n).isFinite := by
  refine isFinite_ofRatio_of_lt false Nat.one_pos (show 64 ≤ 1023 by omega) ?_
  rwa [mul_one]

theorem isFinite_powerOfTen {n : Nat} (few : n ≤ 308) : (powerOfTen n).isFinite := by
  by_cases last : n = 308
  · subst last
    decide +kernel
  · obtain ⟨size, is⟩ : ∃ size, size = 1023 := ⟨_, rfl⟩
    obtain ⟨top, most⟩ : ∃ top, top = 307 := ⟨_, rfl⟩
    have within : 10 ^ top < 2 ^ size := by
      subst is most
      decide +kernel
    refine isFinite_ofRatio_of_lt false Nat.one_pos is.le ?_
    rw [mul_one]
    exact (Nat.pow_le_pow_right (by omega) (by omega)).trans_lt within

/-- No power of ten is rounded to less than ten. -/
theorem ten_le_units_powerOfTen {n : Nat} (some : 1 ≤ n) (few : n ≤ 308) :
    10 * 2 ^ Format.double.scale ≤ (powerOfTen n).units := by
  have unit : (0 : ℚ) < 2 ^ Format.double.scale := by positivity
  have nearest : (powerOfTen n).IsNearest (10 ^ n) := by
    have finite : (ofRatio false (10 ^ n) 1).isFinite := isFinite_powerOfTen few
    have rounded := ofRatio_isNearest false Nat.one_pos finite
    rw [Nat.cast_one, div_one, Nat.cast_pow, Nat.cast_ofNat] at rounded
    exact rounded
  have value : (powerOfTen n).toRat = (powerOfTen n).units / 2 ^ Format.double.scale :=
    Is.toRat ⟨nearest.finite, negative_ofRatio false, rfl⟩
  have ten : (powerOfTen (1 : Nat)).toRat = 10 := by rw [toRat_powerOfTen (by omega), pow_one]
  have closest := nearest.closest (powerOfTen (1 : Nat)) (isFinite_powerOfTen (by omega))
  have least : (10 : ℚ) ≤ 10 ^ n := le_self_pow₀ (by norm_num) (by omega)
  rw [ten, value, abs_of_nonpos (sub_nonpos.mpr least)] at closest
  have kept := (abs_le.mp closest).1
  have scaled : (10 : ℚ) ≤ (powerOfTen n).units / 2 ^ Format.double.scale := by linarith
  rw [le_div_iff₀ unit] at scaled
  exact_mod_cast scaled

/-- A finite double is a significand of its precision, doubled a number of times. -/
theorem exists_significand {x : Double} (finite : x.isFinite) :
    ∃ steps fineness, x.units = steps * 2 ^ fineness ∧ steps < 2 ^ 53 ∧ fineness ≤ 2045 := by
  obtain ⟨fineness, steps, magnitude, full, fits⟩ :=
    Format.double.exists_significand x.magnitude
  refine ⟨steps, fineness, ?_, fits, ?_⟩
  · rw [Double.units, magnitude, Format.units_add _ full fits.le]
  · have low : x.magnitude < 2047 * 2 ^ 52 := of_decide_eq_true finite
    have binade : Format.double.binade = 2 ^ 52 := rfl
    rw [magnitude, binade] at low
    rw [binade] at full
    omega

theorem isFinite_ofMagnitude (negative : Bool) {magnitude : Nat}
    (low : magnitude < Format.double.infinity) : (ofMagnitude negative magnitude).isFinite := by
  rw [isFinite, magnitude_ofMagnitude negative low.le]
  exact decide_eq_true low

variable {x y : Double}

/-- Finite doubles have a product that is finite unless it is infinite. -/
theorem isFinite_mul (left : x.isFinite) (right : y.isFinite)
    (bounded : (x.mul y).isInfinite = false) : (x.mul y).isFinite := by
  rw [Is.mul ⟨left, rfl, rfl⟩ ⟨right, rfl, rfl⟩] at bounded ⊢
  rw [isInfinite, magnitude_ofRatio] at bounded
  refine (isFinite_ofRatio _).mpr (lt_of_le_of_ne (min_le_left _ _) ?_)
  simpa using bounded

theorem isFinite_div (left : x.isFinite) (right : y.isFinite)
    (large : 10 * 2 ^ Format.double.scale ≤ y.units) : (x.div y).isFinite := by
  have positive : 0 < y.units := Nat.lt_of_lt_of_le (by positivity) large
  obtain ⟨steps, fineness, units, fits, low⟩ := exists_significand left
  rw [Is.div ⟨left, rfl, rfl⟩ ⟨right, rfl, rfl⟩ positive]
  obtain ⟨size, is⟩ : ∃ size, size = 1023 := ⟨_, rfl⟩
  refine isFinite_ofRatio_of_lt _ positive is.le ?_
  have split : 53 + fineness ≤ size + (1 + Format.double.scale) := by
    show _ ≤ size + (1 + 1074)
    omega
  calc x.units = steps * 2 ^ fineness := units
    _ < 2 ^ 53 * 2 ^ fineness := Nat.mul_lt_mul_of_pos_right fits (by positivity)
    _ = 2 ^ (53 + fineness) := (pow_add ..).symm
    _ ≤ 2 ^ (size + (1 + Format.double.scale)) := Nat.pow_le_pow_right Nat.two_pos split
    _ = 2 ^ size * (2 * 2 ^ Format.double.scale) := by rw [pow_add, pow_add, pow_one]
    _ ≤ 2 ^ size * y.units := by
      refine Nat.mul_le_mul_left _ (le_trans ?_ large)
      exact Nat.mul_le_mul_right _ (by omega)

end Double

end Number

namespace Json

open Findings.Number (isDigit digitValue powerOfTen)
open Findings.Number.Double (isFinite_mul isFinite_div isFinite_powerOfTen isFinite_ofNat
  isFinite_ofMagnitude ten_le_units_powerOfTen)

/-- An integer of 64 bits, signed below zero and unsigned above, or a finite double. -/
def Number.Fits : Number → Prop
  | .integer n => -(Nat.pow 2 63 : Int) ≤ n ∧ n < Nat.pow 2 64
  | .float x => x.isFinite

theorem scale_isFinite {fuel : Nat} {f scaled : Findings.Number.Double} {e : Int}
    (finite : f.isFinite) (scales : scale fuel f e = some scaled) : scaled.isFinite := by
  induction fuel generalizing f e with
  | zero =>
    cases scales
    exact finite
  | succ fuel ih =>
    rw [scale] at scales
    split at scales
    next near =>
      split at scales
      next up =>
        obtain ⟨n, rfl⟩ := Int.eq_ofNat_of_zero_le up
        dsimp only at scales
        split at scales
        next => cases scales
        next bounded =>
          cases scales
          exact isFinite_mul finite (isFinite_powerOfTen near) (by simpa using bounded)
      next down =>
        obtain ⟨n, negated, some, few⟩ : ∃ n : Nat, Int.neg e = n ∧ 1 ≤ n ∧ n ≤ 308 := by
          refine ⟨e.natAbs, ?_, by omega, near⟩
          show -e = _
          omega
        rw [negated] at scales
        cases scales
        exact isFinite_div finite (isFinite_powerOfTen few) (ten_le_units_powerOfTen some few)
    next =>
      split at scales
      next =>
        cases scales
        exact finite
      next =>
        split at scales
        next => cases scales
        next =>
          have few : 308 ≤ 308 := Nat.le_refl _
          have large := ten_le_units_powerOfTen (n := 308) (by omega) few
          exact ih (isFinite_div finite (isFinite_powerOfTen few) large) scales

theorem floatOf_fits {negative : Bool} {significand : Nat} {exponent : Int} {n : Number}
    (fits : significand ≤ significandLimit) (is : floatOf negative significand exponent = some n) :
    n.Fits := by
  obtain ⟨f, scaled, rfl⟩ := Option.map_eq_some_iff.mp is
  have small : significand < 2 ^ 64 := Nat.lt_of_le_of_lt fits (by decide)
  have finite := scale_isFinite (isFinite_ofNat small) scaled
  exact isFinite_ofMagnitude negative (of_decide_eq_true finite)

theorem gather_le {limit n : Nat} {digits : List Char} (fits : n ≤ limit) :
    (gather limit n digits).1 ≤ limit := by
  induction digits generalizing n with
  | nil => exact fits
  | cons c rest ih =>
    rw [gather]
    dsimp only
    split
    next => exact fits
    next low => exact ih (Nat.not_lt.mp low)

theorem integer_fits {n : Nat} (fits : n ≤ significandLimit) : (Number.integer n).Fits := by
  have limit : significandLimit = Nat.pow 2 64 - 1 := rfl
  have some : 0 < Nat.pow 2 64 := by decide
  constructor <;> omega

theorem neg_integer_fits {n : Nat} (positive : 1 ≤ n) (fits : n ≤ Nat.pow 2 63) :
    (Number.integer (Int.neg n)).Fits := by
  constructor
  · show _ ≤ -(n : Int)
    omega
  · show -(n : Int) < _
    omega

/-- Every numeral stands for a number that fits, if for any. -/
theorem Numeral.value?_fits {numeral : Numeral} {n : Number} (value : numeral.value? = some n) :
    n.Fits := by
  have whole : (gather significandLimit 0 numeral.whole).1 ≤ significandLimit :=
    gather_le (Nat.zero_le _)
  rw [value?] at value
  rcases gathered : gather significandLimit 0 numeral.whole with ⟨significand, taken⟩
  rw [gathered] at whole value
  dsimp only at whole value
  split at value
  next =>
    split at value
    next => exact floatOf_fits whole value
    next =>
      split at value
      next =>
        cases value
        exact integer_fits whole
      next =>
        split at value
        next within =>
          cases value
          obtain ⟨positive, least⟩ : 1 ≤ significand ∧ significand ≤ Nat.pow 2 63 := by
            simpa using within
          exact neg_integer_fits positive least
        next => exact floatOf_fits whole value
  next =>
    have digits (more : List Char) :
        (gather significandLimit significand more).1 ≤ significandLimit :=
      gather_le whole
    split at value
    next => exact floatOf_fits (digits _) value
    next =>
      split at value
      next =>
        split at value
        next => cases value
        next =>
          cases value
          exact isFinite_ofMagnitude numeral.negative (by decide)
      next => exact floatOf_fits (digits _) value

/-! ## Drafts -/

namespace Draft

mutual

/-- Every number in the draft fits. -/
def Fits : Draft → Prop
  | number n => n.Fits
  | array items => FitItems items
  | object members _ => FitMembers members
  | null | bool _ | string _ | unreadable => True

/-- Every number in the items fits. -/
def FitItems : List Draft → Prop
  | [] => True
  | item :: rest => Fits item ∧ FitItems rest

/-- Every number in the values of the members fits. -/
def FitMembers : List (String × Draft) → Prop
  | [] => True
  | (_, value) :: rest => Fits value ∧ FitMembers rest

end

theorem fitMembers_iff {members : List (String × Draft)} :
    FitMembers members ↔ ∀ m ∈ members, m.2.Fits := by
  induction members with
  | nil => simp [FitMembers]
  | cons m rest ih => simp [FitMembers, ih]

theorem fitItems_iff {items : List Draft} : FitItems items ↔ ∀ item ∈ items, item.Fits := by
  induction items with
  | nil => simp [FitItems]
  | cons item rest ih => simp [FitItems, ih]

end Draft

/-- The numbers of every text fit. -/
theorem ofText_fits (text : String) : (Document.ofText text).draft.Fits := by
  have inherited : Inherited fun _ d => d.Fits := {
    null := trivial
    bool := fun _ => trivial
    string := fun _ => trivial
    unreadable := trivial
    number := Numeral.value?_fits
    array := fun _ each => Draft.fitItems_iff.mpr each
    object := fun _ each => Draft.fitMembers_iff.mpr each }
  exact inherited.ofText text

/-! ## Readers -/

/-- What is read from a text is read from a draft whose numbers fit, and with not too many
containers within one another. -/
theorem exists_draft_of_parse {α : Type} {reader : Reader α} {text : String} {value : α}
    (parsed : parse reader text = .ok value) :
    ∃ draft : Draft, draft.Fits ∧ draft.height < nestingLimit ∧ reader draft = .ok value := by
  obtain ⟨read, accepted, complete⟩ := Record.bind_eq_ok_iff.mp parsed
  refine ⟨_, ofText_fits text, height_ofText text, accepted.trans ?_⟩
  split at complete
  · exact complete
  · cases complete

/-- What is read as a double is finite, also where it is written as an integer. -/
theorem Reader.isFinite_of_double {d : Draft} {x : Findings.Number.Double} (fits : d.Fits)
    (read : Reader.double d = .ok x) : x.isFinite := by
  cases d with
  | number n =>
    cases n with
    | float y =>
      cases read
      exact fits
    | integer n =>
      cases read
      obtain ⟨least, greatest⟩ := fits
      have half : Nat.pow 2 63 < 2 ^ 64 := by decide
      have whole : Nat.pow 2 64 = 2 ^ 64 := rfl
      refine Findings.Number.Double.isFinite_ofRatio_of_lt _ Nat.one_pos
        (show 64 ≤ 1023 by omega) ?_
      omega
  | _ => cases read

/-- The members a structure is read from fit with the value they stand in. -/
theorem Struct.fits_of_known {s : Struct} {source : Source} {d : Draft}
    {members : List (String × Draft)} (fits : d.Fits) (known : s.known source d = .ok members) :
    ∀ m ∈ members, m.2.Fits := by
  cases d with
  | object given closed =>
    obtain ⟨_, _, whole⟩ := Record.bind_eq_ok_iff.mp known
    cases closed with
    | false => cases whole
    | true =>
      cases whole
      exact Draft.fitMembers_iff.mp fits
  | array items =>
    obtain ⟨_, _, returned⟩ := Record.bind_eq_ok_iff.mp known
    cases returned
    intro m member
    exact Draft.fitItems_iff.mp fits m.2 (List.of_mem_zip member).2
  | number n => cases n <;> cases known
  | _ => cases known

end Json

end Findings
