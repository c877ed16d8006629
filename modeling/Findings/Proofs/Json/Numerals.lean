import Findings.Json.Print
import Findings.Json.Text
import Mathlib.Data.List.Basic

/-!
Numbers that are read back from how they are written. An integer of 64 bits, signed below zero and
unsigned above, is written in the digits it is read from (`Json.Number.readsBack_integer`), wherever
the text goes on with a mark that stands in no number. Whether a double is read back depends on the
double, since reading rounds twice.
-/

namespace Findings

/-! ## Digits -/

namespace Number

theorem isDigit_ofNat : ∀ {d : Nat}, d < 10 → isDigit (Char.ofNat (48 + d)) = true := by decide

theorem digitValue_ofNat : ∀ {d : Nat}, d < 10 → digitValue (Char.ofNat (48 + d)) = d := by decide

theorem natDigits_of_lt {n : Nat} (small : n < 10) : natDigits n = [Char.ofNat (48 + n)] := by
  rw [natDigits, if_pos small]

/-- The last digit is the remainder by ten, and the others are those of the quotient. -/
theorem natDigits_of_le {n : Nat} (large : 10 ≤ n) :
    natDigits n = natDigits (n / 10) ++ [Char.ofNat (48 + n % 10)] := by
  rw [natDigits, if_neg (Nat.not_lt.mpr large)]

theorem natDigits_ne_nil (n : Nat) : natDigits n ≠ [] := by
  rw [natDigits]
  split <;> simp

theorem isDigit_of_mem_natDigits {n : Nat} : ∀ c ∈ natDigits n, isDigit c = true := by
  induction n using natDigits.induct with
  | case1 n small =>
    rw [natDigits_of_lt small]
    simpa using isDigit_ofNat small
  | case2 n large ih =>
    rw [natDigits_of_le (Nat.not_lt.mp large)]
    intro c member
    rcases List.mem_append.mp member with before | last
    · exact ih c before
    · rw [List.mem_singleton.mp last]
      exact isDigit_ofNat (Nat.mod_lt n (by decide))

/-- Only zero begins with a zero. -/
theorem head?_natDigits {n : Nat} (positive : n ≠ 0) : (natDigits n).head? ≠ some '0' := by
  induction n using natDigits.induct with
  | case1 n small =>
    rw [natDigits_of_lt small]
    revert positive
    have each : ∀ d < 10, d ≠ 0 → [Char.ofNat (48 + d)].head? ≠ some '0' := by decide
    exact each n small
  | case2 n large ih =>
    have quotient : n / 10 ≠ 0 := by omega
    rw [natDigits_of_le (Nat.not_lt.mp large), List.head?_append_of_ne_nil _ (natDigits_ne_nil _)]
    exact ih quotient

/-- Only zero begins with a zero. -/
theorem length_natDigits_of_head? {n : Nat} (zero : (natDigits n).head? = some '0') :
    (natDigits n).length ≤ 1 := by
  by_cases positive : n = 0
  · rw [positive, natDigits_of_lt (by decide)]
    exact Nat.le_refl 1
  · exact absurd zero (head?_natDigits positive)

end Number

namespace Json

open Findings.Number (isDigit digitValue natDigits intDigits natDigits_of_lt natDigits_of_le
  digitValue_ofNat)

/-- One more digit is gathered as long as the limit allows it. -/
theorem gather_concat {limit n value : Nat} {digits : List Char} {c : Char}
    (gathered : gather limit n digits = (value, digits.length))
    (fits : value * 10 + digitValue c ≤ limit) :
    gather limit n (digits ++ [c]) = (value * 10 + digitValue c, digits.length + 1) := by
  induction digits generalizing n with
  | nil =>
    cases gathered
    rw [List.nil_append, gather, if_neg (Nat.not_lt.mpr fits)]
    rfl
  | cons d rest ih =>
    rw [gather] at gathered
    rw [List.cons_append, gather]
    split at gathered
    next => cases gathered
    next low =>
      rw [if_neg low]
      rcases further : gather limit (n * 10 + digitValue d) rest with ⟨v, taken⟩
      rw [further] at gathered
      cases gathered
      rw [ih further]
      rfl

/-- The digits of a number within the limit are gathered to that number. -/
theorem gather_natDigits {limit n : Nat} (fits : n ≤ limit) :
    gather limit 0 (natDigits n) = (n, (natDigits n).length) := by
  induction n using Findings.Number.natDigits.induct with
  | case1 n small =>
    rw [natDigits_of_lt small]
    have value := digitValue_ofNat small
    have empty : gather limit 0 [] = (0, ([] : List Char).length) := rfl
    have gathered := gather_concat (c := Char.ofNat (48 + n)) empty (by omega)
    rw [value] at gathered
    simpa using gathered
  | case2 n large ih =>
    have value := digitValue_ofNat (Nat.mod_lt n (by decide : 0 < 10))
    have split : n / 10 * 10 + n % 10 = n := by omega
    rw [natDigits_of_le (Nat.not_lt.mp large)]
    rw [gather_concat (ih (by omega)) (by omega), value, split, List.length_append,
      List.length_singleton]

/-! ## Numerals -/

/-- The text ends or goes on with a mark that stands in no number. -/
def Delimited (rest : List Char) : Prop :=
  ∀ c ∈ rest.head?, c = ',' ∨ c = ']' ∨ c = '\x7d'

theorem delimited_nil : Delimited [] := nofun

/-- What a number cannot go on with: neither a digit nor a point nor the beginning of an
exponent. -/
def isForeign (c : Char) : Bool := !isDigit c && c != '.' && c != 'e' && c != 'E'

/-- The text goes on with nothing that a number could go on with. -/
def Stops (rest : List Char) : Prop := ∀ c ∈ rest.head?, isForeign c = true

theorem stops_nil : Stops [] := nofun

theorem stops_cons {c : Char} {rest : List Char} (foreign : isForeign c = true) :
    Stops (c :: rest) := by
  rintro _ ⟨⟩
  exact foreign

/-- A mark that ends a value ends a number. -/
theorem Delimited.stops {rest : List Char} (delimited : Delimited rest) : Stops rest := by
  intro c first
  rcases delimited c first with rfl | rfl | rfl <;> decide

namespace Numeral

/-- Some digits, and nothing else. -/
structure Digits (digits : List Char) : Prop where
  given : digits ≠ []
  all : ∀ c ∈ digits, isDigit c = true

/-- The parts of a numeral are digits, and a leading zero stands alone. -/
structure Proper (numeral : Numeral) : Prop where
  whole : Digits numeral.whole
  leading : numeral.whole.head? = some '0' → numeral.whole.length ≤ 1
  fraction : ∀ digits ∈ numeral.fraction, Digits digits
  exponent : ∀ part ∈ numeral.exponent, Digits part.2

def fractionText : Option (List Char) → List Char
  | some digits => '.' :: digits
  | none => []

/-- An exponent always shows its sign. -/
def exponentText : Option (Bool × List Char) → List Char
  | some (negative, digits) => 'e' :: (if negative then '-' else '+') :: digits
  | none => []

/-- How a numeral is written behind its sign. -/
def unsignedText (numeral : Numeral) : List Char :=
  numeral.whole ++ (fractionText numeral.fraction ++ exponentText numeral.exponent)

/-- How a numeral is written. -/
def text (numeral : Numeral) : List Char :=
  (if numeral.negative then ['-'] else []) ++ numeral.unsignedText

variable {digits rest : List Char}

/-- Digits are taken as far as they go. -/
theorem digits?_append (some : Digits digits) (ends : ∀ c ∈ rest.head?, isDigit c = false) :
    digits? (digits ++ rest) = .some (digits, rest) := by
  have behind : rest.takeWhile isDigit = [] ∧ rest.dropWhile isDigit = rest := by
    cases rest with
    | nil => exact ⟨rfl, rfl⟩
    | cons c rest =>
      have other : ¬ isDigit c = true := Bool.eq_false_iff.mp (ends c rfl)
      exact ⟨List.takeWhile_cons_of_neg other, List.dropWhile_cons_of_neg other⟩
  have given : digits.isEmpty = false := by simpa using some.given
  rw [digits?, List.takeWhile_append_of_pos some.all, List.dropWhile_append_of_pos some.all,
    behind.1, behind.2, List.append_nil, given]
  rfl

theorem isDigit_of_isForeign {c : Char} (foreign : isForeign c = true) : isDigit c = false := by
  simp only [isForeign, Bool.and_eq_true, Bool.not_eq_true'] at foreign
  exact foreign.1.1.1

/-- An exponent is read back from its mark, its sign and its digits. -/
theorem exponent?_text {exponent : Option (Bool × List Char)}
    (proper : ∀ part ∈ exponent, Digits part.2) (stops : Stops rest) :
    exponent? (exponentText exponent ++ rest) = some (exponent, rest) := by
  cases exponent with
  | none =>
    rw [exponentText, List.nil_append]
    unfold exponent?
    split
    all_goals first | rfl | exact absurd (stops _ rfl) (by decide)
  | some part =>
    obtain ⟨negative, digits⟩ := part
    have taken := digits?_append (proper _ rfl) fun c first => isDigit_of_isForeign (stops c first)
    cases negative
    all_goals
      show (digits? (digits ++ rest)).map _ = _
      rw [taken]
      rfl

/-- A numeral goes on behind its fraction with an exponent, or it is at its end. -/
theorem head?_exponentText (exponent : Option (Bool × List Char)) (stops : Stops rest) :
    ∀ c ∈ (exponentText exponent ++ rest).head?, isDigit c = false ∧ c ≠ '.' := by
  cases exponent with
  | none =>
    intro c first
    refine ⟨isDigit_of_isForeign (stops c first), ?_⟩
    rintro rfl
    exact absurd (stops '.' first) (by decide)
  | some part =>
    rintro _ ⟨⟩
    decide

/-- A fraction is read back from its point and its digits. -/
theorem fraction?_text {fraction : Option (List Char)} (proper : ∀ part ∈ fraction, Digits part)
    (ends : ∀ c ∈ rest.head?, isDigit c = false ∧ c ≠ '.') :
    fraction? (fractionText fraction ++ rest) = some (fraction, rest) := by
  cases fraction with
  | none =>
    rw [fractionText, List.nil_append]
    unfold fraction?
    split
    next => exact absurd rfl (ends '.' rfl).2
    next => rfl
  | some digits =>
    show (digits? (digits ++ rest)).map _ = _
    rw [digits?_append (proper digits rfl) fun c first => (ends c first).1]
    rfl

/-- Behind the digits in front of a fraction stands no further one. -/
theorem head?_fractionText (fraction : Option (List Char))
    (ends : ∀ c ∈ rest.head?, isDigit c = false ∧ c ≠ '.') :
    ∀ c ∈ (fractionText fraction ++ rest).head?, isDigit c = false := by
  cases fraction with
  | none => exact fun c first => (ends c first).1
  | some digits =>
    rintro _ ⟨⟩
    rfl

/-- A numeral is found behind its sign wherever it is written. -/
theorem splitUnsigned?_text {numeral : Numeral} (proper : numeral.Proper) (stops : Stops rest) :
    splitUnsigned? numeral.negative (numeral.unsignedText ++ rest) = some (numeral, rest) := by
  have afterFraction := head?_exponentText numeral.exponent stops
  have whole := digits?_append proper.whole (head?_fractionText numeral.fraction afterFraction)
  have alone : (numeral.whole.head? == some '0' && decide (1 < numeral.whole.length)) = false := by
    simpa using proper.leading
  rw [unsignedText, List.append_assoc, List.append_assoc, splitUnsigned?, whole]
  simp only [Option.bind_eq_bind, Option.bind_some, alone,
    fraction?_text proper.fraction afterFraction, exponent?_text proper.exponent stops]
  rfl

/-- A numeral is found wherever it is written. -/
theorem split?_text {numeral : Numeral} (proper : numeral.Proper) (stops : Stops rest) :
    split? (numeral.text ++ rest) = some (numeral, rest) := by
  have found := splitUnsigned?_text proper stops
  rw [text]
  cases negative : numeral.negative with
  | true =>
    rw [negative] at found
    exact found
  | false =>
    rw [negative] at found
    -- Digits stand behind no sign.
    obtain ⟨c, more, first⟩ := List.exists_cons_of_ne_nil proper.whole.given
    have digit := proper.whole.all c (first ▸ List.mem_cons_self)
    rw [if_neg Bool.false_ne_true, List.nil_append, ← found, unsignedText, first, split?]
    rintro _ ⟨⟩
    cases digit

/-- The digits of a number are worth the number. -/
theorem value?_natDigits {n : Nat} (fits : n ≤ significandLimit) :
    value? ⟨false, natDigits n, none, none⟩ = some (.integer n) := by
  simp [value?, gather_natDigits fits]

theorem value?_neg_natDigits {n : Nat} (positive : 1 ≤ n) (fits : n ≤ Nat.pow 2 63) :
    value? ⟨true, natDigits n, none, none⟩ = some (.integer (Int.neg n)) := by
  have within : n ≤ significandLimit := Nat.le_trans fits (by decide)
  simp [value?, gather_natDigits within, positive, fits]

/-- The numeral of an integer. -/
def ofInt (n : Int) : Numeral := ⟨decide (n < 0), natDigits n.natAbs, none, none⟩

theorem digits_natDigits (n : Nat) : Digits (natDigits n) :=
  ⟨Findings.Number.natDigits_ne_nil n, Findings.Number.isDigit_of_mem_natDigits⟩

theorem proper_ofInt (n : Int) : (ofInt n).Proper :=
  ⟨digits_natDigits _, Findings.Number.length_natDigits_of_head?, nofun, nofun⟩

/-- The numeral of an integer spells it as it is printed. -/
theorem text_ofInt (n : Int) : (ofInt n).text = intDigits n := by
  simp [text, unsignedText, ofInt, fractionText, exponentText, intDigits]

end Numeral

namespace Number

/-- The number is what a reader finds when the text begins with how the number is written. -/
def ReadsBack (n : Number) : Prop :=
  ∀ rest, Delimited rest → ∃ numeral,
    Numeral.split? (n.text ++ rest) = some (numeral, rest) ∧ numeral.value? = some n

/-- An integer of 64 bits is read back. -/
theorem readsBack_integer {n : Int} (least : -(Nat.pow 2 63 : Int) ≤ n)
    (greatest : n < Nat.pow 2 64) : ReadsBack (.integer n) := by
  have limit : significandLimit = Nat.pow 2 64 - 1 := rfl
  intro rest delimited
  refine ⟨.ofInt n, ?_, ?_⟩
  · rw [text, ← Numeral.text_ofInt]
    exact Numeral.split?_text (Numeral.proper_ofInt n) delimited.stops
  · rw [Numeral.ofInt]
    by_cases below : n < 0
    · have value : Int.neg n.natAbs = n := by
        show -(n.natAbs : Int) = n
        omega
      rw [decide_eq_true below, Numeral.value?_neg_natDigits (by omega) (by omega), value]
    · have value : (n.natAbs : Int) = n := by omega
      rw [decide_eq_false below, Numeral.value?_natDigits (by omega), value]

end Number
end Json
end Findings
