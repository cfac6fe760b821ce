import QuestionBank.Proofs.Number.Range
import QuestionBank.Proofs.Number.Written
import Mathlib.Tactic.MkIffOfInductiveProp

/-!
# Signs and bounds of numbers

Shares of credit are numbers between minus one and one, and tolerances are numbers that are
not negative. What is rounded keeps its sign, so half the distance of two numbers in order
is not negative, and neither is what the text of such a number reads back as.
-/

namespace QuestionBank

namespace Binary64

/-- A number is not below minus one and not above one. -/
@[mk_iff]
structure InUnit (x : Binary64) : Prop where
  low : x.lt (.ofInt (-1)) = false
  high : (Binary64.ofInt 1).lt x = false

/-- A number is not below zero. -/
def NotNegative (x : Binary64) : Prop := x.lt (.ofInt 0) = false

instance (x : Binary64) : Decidable x.NotNegative := inferInstanceAs (Decidable (_ = _))

/-! ## Numbers in units -/

/-- A finite number in units, with its sign. -/
def signedUnits (negative : Bool) (e : Fin 2047) (f : BitVec 52) : Int :=
  if negative then -(units e f : Int) else units e f

theorem lt_finite (a b : Bool) (ea eb : Fin 2047) (fa fb : BitVec 52) :
    (finite a ea fa).lt (finite b eb fb) =
      decide (signedUnits a ea fa < signedUnits b eb fb) := rfl

theorem natAbs_signedUnits (negative : Bool) (e : Fin 2047) (f : BitVec 52) :
    (signedUnits negative e f).natAbs = units e f := by
  unfold signedUnits
  split <;> simp

theorem ofInt_zero : ofInt 0 = .finite false 0 0 := by decide +kernel

theorem ofInt_one : ofInt 1 = .finite false 1023 0 := by decide +kernel

theorem ofInt_neg_one : ofInt (-1) = .finite true 1023 0 := by decide +kernel

theorem units_one : units 1023 0 = unitsPerOne := by decide +kernel

/-- A finite number that is at most one either way is between minus one and one. -/
theorem inUnit_of_units_le {negative : Bool} {e : Fin 2047} {f : BitVec 52}
    (h : units e f ≤ unitsPerOne) : InUnit (.finite negative e f) := by
  have habs := natAbs_signedUnits negative e f
  have hone : signedUnits false 1023 0 = unitsPerOne := congrArg Nat.cast units_one
  have hminus : signedUnits true 1023 0 = -unitsPerOne := congrArg (-Nat.cast ·) units_one
  constructor
  · rw [ofInt_neg_one, lt_finite, decide_eq_false_iff_not, hminus]
    omega
  · rw [ofInt_one, lt_finite, decide_eq_false_iff_not, hone]
    omega

/-! ## Numbers that are not negative -/

theorem notNegative_nan : NotNegative .nan := rfl

theorem notNegative_infinite {negative : Bool} :
    NotNegative (.infinite negative) ↔ negative = false := by
  cases negative <;> decide

theorem notNegative_finite {negative : Bool} {e : Fin 2047} {f : BitVec 52} :
    NotNegative (.finite negative e f) ↔ 0 ≤ signedUnits negative e f := by
  rw [NotNegative, ofInt_zero, lt_finite, decide_eq_false_iff_not, not_lt]
  rfl

theorem notNegative_of_sign {e : Fin 2047} {f : BitVec 52} : NotNegative (.finite false e f) :=
  notNegative_finite.mpr (Int.natCast_nonneg _)

theorem ofSignificand_cases (negative : Bool) (significand scale : Nat) :
    (∃ e f, ofSignificand negative significand scale = .finite negative e f) ∨
      ofSignificand negative significand scale = .infinite negative := by
  unfold ofSignificand
  split
  · exact .inl ⟨_, _, rfl⟩
  · split
    · exact .inl ⟨_, _, rfl⟩
    · exact .inr rfl

/-- Rounding keeps the sign. -/
theorem ofFraction_cases (negative : Bool) (num den : Nat) :
    (∃ e f, ofFraction negative num den = .finite negative e f) ∨
      ofFraction negative num den = .infinite negative := by
  rw [ofFraction_eq]
  split
  · exact ofSignificand_cases negative _ _
  · exact ofSignificand_cases negative _ _

theorem notNegative_ofFraction (num den : Nat) : NotNegative (ofFraction false num den) := by
  rcases ofFraction_cases false num den with ⟨e, f, h⟩ | h
  · rw [h]
    exact notNegative_of_sign
  · rw [h]
    exact notNegative_infinite.mpr rfl

theorem notNegative_zero (negative : Bool) : NotNegative (zero negative) := by
  cases negative <;> decide

/-- Nothing is rounded to zero of the same sign. -/
theorem ofFraction_zero (negative : Bool) (den : Nat) :
    ofFraction negative 0 den = zero negative := by
  have hround (k : Nat) : roundQuotient 0 k = 0 := by
    unfold roundQuotient
    simp
  have hscale : quotientScale 0 den = 0 := by
    rw [quotientScale, Nat.zero_div, Nat.log2_zero]
  rw [ofFraction_eq, Nat.zero_mul, significandOf, hround, hscale, if_neg (by decide)]
  rfl

theorem notNegative_half {x : Binary64} (h : x.NotNegative) : x.half.NotNegative := by
  cases x with
  | nan => exact h
  | infinite negative => exact h
  | finite negative e f =>
      cases negative with
      | false => exact notNegative_ofFraction _ _
      | true =>
          -- Only a negative zero is not below zero, and half of it is one again.
          have hle : 0 ≤ -(units e f : Int) := notNegative_finite.mp h
          have hzero : units e f = 0 := by omega
          rw [half, hzero, ofFraction_zero]
          exact notNegative_zero true

theorem lt_asymm {x y : Binary64} (h : x.lt y = true) : y.lt x = false := by
  cases x with
  | nan => cases h
  | infinite a =>
      cases y with
      | nan => cases h
      | infinite b => cases a <;> cases b <;> first | rfl | cases h
      | finite b eb fb =>
          obtain rfl : a = true := h
          rfl
  | finite a ea fa =>
      cases y with
      | nan => cases h
      | infinite b => simpa [lt] using h
      | finite b eb fb =>
          rw [lt_finite, decide_eq_true_eq] at h
          rw [lt_finite, decide_eq_false_iff_not]
          omega

theorem notNegative_ofUnits {u : Int} (h : 0 ≤ u) : NotNegative (ofUnits u) := by
  rw [ofUnits, decide_eq_false (not_lt.mpr h)]
  exact notNegative_ofFraction _ _

theorem sub_finite (a b : Bool) (ea eb : Fin 2047) (fa fb : BitVec 52) :
    (finite a ea fa).sub (finite b eb fb) =
      if signedUnits a ea fa - signedUnits b eb fb = 0 then zero (a && !b)
      else ofUnits (signedUnits a ea fa - signedUnits b eb fb) := by
  have hneg : signedUnits (!b) eb fb = -signedUnits b eb fb := by
    cases b <;> simp [signedUnits]
  rw [sub_eq_add_neg, ← hneg]
  rfl

/-- The difference of numbers in order is not negative. -/
theorem notNegative_sub {x y : Binary64} (h : x.lt y = false) : (x.sub y).NotNegative := by
  cases x with
  | nan => exact notNegative_nan
  | infinite a =>
      cases y with
      | nan => exact notNegative_nan
      | infinite b => cases a <;> cases b <;> first | decide | cases h
      | finite b eb fb =>
          obtain rfl : a = false := h
          exact notNegative_infinite.mpr rfl
  | finite a ea fa =>
      cases y with
      | nan => exact notNegative_nan
      | infinite b =>
          obtain rfl : b = true := by simpa [lt] using h
          exact notNegative_infinite.mpr rfl
      | finite b eb fb =>
          rw [lt_finite, decide_eq_false_iff_not] at h
          rw [sub_finite]
          split
          · exact notNegative_zero _
          · exact notNegative_ofUnits (by omega)

/-! ## Numbers above zero -/

theorem isPositive_finite {negative : Bool} {e : Fin 2047} {f : BitVec 52} :
    (finite negative e f).isPositive = decide (0 < signedUnits negative e f) := by
  rw [isPositive, zero, lt_finite]
  rfl

/-- What is rounded with a minus sign is not above zero. -/
theorem not_isPositive_ofFraction (num den : Nat) :
    (ofFraction true num den).isPositive = false := by
  rcases ofFraction_cases true num den with ⟨e, f, h⟩ | h
  · have hunits : signedUnits true e f = -(units e f : Int) := rfl
    rw [h, isPositive_finite, hunits, decide_eq_false_iff_not]
    omega
  · rw [h]
    rfl

theorem not_isPositive_ofRat {q : Rat} (h : q ≤ 0) : (ofRat q).isPositive = false := by
  by_cases hneg : q < 0
  · rw [ofRat, decide_eq_true hneg]
    exact not_isPositive_ofFraction _ _
  · obtain rfl : q = 0 := Rat.le_antisymm h (Rat.not_lt.mp hneg)
    decide +kernel

/-- More than half is rounded up. -/
theorem roundQuotient_pos {num den : Nat} (hden : 0 < den) (h : den < 2 * num) :
    0 < roundQuotient num den := by
  unfold roundQuotient
  dsimp only
  by_cases hlarge : den ≤ num
  · have hquotient : 0 < num / den := Nat.div_pos hlarge hden
    split
    · exact hquotient
    · split
      · exact Nat.succ_pos _
      · split <;> omega
  · have hmod : num % den = num := Nat.mod_eq_of_lt (Nat.not_le.mp hlarge)
    rw [hmod, if_neg (by omega), if_pos h]
    exact Nat.succ_pos _

theorem isPositive_ofSignificand {significand : Nat} (h : 0 < significand) (scale : Nat) :
    (ofSignificand false significand scale).isPositive = true := by
  unfold ofSignificand
  split
  next hsmall =>
    have hvalue : (BitVec.ofNat 52 significand).toNat = significand :=
      Nat.mod_eq_of_lt (leadingBit_eq ▸ hsmall)
    rw [isPositive_finite, decide_eq_true_eq, signedUnits, units]
    simp [hvalue, h]
  next =>
    split
    next hfits =>
      have hpos : 0 < units ⟨scale + 1, hfits⟩ (.ofNat 52 significand) := by
        rw [units, if_neg (Nat.succ_ne_zero scale), Nat.shiftLeft_eq]
        exact Nat.mul_pos (Nat.add_pos_left (by decide) _) (Nat.two_pow_pos _)
      rw [isPositive_finite, decide_eq_true_eq]
      exact Int.natCast_pos.mpr hpos
    next => rfl

/-- A quotient of more than half a unit has a significand. -/
theorem significandOf_pos {u den : Nat} (hden : 0 < den) (h : den < 2 * u) :
    0 < significandOf u den := by
  apply roundQuotient_pos (Nat.mul_pos hden (Nat.two_pow_pos _))
  by_cases hscale : quotientScale u den = 0
  · rw [hscale, Nat.pow_zero, Nat.mul_one]
    exact h
  · have hquotient : u / den ≠ 0 := by
      intro hzero
      rw [quotientScale, hzero, Nat.log2_zero] at hscale
      exact hscale rfl
    have hpower : 2 ^ quotientScale u den ≤ u / den :=
      (Nat.pow_le_pow_right Nat.two_pos (by unfold quotientScale; omega)).trans
        (Nat.log2_self_le hquotient)
    have hscaled : den * 2 ^ quotientScale u den ≤ u :=
      (Nat.mul_le_mul_left den hpower).trans (Nat.mul_div_le u den)
    omega

theorem isPositive_ofFraction {num den : Nat} (hden : 0 < den)
    (h : den < 2 * (num * unitsPerOne)) :
    (ofFraction false num den).isPositive = true := by
  rw [ofFraction_eq]
  split
  · exact isPositive_ofSignificand (by decide) _
  · exact isPositive_ofSignificand (significandOf_pos hden h) _

/-- One part of `n` is above zero unless the parts are too small for a number. -/
theorem isPositive_part {n : Nat} (hpos : 0 < n) (h : n < 2 * unitsPerOne) :
    (ofRat (mkRat 1 n)).isPositive = true := by
  have hpart : mkRat 1 n = ⟨1, n, hpos.ne', Nat.coprime_one_left n⟩ := (Rat.mk_eq_mkRat ..).symm
  have hsign : ¬ mkRat 1 n < 0 := by
    rw [Rat.not_lt, Rat.le_iff, hpart]
    simp
  rw [ofRat, decide_eq_false hsign, hpart]
  apply isPositive_ofFraction hpos
  rw [Int.natAbs_one, Nat.one_mul]
  exact h

end Binary64

namespace Number

open Binary64

/-! ## Numbers that are read -/

theorem notNegative_ofDecimal (digits width : Nat) (exponent : Int) :
    NotNegative (ofDecimal false digits width exponent) := by
  unfold ofDecimal
  split
  · exact notNegative_zero false
  split
  · exact notNegative_infinite.mpr rfl
  split
  · exact notNegative_zero false
  split
  · exact notNegative_ofFraction _ _
  · exact notNegative_ofFraction _ _

theorem notNegative_readMagnitude? {s : List Char} {x : Binary64}
    (h : readMagnitude? false s = some x) : x.NotNegative := by
  unfold readMagnitude? at h
  dsimp only at h
  split at h
  · cases h
    exact notNegative_infinite.mpr rfl
  split at h
  · cases h
    exact notNegative_nan
  split at h
  · cases h
  · obtain ⟨e, -, rfl⟩ := Option.map_eq_some_iff.mp h
    exact notNegative_ofDecimal _ _ _

/-- A numeral without a minus sign is read as a number that is not negative. -/
theorem notNegative_of_numeral {s : List Char} (hs : Numeral s) {x : Binary64}
    (h : readBinary64? (String.ofList s) = some x) : x.NotNegative := by
  rw [readBinary64?_of_signs hs.isNumeralSign, takeSign_numeral hs] at h
  exact notNegative_readMagnitude? h

theorem numeral_showInt {i : Int} (h : 0 ≤ i) : ∃ s, Numeral s ∧ showInt i = String.ofList s := by
  refine ⟨decimalDigits i.toNat, (digits_decimalDigits _).numeral (decimalDigits_ne_nil _), ?_⟩
  rw [← showInt_toList h, String.ofList_toList]

theorem toInt?_finite (negative : Bool) (e : Fin 2047) (f : BitVec 52) :
    (finite negative e f).toInt? =
      if signedUnits negative e f % unitsPerOne = 0 then
        some (signedUnits negative e f / unitsPerOne)
      else none := rfl

theorem nonneg_of_toInt? {x : Binary64} (hx : x.NotNegative) {i : Int} (h : x.toInt? = some i) :
    0 ≤ i := by
  cases x with
  | nan => cases h
  | infinite negative => cases h
  | finite negative e f =>
      have hunits := notNegative_finite.mp hx
      rw [toInt?_finite] at h
      split at h
      · cases h
        exact Int.ediv_nonneg hunits (Int.natCast_nonneg _)
      · cases h

/-- The text of a number that is not negative is read as such a number. -/
theorem notNegative_formatNumber {x y : Binary64} (hx : x.NotNegative)
    (h : readBinary64? (Scoring.formatNumber x) = some y) : y.NotNegative := by
  unfold Scoring.formatNumber at h
  split at h
  next i hi =>
    obtain ⟨s, hs, htext⟩ := numeral_showInt (nonneg_of_toInt? hx hi)
    rw [htext] at h
    exact notNegative_of_numeral hs h
  next hi =>
    cases x with
    | nan =>
        have hread : readBinary64? (Scoring.numberLayout.render .nan) = some .nan := by decide
        obtain rfl := Option.some.inj (hread.symm.trans h)
        exact notNegative_nan
    | infinite negative =>
        obtain rfl := notNegative_infinite.mp hx
        have hread : readBinary64? (Scoring.numberLayout.render (.infinite false)) =
            some (.infinite false) := by decide
        obtain rfl := Option.some.inj (hread.symm.trans h)
        exact hx
    | finite negative e f =>
        -- A negative zero is whole, so that its text has no sign.
        have hsign : negative = false := by
          cases negative with
          | false => rfl
          | true =>
              have hle : 0 ≤ -(units e f : Int) := notNegative_finite.mp hx
              have hzero : signedUnits true e f = 0 := by
                show -(units e f : Int) = 0
                omega
              rw [toInt?_finite, hzero, if_pos (Int.zero_emod _)] at hi
              cases hi
        subst hsign
        obtain ⟨s, hs, hrender⟩ := exists_numeral_render Scoring.numberLayout e f
        rw [hrender] at h
        exact notNegative_of_numeral hs h

end Number

end QuestionBank
