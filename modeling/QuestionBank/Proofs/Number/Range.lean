import QuestionBank.Conversion.Answers
import QuestionBank.Proofs.Traversal
import Mathlib.Algebra.Order.Ring.Nat

/-!
# The range of numbers

There is a greatest finite number, and it is whole. The nearest whole number of a finite
number is not above it, and a fraction that is not above it is near a finite number. So
scores, read or computed, are not above it either.
-/

namespace QuestionBank

namespace Binary64

/-- The power of two that is the number of units in one. -/
@[irreducible]
def unitScale : Nat := 1074

/-- The power of two that is the distance of the greatest finite numbers. -/
@[irreducible]
def topScale : Nat := 971

theorem top_add_unit : topScale + unitScale = 2045 := by
  rw [topScale, unitScale]

/-- The greatest finite number. -/
def greatest : Nat := (2 ^ 53 - 1) * 2 ^ topScale

theorem leadingBit_eq : leadingBit = 2 ^ 52 := by decide

theorem unitsPerOne_eq : unitsPerOne = 2 ^ unitScale := by
  rw [unitsPerOne, Nat.one_shiftLeft, unitScale]

theorem unitsPerOne_pos : 0 < unitsPerOne := unitsPerOne_eq ▸ Nat.two_pow_pos unitScale

theorem greatest_mul_unitsPerOne :
    greatest * unitsPerOne = (2 ^ 53 - 1) * 2 ^ (topScale + unitScale) := by
  rw [greatest, unitsPerOne_eq, Nat.mul_assoc, ← Nat.pow_add]

theorem greatest_le : greatest ≤ 2 ^ (53 + topScale) := by
  rw [greatest, Nat.pow_add]
  exact Nat.mul_le_mul_right _ (by decide)

theorem greatest_pos : 0 < greatest := by
  rw [greatest]
  exact Nat.mul_pos (by decide) (Nat.two_pow_pos topScale)

theorem units_le (e : Fin 2047) (f : BitVec 52) : units e f ≤ greatest * unitsPerOne := by
  have hf : f.toNat < 2 ^ 52 := f.isLt
  have htop : e.val - 1 ≤ topScale + unitScale := by
    rw [top_add_unit]
    omega
  have hstep : 2 ^ (e.val - 1) ≤ 2 ^ (topScale + unitScale) :=
    Nat.pow_le_pow_right Nat.two_pos htop
  rw [greatest_mul_unitsPerOne]
  unfold units
  split
  · exact (Nat.le_sub_one_of_lt (by omega)).trans (Nat.le_mul_of_pos_right _ (Nat.two_pow_pos _))
  · rw [Nat.shiftLeft_eq, leadingBit_eq]
    exact Nat.mul_le_mul (by omega) hstep

/-! ## Rounding -/

/-- Rounding does not go beyond a whole number. -/
theorem roundQuotient_le {num den k : Nat} (hden : 0 < den) (h : num ≤ k * den) :
    roundQuotient num den ≤ k := by
  have hdiv : num / den ≤ k := (Nat.div_le_div_right h).trans (Nat.mul_div_cancel _ hden).le
  by_cases hlt : num / den < k
  · unfold roundQuotient
    dsimp only
    split
    · omega
    · split
      · omega
      · split <;> omega
  · have hk : num / den = k := by omega
    have hsplit := Nat.div_add_mod num den
    have hmod : num % den = 0 := by
      rw [hk, Nat.mul_comm] at hsplit
      omega
    rw [roundQuotient, hmod, hk, if_pos (by omega)]

/-- The nearest whole number of a number is not above the greatest finite number. -/
theorem natAbs_le_of_round {x : Binary64} {i : Int} (h : x.round = .ok i) :
    i.natAbs ≤ greatest := by
  cases x with
  | nan => cases h
  | infinite negative => cases h
  | finite negative e f =>
      have hi : i.natAbs = roundQuotient (units e f) unitsPerOne := by
        rw [round] at h
        cases h
        cases negative <;> simp
      rw [hi]
      exact roundQuotient_le unitsPerOne_pos (units_le e f)

/-- A significand in its place, or the carry of one, is a finite number. -/
theorem ofSignificand_finite (negative : Bool) {significand scale : Nat}
    (hsignificand : significand < 2 * leadingBit) (hscale : scale ≤ topScale + unitScale) :
    ∃ e f, ofSignificand negative significand scale = .finite negative e f ∧
      units e f ≤ significand * 2 ^ scale := by
  have htop := top_add_unit
  have hbit := leadingBit_eq
  unfold ofSignificand
  split
  next hsmall =>
    refine ⟨0, .ofNat 52 significand, rfl, ?_⟩
    have hvalue : (BitVec.ofNat 52 significand).toNat = significand :=
      Nat.mod_eq_of_lt (hbit ▸ hsmall)
    rw [units, if_pos (show ((0 : Fin 2047) : Nat) = 0 from rfl), hvalue]
    exact Nat.le_mul_of_pos_right _ (Nat.two_pow_pos scale)
  next hlarge =>
    have hfits : scale + 1 < 2047 := by omega
    rw [dif_pos hfits]
    refine ⟨⟨scale + 1, hfits⟩, .ofNat 52 significand, rfl, ?_⟩
    have hvalue : (BitVec.ofNat 52 significand).toNat = significand - leadingBit := by
      rw [BitVec.toNat_ofNat, Nat.mod_eq_sub_mod (by omega), Nat.mod_eq_of_lt (by omega), hbit]
    rw [units, if_neg (Nat.succ_ne_zero scale), hvalue, Nat.shiftLeft_eq, Nat.add_sub_cancel]
    exact Nat.mul_le_mul_right _ (by omega)

/-- The scale of a quotient leaves at most 53 bits for its significand. -/
theorem lt_scaled {units den scale : Nat} (hden : 0 < den)
    (hscale : scale = Nat.log2 (units / den) + 1 - 53) : units < 2 ^ 53 * (den * 2 ^ scale) := by
  have hpow : 2 ^ (Nat.log2 (units / den) + 1) ≤ 2 ^ (53 + scale) :=
    Nat.pow_le_pow_right Nat.two_pos (by omega)
  have hquotient : units / den < 2 ^ (53 + scale) := Nat.lt_log2_self.trans_le hpow
  calc units < 2 ^ (53 + scale) * den := (Nat.div_lt_iff_lt_mul hden).mp hquotient
    _ = 2 ^ 53 * (den * 2 ^ scale) := by rw [Nat.pow_add, Nat.mul_assoc, Nat.mul_comm den]

theorem scale_le {units den scale k : Nat} (hden : 0 < den)
    (hscale : scale = Nat.log2 (units / den) + 1 - 53) (h : units < 2 ^ (53 + k) * den) :
    scale ≤ k := by
  have hquotient : units / den < 2 ^ (53 + k) := (Nat.div_lt_iff_lt_mul hden).mpr h
  by_cases hzero : units / den = 0
  · rw [hzero, Nat.log2_zero] at hscale
    omega
  · have hlog := (Nat.log2_lt hzero).mpr hquotient
    omega

/-- The scale at which the significand of a quotient has at most 53 bits. -/
def quotientScale (units den : Nat) : Nat := Nat.log2 (units / den) + 1 - 53

/-- The significand of a quotient at its scale. -/
def significandOf (units den : Nat) : Nat :=
  roundQuotient units (den * 2 ^ quotientScale units den)

theorem ofFraction_eq (negative : Bool) (num den : Nat) :
    ofFraction negative num den =
      if significandOf (num * unitsPerOne) den = 2 * leadingBit then
        ofSignificand negative leadingBit (quotientScale (num * unitsPerOne) den + 1)
      else ofSignificand negative (significandOf (num * unitsPerOne) den)
        (quotientScale (num * unitsPerOne) den) := by
  rw [significandOf, ← Nat.shiftLeft_eq]
  rfl

section Quotient

variable {u den : Nat} (hden : 0 < den)

include hden

theorem significandOf_le : significandOf u den ≤ 2 ^ 53 :=
  roundQuotient_le (Nat.mul_pos hden (Nat.two_pow_pos _)) (lt_scaled hden rfl).le

/-- A quotient that is at most the greatest significand at a scale has no higher scale. -/
theorem quotientScale_le {top : Nat} (h : u ≤ (2 ^ 53 - 1) * (den * 2 ^ top)) :
    quotientScale u den ≤ top := by
  refine scale_le hden rfl (h.trans_lt ?_)
  rw [Nat.pow_add, Nat.mul_assoc, Nat.mul_comm (2 ^ top)]
  exact Nat.mul_lt_mul_of_pos_right (by decide) (Nat.mul_pos hden (Nat.two_pow_pos top))

/-- A carry moves the scale up by one, which the greatest scale does not leave room for. -/
theorem quotientScale_lt_of_carry {top : Nat} (h : u ≤ (2 ^ 53 - 1) * (den * 2 ^ top))
    (hcarry : significandOf u den = 2 ^ 53) : quotientScale u den < top := by
  have hle := quotientScale_le hden h
  by_contra hmax
  have htop : quotientScale u den = top := by omega
  rw [← htop] at h
  have hless : significandOf u den ≤ 2 ^ 53 - 1 :=
    roundQuotient_le (Nat.mul_pos hden (Nat.two_pow_pos _)) h
  omega

/-- The significand of a quotient that is at most one is at most one in its place. -/
theorem significandOf_mul_le (h : u ≤ den * 2 ^ unitScale) :
    significandOf u den * 2 ^ quotientScale u den ≤ 2 ^ unitScale := by
  have hscale : quotientScale u den ≤ unitScale := by
    refine scale_le hden rfl (h.trans_lt ?_)
    rw [Nat.mul_comm]
    exact Nat.mul_lt_mul_of_pos_right (Nat.pow_lt_pow_right (by decide) (by omega)) hden
  have hpower : 2 ^ (unitScale - quotientScale u den) * 2 ^ quotientScale u den =
      2 ^ unitScale := by
    rw [← Nat.pow_add, Nat.sub_add_cancel hscale]
  have hsmall : significandOf u den ≤ 2 ^ (unitScale - quotientScale u den) := by
    refine roundQuotient_le (Nat.mul_pos hden (Nat.two_pow_pos _)) (h.trans (Nat.le_of_eq ?_))
    rw [← hpower, Nat.mul_left_comm]
  rw [← hpower]
  exact Nat.mul_le_mul_right _ hsmall

end Quotient

/-- **A fraction in the range is near a finite number.** If the fraction is at most one, so
is the number. -/
theorem ofFraction_finite (negative : Bool) {num den : Nat} (hden : 0 < den)
    (h : num ≤ greatest * den) :
    ∃ e f, ofFraction negative num den = .finite negative e f ∧
      (num ≤ den → units e f ≤ unitsPerOne) := by
  have hbit := leadingBit_eq
  have hrange : num * unitsPerOne ≤ (2 ^ 53 - 1) * (den * 2 ^ (topScale + unitScale)) :=
    calc num * unitsPerOne ≤ greatest * den * unitsPerOne := Nat.mul_le_mul_right _ h
      _ = (2 ^ 53 - 1) * (den * 2 ^ (topScale + unitScale)) := by
        rw [Nat.mul_right_comm, greatest_mul_unitsPerOne, Nat.mul_assoc, Nat.mul_comm den]
  have hone (hle : num ≤ den) : significandOf (num * unitsPerOne) den *
      2 ^ quotientScale (num * unitsPerOne) den ≤ unitsPerOne := by
    rw [unitsPerOne_eq]
    exact significandOf_mul_le hden (Nat.mul_le_mul_right _ hle)
  have hbits := significandOf_le (u := num * unitsPerOne) hden
  have hscale := quotientScale_le hden hrange
  have hcarry := quotientScale_lt_of_carry hden hrange
  rw [ofFraction_eq]
  generalize significandOf (num * unitsPerOne) den = significand at *
  generalize quotientScale (num * unitsPerOne) den = scale at *
  split
  next hfull =>
    obtain ⟨e, f, he, hunits⟩ := ofSignificand_finite negative
      (show leadingBit < 2 * leadingBit by omega) (hcarry (by omega))
    have hsame : leadingBit * 2 ^ (scale + 1) = significand * 2 ^ scale := by
      rw [hfull, Nat.pow_succ, Nat.mul_comm (2 ^ scale), ← Nat.mul_assoc, Nat.mul_comm leadingBit]
    exact ⟨e, f, he, fun hle => (hsame ▸ hunits).trans (hone hle)⟩
  next hpartial =>
    obtain ⟨e, f, he, hunits⟩ := ofSignificand_finite negative
      (show significand < 2 * leadingBit by omega) hscale
    exact ⟨e, f, he, fun hle => hunits.trans (hone hle)⟩

end Binary64

/-! ## Scores -/

namespace Scoring

/-- A score in the range of floating-point numbers. -/
def InRange (score : Int) : Prop := score.natAbs ≤ Binary64.greatest

theorem InRange.le {score : Int} (h : InRange score) : score ≤ Binary64.greatest := by
  unfold InRange at h
  omega

theorem inRange_zero : InRange 0 := Nat.zero_le _

theorem inRange_max {s t : Int} (hs : InRange s) (ht : InRange t) : InRange (max s t) := by
  rcases Int.le_total s t with hle | hle
  · rwa [Int.max_eq_right hle]
  · rwa [Int.max_eq_left hle]

end Scoring

open QuestionBank.Scoring QuestionBank.Text

theorem inRange_of_scoreOf? {raw : String} {i : Int} (h : scoreOf? raw = .ok (some i)) :
    InRange i := by
  unfold scoreOf? at h
  split at h
  · cases h
  next x hx =>
    split at h
    next i hi =>
      cases h
      exact Binary64.natAbs_le_of_round hi
    · cases h
    · cases h

theorem inRange_of_scoreOf {node : Document.Node} {i : Int} (h : scoreOf node = .ok i) :
    InRange i := by
  unfold scoreOf at h
  split at h
  · cases h
  next i hi =>
    cases h
    exact inRange_of_scoreOf? hi
  next =>
    obtain ⟨score, hadd, rfl⟩ := Traversal.map_eq_ok_iff.mp h
    cases score with
    | none => exact inRange_zero
    | some i => exact inRange_of_scoreOf? hadd

theorem round_eq_ok_of_roundedShare {fraction x : Binary64} {i : Int}
    (h : roundedShare fraction x = .ok i) : (fraction.mul x).round = .ok i := by
  unfold roundedShare at h
  split at h
  · cases h
  · split at h
    next j hj =>
      rw [hj]
      exact congrArg _ (Except.ok.inj h)
    next => cases h

theorem inRange_of_sharedScore {fraction : Binary64} {best i : Int}
    (h : sharedScore fraction best = .ok i) : InRange i :=
  Binary64.natAbs_le_of_round (round_eq_ok_of_roundedShare h)

end QuestionBank
