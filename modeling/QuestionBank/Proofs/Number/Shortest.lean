import Mathlib.Algebra.Order.Field.Power
import Mathlib.Data.Rat.Cast.Order
import Mathlib.Tactic.FieldSimp
import Mathlib.Tactic.Linarith
import Mathlib.Tactic.NormNum
import Mathlib.Tactic.Positivity
import Mathlib.Tactic.Ring
import QuestionBank.Proofs.Number.Decimal
import QuestionBank.Proofs.Number.Nearest

/-!
# The shortest form is read back

The exponent of the first digit of a number is estimated from its bits and set right by one
comparison. With seventeen digits from there on, the nearest decimal number is so near that it
is rounded to the number again. So a shortest form is always found, and it is read back as the
number, also when zeros at its end are left out.
-/

namespace QuestionBank.Number

open QuestionBank.Binary64

/-! ## Powers of ten and of two -/

/-- Powers are compared by powers of theirs. -/
theorem zpow_le_zpow_of_powers {a c : ℚ} (ha : 1 ≤ a) (hc : 0 < c) {p q : ℕ} (hq : q ≠ 0)
    {m b : ℤ} (hm : q * m ≤ p * b) (h : (a ^ p) ^ b ≤ (c ^ q) ^ b) : a ^ m ≤ c ^ b := by
  have ha' : 0 < a := one_pos.trans_le ha
  rw [← pow_le_pow_iff_left₀ (zpow_pos ha' m).le (zpow_pos hc b).le hq]
  calc (a ^ m) ^ q = a ^ ((q : ℤ) * m) := by rw [← zpow_natCast, ← zpow_mul, mul_comm]
    _ ≤ a ^ ((p : ℤ) * b) := zpow_le_zpow_right₀ ha hm
    _ = (a ^ p) ^ b := by rw [zpow_mul, zpow_natCast]
    _ ≤ (c ^ q) ^ b := h
    _ = (c ^ b) ^ q := by rw [← zpow_natCast, ← zpow_natCast, ← zpow_mul, ← zpow_mul, mul_comm]

/-- A power of ten is not above a power of two if its exponent is not above that times the
logarithm of two, which is between `59 / 196` and `28 / 93`. -/
theorem ten_zpow_le_two_zpow {m b : ℤ}
    (h : 0 ≤ b ∧ 196 * m ≤ 59 * b ∨ b ≤ 0 ∧ 93 * m ≤ 28 * b) : (10 : ℚ) ^ m ≤ 2 ^ b := by
  rcases h with ⟨hb, hm⟩ | ⟨hb, hm⟩
  · refine zpow_le_zpow_of_powers (p := 59) (q := 196) (by norm_num) two_pos (by decide) hm ?_
    exact zpow_le_zpow_left₀ hb (by positivity) (by norm_num)
  · refine zpow_le_zpow_of_powers (p := 28) (q := 93) (by norm_num) two_pos (by decide) hm ?_
    obtain ⟨k, rfl⟩ : ∃ k, b = -k := ⟨-b, (neg_neg b).symm⟩
    rw [zpow_neg, zpow_neg]
    apply inv_anti₀ (by positivity)
    exact zpow_le_zpow_left₀ (by omega) (by positivity) (by norm_num)

theorem two_zpow_le_ten_zpow {m b : ℤ}
    (h : 0 ≤ b ∧ 28 * b ≤ 93 * m ∨ b ≤ 0 ∧ 59 * b ≤ 196 * m) : (2 : ℚ) ^ b ≤ 10 ^ m := by
  have hinverse : (10 : ℚ) ^ (-m) ≤ 2 ^ (-b) := by
    apply ten_zpow_le_two_zpow
    omega
  rw [zpow_neg, zpow_neg] at hinverse
  exact (inv_le_inv₀ (by positivity) (by positivity)).mp hinverse

/-! ## Fractions times powers of ten -/

variable {num den : ℕ}

theorem scaled_pos (num : ℕ) (hden : 0 < den) (shift : ℤ) : 0 < (scaled num den shift).2 := by
  unfold scaled powerOfTen
  dsimp only
  split
  · exact Nat.mul_pos hden (Nat.pow_pos (by decide))
  · exact hden

/-- The quotient after scaling. -/
theorem scaled_eq (num : ℕ) (hden : 0 < den) (shift : ℤ) :
    ((scaled num den shift).1 : ℚ) / (scaled num den shift).2 = num / den * 10 ^ shift := by
  unfold scaled powerOfTen
  dsimp only
  split
  next hneg =>
    have habs : shift = -(shift.natAbs : ℤ) := by omega
    conv_rhs => rw [habs]
    rw [zpow_neg, zpow_natCast]
    push_cast [Nat.pow_eq]
    field_simp
  next hpos =>
    have habs : shift = (shift.natAbs : ℤ) := by omega
    conv_rhs => rw [habs]
    rw [zpow_natCast]
    push_cast [Nat.pow_eq]
    ring

/-- A fraction by its quotient on the grid of an exponent. -/
theorem eq_scaled_mul (num : ℕ) (hden : 0 < den) (exponent : ℤ) :
    (num / den : ℚ) =
      (scaled num den (-exponent)).1 / (scaled num den (-exponent)).2 * 10 ^ exponent := by
  rw [scaled_eq num hden, mul_assoc, ← zpow_add₀ (by norm_num), neg_add_cancel, zpow_zero,
    mul_one]

/-- A rounded quotient is at most one half away. -/
theorem abs_roundQuotient_sub_le (num : ℕ) (hden : 0 < den) :
    |(roundQuotient num den : ℚ) - num / den| ≤ 1 / 2 := by
  have hden' : (0 : ℚ) < den := by exact_mod_cast hden
  obtain ⟨hhigh, hlow⟩ := near_roundQuotient num hden
  have hquotient : (num / den : ℚ) * den = num := div_mul_cancel₀ _ hden'.ne'
  have hhigh' : 2 * (num : ℚ) ≤ 2 * (roundQuotient num den * den) + den := by
    exact_mod_cast hhigh
  have hlow' : 2 * ((roundQuotient num den : ℚ) * den) ≤ 2 * num + den := by
    exact_mod_cast hlow
  rw [abs_le]
  constructor <;> nlinarith

/-! ## The exponent of the first digit -/

/-- The bits of a fraction bound it. -/
theorem between_powers_of_two (hnum : 0 < num) (hden : 0 < den) :
    (2 : ℚ) ^ ((Nat.log2 num : ℤ) - Nat.log2 den - 1) ≤ num / den ∧
      (num / den : ℚ) < 2 ^ ((Nat.log2 num : ℤ) - Nat.log2 den + 1) := by
  have hnumlow : (2 : ℚ) ^ (Nat.log2 num : ℤ) ≤ num := by
    exact_mod_cast Nat.log2_self_le hnum.ne'
  have hnumhigh : (num : ℚ) < 2 ^ ((Nat.log2 num + 1 : ℕ) : ℤ) := by
    exact_mod_cast Nat.lt_log2_self
  have hdenlow : (2 : ℚ) ^ (Nat.log2 den : ℤ) ≤ den := by
    exact_mod_cast Nat.log2_self_le hden.ne'
  have hdenhigh : (den : ℚ) ≤ 2 ^ ((Nat.log2 den + 1 : ℕ) : ℤ) := by
    exact_mod_cast Nat.lt_log2_self.le
  have hden' : (0 : ℚ) < den := by exact_mod_cast hden
  constructor
  · rw [le_div_iff₀ hden']
    calc (2 : ℚ) ^ ((Nat.log2 num : ℤ) - Nat.log2 den - 1) * den
        ≤ 2 ^ ((Nat.log2 num : ℤ) - Nat.log2 den - 1) * 2 ^ ((Nat.log2 den + 1 : ℕ) : ℤ) := by
          gcongr
      _ = 2 ^ (Nat.log2 num : ℤ) := by
          rw [← zpow_add₀ two_ne_zero]
          congr 1
          push_cast
          ring
      _ ≤ num := hnumlow
  · rw [div_lt_iff₀ hden']
    calc (num : ℚ) < 2 ^ ((Nat.log2 num + 1 : ℕ) : ℤ) := hnumhigh
      _ = 2 ^ ((Nat.log2 num : ℤ) - Nat.log2 den + 1) * 2 ^ (Nat.log2 den : ℤ) := by
          rw [← zpow_add₀ two_ne_zero]
          congr 1
          push_cast
          ring
      _ ≤ 2 ^ ((Nat.log2 num : ℤ) - Nat.log2 den + 1) * den := by gcongr

/-- The bits of a fraction are few enough for the estimate of its leading exponent. -/
def FewBits (num den : ℕ) : Prop :=
  -1074 ≤ (Nat.log2 num : ℤ) - Nat.log2 den ∧ (Nat.log2 num : ℤ) - Nat.log2 den ≤ 1023

/-- **The leading exponent is that of the first digit.** -/
theorem leadingExponent_spec (hnum : 0 < num) (hden : 0 < den) (hbits : FewBits num den) :
    (10 : ℚ) ^ leadingExponent num den ≤ num / den ∧
      (num / den : ℚ) < 10 ^ (leadingExponent num den + 1) := by
  obtain ⟨hfrom, hto⟩ := hbits
  obtain ⟨hlow, hhigh⟩ := between_powers_of_two hnum hden
  unfold leadingExponent
  dsimp only
  generalize (Nat.log2 num : ℤ) - Nat.log2 den = bits at *
  obtain ⟨guess, hguess⟩ : ∃ guess, guess = bits * 30103 / 100000 := ⟨_, rfl⟩
  rw [← hguess]
  have hpos := scaled_pos num hden (-guess)
  have hvalue := eq_scaled_mul num hden guess
  generalize scaled num den (-guess) = quotient at *
  obtain ⟨n, d⟩ := quotient
  dsimp only at hpos hvalue ⊢
  have hd : (0 : ℚ) < d := by exact_mod_cast hpos
  have hten : (0 : ℚ) < 10 ^ guess := by positivity
  -- the guess is off by one at most
  have hbelow : (10 : ℚ) ^ (guess - 1) ≤ num / den := by
    refine (ten_zpow_le_two_zpow ?_).trans hlow
    omega
  have habove : (num / den : ℚ) < 10 ^ (guess + 1 + 1) := by
    refine hhigh.trans_le (two_zpow_le_ten_zpow ?_)
    omega
  split
  next hless =>
    have hquotient : (n : ℚ) / d < 1 := by
      rw [div_lt_one hd]
      exact_mod_cast hless
    refine ⟨hbelow, ?_⟩
    rw [sub_add_cancel, hvalue]
    nlinarith
  next hmore =>
    have hquotient : 1 ≤ (n : ℚ) / d := by
      rw [one_le_div hd]
      exact_mod_cast not_lt.mp hmore
    split
    next hless =>
      have hquotient' : (n : ℚ) / d < 10 := by
        rw [div_lt_iff₀ hd]
        exact_mod_cast hless
      rw [hvalue, zpow_add_one₀ (by norm_num)]
      constructor <;> nlinarith
    next hmore' =>
      have hquotient' : 10 ≤ (n : ℚ) / d := by
        rw [le_div_iff₀ hd]
        exact_mod_cast not_lt.mp hmore'
      refine ⟨?_, habove⟩
      rw [hvalue, zpow_add_one₀ (by norm_num)]
      nlinarith

/-! ## Seventeen digits -/

theorem ofDecimal_of_above (negative : Bool) {digits width : ℕ} {exponent : ℤ}
    (hdigits : digits ≠ 0) (h : 310 < exponent + width) :
    ofDecimal negative digits width exponent = .infinite negative := by
  rw [ofDecimal, if_neg hdigits, if_pos h]

theorem ofDecimal_of_below (negative : Bool) {digits width : ℕ} {exponent : ℤ}
    (hdigits : digits ≠ 0) (h : exponent + width < -330) :
    ofDecimal negative digits width exponent = zero negative := by
  rw [ofDecimal, if_neg hdigits, if_neg (by omega), if_pos h]

/-- Magnitudes are rounded alike, whatever their sign. -/
theorem ofDecimal_signed (negative : Bool) {digits width : ℕ} {exponent : ℤ} {e : Fin 2047}
    {f : BitVec 52} (h : ofDecimal false digits width exponent = .finite false e f) :
    ofDecimal negative digits width exponent = .finite negative e f := by
  unfold ofDecimal at h ⊢
  split_ifs at h ⊢
  · cases h
    rfl
  · cases h
    rfl
  · exact ofFraction_signed negative h
  · exact ofFraction_signed negative h

/-- A decimal number in the range of exponents is rounded as a fraction. -/
theorem ofDecimal_eq_ofFraction (negative : Bool) {digits width : ℕ} {exponent : ℤ}
    (hdigits : digits ≠ 0) (hhigh : exponent + width ≤ 310) (hlow : -330 ≤ exponent + width) :
    ofDecimal negative digits width exponent =
      ofFraction negative (scaled digits 1 exponent).1 (scaled digits 1 exponent).2 := by
  rw [ofDecimal, if_neg hdigits, if_neg (by omega), if_neg (by omega)]
  unfold scaled
  dsimp only
  split
  · rw [Nat.one_mul]
  · rfl

variable {e : Fin 2047} {f : BitVec 52}

theorem fewBits_units (h : units e f ≠ 0) : FewBits (units e f) unitsPerOne := by
  have hone : Nat.log2 unitsPerOne = 1074 := by
    rw [unitsPerOne_eq, Nat.log2_two_pow, unitScale]
  have hlt : units e f < 2 ^ (53 + (e.val - 1)) := by
    rw [units_eq, Nat.pow_add]
    exact Nat.mul_lt_mul_of_pos_right significand_lt (Nat.two_pow_pos _)
  have hlog := (Nat.log2_lt h).mpr hlt
  unfold FewBits
  omega

theorem leadingExponent_bounds {num den : ℕ} (hbits : FewBits num den) :
    -325 ≤ leadingExponent num den ∧ leadingExponent num den ≤ 308 := by
  obtain ⟨hfrom, hto⟩ := hbits
  unfold leadingExponent
  dsimp only
  generalize (Nat.log2 num : ℤ) - Nat.log2 den = bits at *
  split
  · omega
  · split
    · omega
    · omega

/-- A decimal number that is near a number is rounded to it. -/
theorem ofDecimal_of_near {digits width : ℕ} {exponent : ℤ} (hdigits : digits ≠ 0)
    (hhigh : exponent + width ≤ 310) (hlow : -330 ≤ exponent + width)
    (hnear : 2 ^ 54 * |(digits : ℚ) * 10 ^ exponent - units e f / unitsPerOne| <
      units e f / unitsPerOne) :
    ofDecimal false digits width exponent = .finite false e f := by
  have hpos := scaled_pos digits one_pos exponent
  have hvalue := scaled_eq digits one_pos exponent
  rw [ofDecimal_eq_ofFraction false hdigits hhigh hlow]
  generalize scaled digits 1 exponent = quotient at *
  obtain ⟨num, den⟩ := quotient
  dsimp only at hpos hvalue ⊢
  rw [Nat.cast_one, div_one] at hvalue
  have hden : (0 : ℚ) < den := by exact_mod_cast hpos
  have hone : (0 : ℚ) < unitsPerOne := by exact_mod_cast unitsPerOne_pos
  rw [← hvalue] at hnear
  obtain ⟨hbelow, habove⟩ := abs_lt.mp ((lt_div_iff₀' (by norm_num)).mpr hnear)
  have hnum : (num : ℚ) / den * (den * unitsPerOne) = num * unitsPerOne := by field_simp
  have hunits : (units e f : ℚ) / unitsPerOne * (den * unitsPerOne) = units e f * den := by
    field_simp
  apply ofFraction_eq_of_near false hpos
  · have hless : 2 ^ 54 * ((units e f : ℚ) / unitsPerOne) <
        2 ^ 54 * (num / den) + units e f / unitsPerOne := by linarith
    have hmul := mul_lt_mul_of_pos_right hless (mul_pos hden hone)
    rw [add_mul, mul_assoc, mul_assoc, hnum, hunits] at hmul
    exact_mod_cast hmul
  · have hless : 2 ^ 54 * ((num : ℚ) / den) <
        2 ^ 54 * (units e f / unitsPerOne) + units e f / unitsPerOne := by linarith
    have hmul := mul_lt_mul_of_pos_right hless (mul_pos hden hone)
    rw [add_mul, mul_assoc, mul_assoc, hnum, hunits] at hmul
    exact_mod_cast hmul

/-- A quotient between two powers of ten is rounded to the digits of these powers. -/
theorem length_roundQuotient {n d k : ℕ} (hd : 0 < d) (hlow : (10 : ℚ) ^ k ≤ n / d)
    (hhigh : (n : ℚ) / d < 10 ^ (k + 1)) :
    roundQuotient n d ≠ 0 ∧ k < (decimalDigits (roundQuotient n d)).length ∧
      (decimalDigits (roundQuotient n d)).length ≤ k + 2 := by
  obtain ⟨hnearlow, hnearhigh⟩ := abs_le.mp (abs_roundQuotient_sub_le n hd)
  have hleast : 10 ^ k ≤ roundQuotient n d := by
    have hhalf : (10 ^ k : ℚ) < roundQuotient n d + 1 := by linarith
    exact_mod_cast Nat.lt_succ_iff.mp (by exact_mod_cast hhalf)
  have hmost : roundQuotient n d < 10 ^ (k + 2) := by
    have hone : (1 : ℚ) ≤ 10 ^ (k + 1) := one_le_pow₀ (by norm_num)
    have hhalf : (roundQuotient n d : ℚ) < 10 ^ (k + 2) := by
      rw [pow_succ]
      linarith
    exact_mod_cast hhalf
  refine ⟨((Nat.pow_pos (by decide)).trans_le hleast).ne', ?_, ?_⟩
  · rcases Nat.eq_zero_or_pos k with rfl | hk
    · exact List.length_pos_of_ne_nil (decimalDigits_ne_nil _)
    · rw [← not_le, length_decimalDigits_le hk]
      exact not_lt.mpr hleast
  · exact (length_decimalDigits_le (by omega) _).mpr hmost

/-- A number is got back from its quotient on a grid, rounded, if that has seventeen digits before
the point: it is then off by less than the numbers around it are apart. -/
theorem ofDecimal_roundQuotient {n d : ℕ} {exponent : ℤ} (hd : 0 < d)
    (hvalue : (units e f : ℚ) / unitsPerOne = n / d * 10 ^ exponent)
    (hlow : (10 : ℚ) ^ 16 ≤ n / d) (hhigh : (n : ℚ) / d < 10 ^ 17)
    (hleast : -347 ≤ exponent) (hmost : exponent ≤ 292) :
    ofDecimal false (roundQuotient n d) (decimalDigits (roundQuotient n d)).length exponent =
      .finite false e f := by
  obtain ⟨hne, hlong, hshort⟩ := length_roundQuotient hd hlow hhigh
  have hten : (0 : ℚ) < 10 ^ exponent := by positivity
  have hdistance : |(roundQuotient n d : ℚ) * 10 ^ exponent - units e f / unitsPerOne| ≤
      1 / 2 * 10 ^ exponent := by
    rw [hvalue, ← sub_mul, abs_mul, abs_of_pos hten]
    exact mul_le_mul_of_nonneg_right (abs_roundQuotient_sub_le n hd) hten.le
  apply ofDecimal_of_near hne
  · omega
  · omega
  · rw [hvalue] at hdistance ⊢
    nlinarith

/-- **Seventeen digits are enough.** -/
theorem onGrid?_seventeen (h : units e f ≠ 0) :
    (onGrid? (.finite false e f) (units e f) unitsPerOne
      (leadingExponent (units e f) unitsPerOne) 17).isSome := by
  have hbits := fewBits_units h
  obtain ⟨hlow, hhigh⟩ :=
    leadingExponent_spec (Nat.pos_of_ne_zero h) unitsPerOne_pos hbits
  obtain ⟨hleast, hmost⟩ := leadingExponent_bounds hbits
  unfold onGrid?
  dsimp only
  generalize leadingExponent (units e f) unitsPerOne = lead at *
  obtain ⟨exponent, hexponent⟩ : ∃ exponent, exponent = lead - (17 : ℕ) + 1 := ⟨_, rfl⟩
  rw [← hexponent]
  have hpos := scaled_pos (units e f) unitsPerOne_pos (-exponent)
  have hvalue := eq_scaled_mul (units e f) unitsPerOne_pos exponent
  generalize scaled (units e f) unitsPerOne (-exponent) = quotient at *
  obtain ⟨n, d⟩ := quotient
  dsimp only at hpos hvalue ⊢
  have hten : (0 : ℚ) < 10 ^ exponent := by positivity
  have hpower : (10 : ℚ) ^ lead = 10 ^ 16 * 10 ^ exponent := by
    have hlead : lead = (16 : ℕ) + exponent := by omega
    rw [hlead, zpow_add₀ (by norm_num), zpow_natCast]
  -- the quotient has seventeen digits before the point
  have hquotient : 10 ^ 16 ≤ (n : ℚ) / d ∧ (n : ℚ) / d < 10 ^ 17 := by
    rw [hvalue, hpower] at hlow
    rw [hvalue, zpow_add_one₀ (by norm_num), hpower] at hhigh
    constructor <;> nlinarith
  have hreads := ofDecimal_roundQuotient hpos hvalue hquotient.1 hquotient.2 (by omega) (by omega)
  rw [if_pos (beq_iff_eq.mpr hreads)]
  rfl

/-! ## Zeros at the end -/

/-- Digits with a zero behind them are those of ten times the number. -/
theorem ofDecimal_mul_ten (negative : Bool) (digits width : ℕ) (exponent : ℤ) :
    ofDecimal negative (digits * 10) (width + 1) exponent =
      ofDecimal negative digits width (exponent + 1) := by
  have hsum : exponent + ((width + 1 : ℕ) : ℤ) = exponent + 1 + width := by omega
  by_cases hdigits : digits = 0
  · rw [hdigits, Nat.zero_mul, ofDecimal, ofDecimal, if_pos rfl, if_pos rfl]
  by_cases hhigh : exponent + 1 + width ≤ 310
  · by_cases hlow : -330 ≤ exponent + 1 + width
    · rw [ofDecimal_eq_ofFraction negative (by omega) (hsum ▸ hhigh) (hsum ▸ hlow),
        ofDecimal_eq_ofFraction negative hdigits hhigh hlow]
      have hpos := scaled_pos (digits * 10) one_pos exponent
      have hpos' := scaled_pos digits one_pos (exponent + 1)
      apply ofFraction_congr negative hpos hpos'
      have hden : ((scaled (digits * 10) 1 exponent).2 : ℚ) ≠ 0 := by exact_mod_cast hpos.ne'
      have hden' : ((scaled digits 1 (exponent + 1)).2 : ℚ) ≠ 0 := by exact_mod_cast hpos'.ne'
      have hvalue : ((scaled (digits * 10) 1 exponent).1 : ℚ) /
          (scaled (digits * 10) 1 exponent).2 =
          (scaled digits 1 (exponent + 1)).1 / (scaled digits 1 (exponent + 1)).2 := by
        rw [scaled_eq _ one_pos, scaled_eq _ one_pos, zpow_add_one₀ (by norm_num)]
        push_cast
        ring
      rw [div_eq_div_iff hden hden'] at hvalue
      exact_mod_cast hvalue
    · rw [ofDecimal_of_below negative (by omega) (by omega),
        ofDecimal_of_below negative hdigits (by omega)]
  · rw [ofDecimal_of_above negative (by omega) (by omega),
      ofDecimal_of_above negative hdigits (by omega)]

theorem ofDecimal_mul_ten_pow (negative : Bool) (digits width zeros : ℕ) (exponent : ℤ) :
    ofDecimal negative (digits * 10 ^ zeros) (width + zeros) exponent =
      ofDecimal negative digits width (exponent + zeros) := by
  induction zeros generalizing exponent with
  | zero => simp
  | succ zeros ih =>
      rw [Nat.pow_succ, ← Nat.mul_assoc, ← Nat.add_assoc, ofDecimal_mul_ten, ih]
      congr 1
      omega

/-- The number nearest to a decimal one. -/
def Decimal.nearest (negative : Bool) (d : Decimal) : Binary64 :=
  ofDecimal negative d.digits (decimalDigits d.digits).length d.exponent

theorem Decimal.nearest_trim (negative : Bool) {d : Decimal} (h : d.digits ≠ 0) (fuel : ℕ) :
    (d.trim fuel).nearest negative = d.nearest negative := by
  induction fuel generalizing d with
  | zero => rfl
  | succ fuel ih =>
      rw [Decimal.trim]
      split
      next hmod =>
        have hdigits : d.digits = d.digits / 10 * 10 := by omega
        have hlength : (decimalDigits d.digits).length =
            (decimalDigits (d.digits / 10)).length + 1 := by
          rw [decimalDigits_of_le (by omega), List.length_append, List.length_singleton]
        rw [ih (show d.digits / 10 ≠ 0 by omega)]
        show ofDecimal negative (d.digits / 10) (decimalDigits (d.digits / 10)).length
            (d.exponent + 1) =
          ofDecimal negative d.digits (decimalDigits d.digits).length d.exponent
        rw [hlength, ← ofDecimal_mul_ten, ← hdigits]
      next => rfl

theorem nearest_of_onGrid? {x : Binary64} {num den width : ℕ} {lead : ℤ} {d : Decimal}
    (h : onGrid? x num den lead width = some d) : d.nearest false = x := by
  unfold onGrid? at h
  dsimp only at h
  split_ifs at h with hnearer hlow hfarther hfarther
  · cases h
    exact eq_of_beq hnearer
  · cases h
    exact eq_of_beq hfarther
  · cases h
    exact eq_of_beq hfarther

theorem digits_ne_zero_of_nearest {d : Decimal} (hunits : units e f ≠ 0)
    (h : d.nearest false = .finite false e f) : d.digits ≠ 0 := by
  intro hzero
  rw [Decimal.nearest, ofDecimal, if_pos hzero] at h
  cases h
  exact hunits (by decide)

/-- **The shortest form is read back.** -/
theorem nearest_shortest (h : units e f ≠ 0) :
    (shortest e f).nearest false = .finite false e f := by
  unfold shortest
  dsimp only
  split
  next d hfound =>
    obtain ⟨i, -, hgrid⟩ := List.exists_of_findSome?_eq_some hfound
    have hnearest := nearest_of_onGrid? hgrid
    rw [Decimal.nearest_trim false (digits_ne_zero_of_nearest h hnearest)]
    exact hnearest
  next hnone =>
    -- The grid of seventeen digits has a hit.
    rw [List.findSome?_eq_none_iff] at hnone
    have hsome := onGrid?_seventeen h
    rw [hnone 16 (by decide)] at hsome
    cases hsome

/-- A sign in front does not change what a number is rounded to. -/
theorem nearest_shortest_signed (negative : Bool) (h : units e f ≠ 0) :
    (shortest e f).nearest negative = .finite negative e f :=
  ofDecimal_signed negative (nearest_shortest h)

end QuestionBank.Number
