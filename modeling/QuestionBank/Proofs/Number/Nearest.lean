import QuestionBank.Proofs.Number.Range

/-!
# The nearest number

A fraction is rounded to the number whose significand is nearest at its scale. A fraction that
differs from a finite number by less than one part in `2 ^ 54` is therefore rounded to that
number: it is nearer than half the distance to the next number, also below a power of two,
where the next number is only half as far away.
-/

namespace QuestionBank

/-! ## Rounded quotients -/

section Quotient

variable {num den k : Nat}

/-- A rounded quotient is the whole number that is less than one half away. -/
theorem roundQuotient_eq_of_near (hhigh : 2 * num < 2 * (k * den) + den)
    (hlow : 2 * (k * den) < 2 * num + den) : roundQuotient num den = k := by
  have hden : 0 < den := by
    by_contra hzero
    obtain rfl : den = 0 := by omega
    omega
  have hsplit := Nat.div_add_mod num den
  have hmod := Nat.mod_lt num hden
  -- the quotient is `k`, or it is one less and the rest is more than one half
  have hcases : num / den = k ∨ num / den + 1 = k := by
    have hle : num / den ≤ k := by
      apply Nat.lt_succ_iff.mp
      rw [Nat.div_lt_iff_lt_mul hden, Nat.succ_mul]
      omega
    have hge : k ≤ num / den + 1 := by
      by_contra hless
      have hmul : (num / den + 2) * den ≤ k * den := Nat.mul_le_mul_right den (by omega)
      rw [Nat.add_mul, Nat.mul_comm (num / den)] at hmul
      omega
    omega
  unfold roundQuotient
  dsimp only
  rcases hcases with hquotient | hquotient
  · rw [hquotient, Nat.mul_comm] at hsplit
    rw [if_pos (by omega), hquotient]
  · rw [← hquotient, Nat.add_mul, Nat.mul_comm (num / den)] at hhigh hlow
    rw [if_neg (by omega), if_pos (by omega), hquotient]

/-- A rounded quotient is at most one half away. -/
theorem near_roundQuotient (num : Nat) (hden : 0 < den) :
    2 * num ≤ 2 * (roundQuotient num den * den) + den ∧
      2 * (roundQuotient num den * den) ≤ 2 * num + den := by
  have hsplit := Nat.div_add_mod num den
  have hmod := Nat.mod_lt num hden
  have hnext : (num / den + 1) * den = den * (num / den) + den := by
    rw [Nat.add_mul, Nat.one_mul, Nat.mul_comm]
  unfold roundQuotient
  dsimp only
  split
  · rw [Nat.mul_comm (num / den)]
    omega
  · split
    · omega
    · split
      · rw [Nat.mul_comm (num / den)]
        omega
      · omega

/-- Equal quotients are rounded alike. -/
theorem roundQuotient_mul_right (num den : Nat) (hk : 0 < k) :
    roundQuotient (num * k) (den * k) = roundQuotient num den := by
  unfold roundQuotient
  dsimp only
  rw [Nat.mul_div_mul_right num den hk, Nat.mul_mod_mul_right, ← Nat.mul_assoc]
  simp only [Nat.mul_lt_mul_right hk]

end Quotient

namespace Binary64

/-- A quotient of at least 53 bits at a scale has no lower scale. -/
theorem le_quotientScale {u den k : Nat} (hden : 0 < den) (h : 2 ^ (52 + k) * den ≤ u) :
    k ≤ quotientScale u den := by
  have hquotient : 2 ^ (52 + k) ≤ u / den := (Nat.le_div_iff_mul_le hden).mpr h
  have hpos : u / den ≠ 0 := by
    have := Nat.two_pow_pos (52 + k)
    omega
  have hlog : 52 + k ≤ Nat.log2 (u / den) := (Nat.le_log2 hpos).mpr hquotient
  unfold quotientScale
  omega

/-- Equal fractions are rounded alike. -/
theorem ofFraction_mul_right (negative : Bool) (num den : Nat) {k : Nat} (hk : 0 < k) :
    ofFraction negative (num * k) (den * k) = ofFraction negative num den := by
  have hscale : quotientScale (num * k * unitsPerOne) (den * k) =
      quotientScale (num * unitsPerOne) den := by
    rw [quotientScale, Nat.mul_right_comm, Nat.mul_div_mul_right _ den hk]
    rfl
  have hsignificand : significandOf (num * k * unitsPerOne) (den * k) =
      significandOf (num * unitsPerOne) den := by
    rw [significandOf, hscale, Nat.mul_right_comm, Nat.mul_right_comm den,
      roundQuotient_mul_right _ _ hk]
    rfl
  rw [ofFraction_eq, ofFraction_eq, hscale, hsignificand]

theorem ofFraction_congr (negative : Bool) {num den num' den' : Nat} (hden : 0 < den)
    (hden' : 0 < den') (h : num * den' = num' * den) :
    ofFraction negative num den = ofFraction negative num' den' := by
  rw [← ofFraction_mul_right negative num den hden', h, Nat.mul_comm den,
    ofFraction_mul_right negative num' den' hden]

/-- Magnitudes are rounded alike, whatever their sign. -/
theorem ofSignificand_signed (negative : Bool) {significand scale : Nat} {e : Fin 2047}
    {f : BitVec 52} (h : ofSignificand false significand scale = .finite false e f) :
    ofSignificand negative significand scale = .finite negative e f := by
  unfold ofSignificand at h ⊢
  split_ifs at h ⊢
  · cases h
    rfl
  · cases h
    rfl

theorem ofFraction_signed (negative : Bool) {num den : Nat} {e : Fin 2047} {f : BitVec 52}
    (h : ofFraction false num den = .finite false e f) :
    ofFraction negative num den = .finite negative e f := by
  rw [ofFraction_eq] at h ⊢
  split_ifs at h ⊢
  · exact ofSignificand_signed negative h
  · exact ofSignificand_signed negative h

/-! ## Significands and scales -/

/-- The significand of a finite number, with its leading bit. -/
def significand (e : Fin 2047) (f : BitVec 52) : Nat :=
  if e.val = 0 then f.toNat else leadingBit + f.toNat

variable {e : Fin 2047} {f : BitVec 52}

theorem units_eq : units e f = significand e f * 2 ^ (e.val - 1) := by
  unfold units significand
  split
  next he => rw [he, Nat.zero_sub, Nat.pow_zero, Nat.mul_one]
  next => exact Nat.shiftLeft_eq _ _

theorem units_eq_zero_iff : units e f = 0 ↔ e.val = 0 ∧ f.toNat = 0 := by
  have hpower : 2 ^ (e.val - 1) ≠ 0 := (Nat.two_pow_pos _).ne'
  rw [units_eq, Nat.mul_eq_zero, or_iff_left hpower]
  unfold significand
  split
  next he => rw [and_iff_right he]
  next he =>
    have hbit := leadingBit_eq
    omega

theorem significand_lt : significand e f < 2 ^ 53 := by
  have hf : f.toNat < 2 ^ 52 := f.isLt
  have hbit := leadingBit_eq
  unfold significand
  split
  · omega
  · omega

theorem le_significand (h : 0 < e.val - 1) : 2 ^ 52 ≤ significand e f := by
  rw [significand, if_neg (by omega), leadingBit_eq]
  exact Nat.le_add_right _ _

theorem ofSignificand_parts (negative : Bool) (e : Fin 2047) (f : BitVec 52) :
    ofSignificand negative (significand e f) (e.val - 1) = .finite negative e f := by
  have hf : f.toNat < 2 ^ 52 := f.isLt
  have hbit := leadingBit_eq
  by_cases he : e.val = 0
  · have hzero : e = 0 := Fin.ext he
    have hsignificand : significand e f = f.toNat := if_pos he
    rw [ofSignificand, hsignificand, if_pos (by omega), BitVec.ofNat_toNat, BitVec.setWidth_eq,
      hzero]
  · have hsignificand : significand e f = leadingBit + f.toNat := if_neg he
    have hfits : e.val - 1 + 1 < 2047 := by omega
    have hfraction : BitVec.ofNat 52 (leadingBit + f.toNat) = f := by
      apply BitVec.eq_of_toNat_eq
      rw [BitVec.toNat_ofNat, hbit, Nat.add_mod_left, Nat.mod_eq_of_lt hf]
    have hexponent : (⟨e.val - 1 + 1, hfits⟩ : Fin 2047) = e := Fin.ext (by simp; omega)
    rw [ofSignificand, hsignificand, if_neg (by omega), dif_pos hfits, hfraction, hexponent]

/-! ## Fractions near a number -/

/-- A quotient right below a power of two is rounded up to it: its significand is carried. -/
theorem significandOf_carry {u den k : Nat} (hden : 0 < den) (hhigh : u < 2 ^ 53 * (den * 2 ^ k))
    (hlow : 2 ^ 54 * (2 ^ 53 * (den * 2 ^ k)) < 2 ^ 54 * u + 2 ^ 53 * (den * 2 ^ k)) :
    quotientScale u den = k ∧ significandOf u den = 2 * leadingBit := by
  have hscale : quotientScale u den = k := by
    apply Nat.le_antisymm
    · refine scale_le hden rfl ?_
      rw [Nat.pow_add, Nat.mul_assoc, Nat.mul_comm _ den]
      exact hhigh
    · refine le_quotientScale hden ?_
      rw [Nat.pow_add, Nat.mul_assoc, Nat.mul_comm _ den]
      omega
  refine ⟨hscale, ?_⟩
  rw [significandOf, hscale, leadingBit_eq]
  apply roundQuotient_eq_of_near
  · omega
  · omega

/-- **A fraction near a number is rounded to it.** Near means that they differ by less than one
part in `2 ^ 54`. -/
theorem ofFraction_eq_of_near (negative : Bool) {num den : Nat} (hden : 0 < den)
    (hlow : 2 ^ 54 * (units e f * den) < 2 ^ 54 * (num * unitsPerOne) + units e f * den)
    (hhigh : 2 ^ 54 * (num * unitsPerOne) < 2 ^ 54 * (units e f * den) + units e f * den) :
    ofFraction negative num den = .finite negative e f := by
  obtain ⟨step, hstep⟩ : ∃ step, step = den * 2 ^ (e.val - 1) := ⟨_, rfl⟩
  have hunits : units e f * den = significand e f * step := by
    rw [units_eq, hstep, Nat.mul_assoc, Nat.mul_comm den]
  have hbits : significand e f < 2 ^ 53 := significand_lt
  have hle : significand e f * step ≤ (2 ^ 53 - 1) * step :=
    Nat.mul_le_mul_right step (by omega)
  have hbit := leadingBit_eq
  rw [hunits] at hlow hhigh
  rw [ofFraction_eq]
  generalize num * unitsPerOne = u at *
  have hscale : quotientScale u den ≤ e.val - 1 := by
    refine scale_le hden rfl ?_
    rw [Nat.pow_add, Nat.mul_assoc, Nat.mul_comm _ den, ← hstep]
    omega
  rcases Nat.lt_or_eq_of_le hscale with hbelow | hsame
  · -- The fraction is less than the number, which is a power of two.
    obtain ⟨k, hk⟩ : ∃ k, e.val - 1 = k + 1 := ⟨e.val - 1 - 1, by omega⟩
    have hhalf : step = 2 * (den * 2 ^ k) := by
      rw [hstep, hk, Nat.pow_succ, Nat.mul_comm (2 ^ k), Nat.mul_left_comm]
    have hsmall : u < 2 ^ 53 * (den * 2 ^ k) := by
      have hpower : 2 ^ quotientScale u den ≤ 2 ^ k :=
        Nat.pow_le_pow_right Nat.two_pos (by omega)
      exact (lt_scaled hden rfl).trans_le
        (Nat.mul_le_mul_left _ (Nat.mul_le_mul_left den hpower))
    have hpower : significand e f = leadingBit := by
      have hnormal : 2 ^ 52 ≤ significand e f := le_significand (by omega)
      by_contra hmore
      have hnext : (2 ^ 52 + 1) * step ≤ significand e f * step :=
        Nat.mul_le_mul_right step (by omega)
      omega
    rw [hpower, leadingBit_eq] at hlow
    obtain ⟨hscale, hcarry⟩ := significandOf_carry hden hsmall (by omega)
    rw [if_pos hcarry, hscale, ← hk, ← hpower]
    exact ofSignificand_parts negative e f
  · have hround : significandOf u den = significand e f := by
      rw [significandOf, hsame, ← hstep]
      apply roundQuotient_eq_of_near
      · omega
      · omega
    rw [hround, if_neg (by omega), hsame]
    exact ofSignificand_parts negative e f

end Binary64

end QuestionBank
