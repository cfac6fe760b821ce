import QuestionBank.Proofs.Json.Numeral
import QuestionBank.Proofs.Number.Shortest

/-!
# Floating-point numbers are read back

The text of a finite number spells its shortest form, with a point in its place or with an
exponent. So the text is read back as the number; and so are the words for what is not finite.
-/

namespace QuestionBank.Json

open QuestionBank.Number QuestionBank.Text

/-! ## Digits and zeros -/

theorem value_ne_zero {c : Char} (hdigit : c.isDigit = true) (hc : c ≠ '0') :
    c.toNat - 0x30 ≠ 0 := by
  intro hzero
  rw [Char.isDigit, Bool.and_eq_true, decide_eq_true_eq, decide_eq_true_eq] at hdigit
  have hleast : 48 ≤ c.toNat := hdigit.1
  apply hc
  apply Char.toNat_inj.mp
  show c.toNat = 48
  omega

/-- Zeros in front of a number are left out. -/
theorem dropWhile_values {n : Nat} (hn : n ≠ 0) (zeros : Nat) (s : List Char) :
    (values (List.replicate zeros '0' ++ (decimalDigits n ++ s))).dropWhile (· == 0) =
      values (decimalDigits n ++ s) := by
  obtain ⟨c, r, hdigits, hc⟩ := decimalDigits_eq_cons hn
  have hdigit : c.isDigit = true := digits_decimalDigits n c (hdigits ▸ .head r)
  have hvalue : ¬ (c.toNat - 0x30 == 0) = true := by
    rw [beq_iff_eq]
    exact value_ne_zero hdigit hc
  have hzeros : ∀ v ∈ values (List.replicate zeros '0'), (v == 0) = true := by
    intro v hv
    obtain ⟨z, hz, rfl⟩ := List.mem_map.mp hv
    rw [List.eq_of_mem_replicate hz]
    rfl
  have happend : values (List.replicate zeros '0' ++ (decimalDigits n ++ s)) =
      values (List.replicate zeros '0') ++ values (decimalDigits n ++ s) := List.map_append
  rw [happend, List.dropWhile_append_of_pos hzeros, hdigits]
  exact List.dropWhile_cons_of_neg hvalue

/-- Zeros behind a number stand for powers of ten. -/
theorem ofDigits_values_zeros (n zeros : Nat) :
    ofDigits (values (decimalDigits n ++ List.replicate zeros '0')) = n * 10 ^ zeros := by
  induction zeros with
  | zero =>
      rw [List.replicate_zero, List.append_nil, ofDigits_values_decimalDigits, Nat.pow_zero,
        Nat.mul_one]
  | succ zeros ih =>
      have hlast : values (decimalDigits n ++ List.replicate (zeros + 1) '0') =
          values (decimalDigits n ++ List.replicate zeros '0') ++ [0] := by
        rw [List.replicate_succ', ← List.append_assoc]
        exact List.map_append
      rw [hlast, ofDigits_append_singleton, ih, Nat.pow_succ]
      ring

/-- Zeros in front of a number do not change it. -/
theorem ofDigits_zeros_values (zeros : Nat) (s : List Char) :
    ofDigits (values (List.replicate zeros '0' ++ s)) = ofDigits (values s) := by
  induction zeros with
  | zero => rfl
  | succ zeros ih =>
      rw [← ih]
      rfl

theorem length_values (s : List Char) : (values s).length = s.length := List.length_map _

/-! ## The shortest form spelled -/

/-- A number is spelled with these digits, the point behind some of them. -/
theorem Spelling.float_eq {n : Spelling} {d : Decimal} {k l : Nat} (hd : d.digits ≠ 0)
    (hdigits : n.whole ++ n.places = List.replicate k '0' ++
      (decimalDigits d.digits ++ List.replicate l '0'))
    (hpower : (powerValue n.power).getD 0 - n.places.length + l = d.exponent)
    (negative : Bool) : n.float negative = d.nearest negative := by
  rw [Spelling.float, hdigits, dropWhile_values hd, ofDigits_values_zeros, length_values,
    List.length_append, List.length_replicate, ofDecimal_mul_ten_pow, hpower]
  rfl

/-- The text of a decimal number with its point in place. -/
theorem positional_nearest {d : Decimal} (h : d.digits ≠ 0) :
    ∃ n : Spelling, n.chars = positional (decimalDigits d.digits)
        (d.exponent + (decimalDigits d.digits).length - 1) ∧
      ∀ negative, n.float negative = d.nearest negative := by
  have hdigits := digits_decimalDigits d.digits
  have hlength : 1 ≤ (decimalDigits d.digits).length :=
    List.length_pos_of_ne_nil (decimalDigits_ne_nil d.digits)
  obtain ⟨lead, hlead⟩ : ∃ lead, lead = d.exponent + (decimalDigits d.digits).length - 1 := ⟨_, rfl⟩
  rw [← hlead]
  unfold positional
  split
  next hneg =>
    have hfraction : Digits (List.replicate (lead.natAbs - 1) '0' ++ decimalDigits d.digits) :=
      (digits_replicate_zero _).append hdigits
    refine ⟨.withPoint ['0'] _ (whole_digit rfl) hfraction (by simp [decimalDigits_ne_nil]),
      by simp, ?_⟩
    apply Spelling.float_eq (k := lead.natAbs - 1 + 1) (l := 0) h
    · rw [List.replicate_succ]
      simp [Spelling.withPoint, Spelling.places]
    · simp [Spelling.withPoint, Spelling.places, powerValue]
      omega
  next hnonneg =>
    dsimp only
    split
    next hshort =>
      have hwhole : Whole (decimalDigits d.digits ++
          List.replicate (lead.natAbs + 1 - (decimalDigits d.digits).length) '0') :=
        whole_append h (digits_replicate_zero _)
      refine ⟨.withPoint _ ['0'] hwhole (digits_replicate_zero 1) (List.cons_ne_nil _ _),
        by simp, ?_⟩
      apply Spelling.float_eq (k := 0)
        (l := lead.natAbs + 1 - (decimalDigits d.digits).length + 1) h
      · rw [List.replicate_succ']
        simp [Spelling.withPoint, Spelling.places]
      · simp [Spelling.withPoint, Spelling.places, powerValue]
        omega
    next hlong =>
      have hfraction : Digits ((decimalDigits d.digits).drop (lead.natAbs + 1)) := fun c hc =>
        hdigits c (List.mem_of_mem_drop hc)
      refine ⟨.withPoint _ _ (whole_take d.digits lead.natAbs) hfraction
        (by rwa [ne_eq, List.drop_eq_nil_iff]), by simp, ?_⟩
      apply Spelling.float_eq (k := 0) (l := 0) h
      · simp [Spelling.withPoint, Spelling.places]
      · simp [Spelling.withPoint, Spelling.places, powerValue]
        omega

/-- A power with zeros in front of its digits. -/
theorem powerValue_padded (lead : ℤ) (k : Nat) :
    powerValue (some (decide (lead < 0), List.replicate k '0' ++ decimalDigits lead.natAbs)) =
      some lead := by
  have hdigits : ofDigits (values (List.replicate k '0' ++ decimalDigits lead.natAbs)) =
      lead.natAbs := by
    rw [ofDigits_zeros_values, ofDigits_values_decimalDigits]
  rw [powerValue, Option.map_some, hdigits]
  by_cases hneg : lead < 0
  · rw [if_pos (by simpa using hneg)]
    congr 1
    omega
  · rw [if_neg (by simpa using hneg)]
    congr 1
    omega

/-- The text of a decimal number with an exponent. -/
theorem exponential_nearest (layout : Layout) {d : Decimal} (h : d.digits ≠ 0) :
    ∃ n : Spelling, n.chars = layout.exponential (decimalDigits d.digits)
        (d.exponent + (decimalDigits d.digits).length - 1) ∧
      ∀ negative, n.float negative = d.nearest negative := by
  have hdigits := digits_decimalDigits d.digits
  obtain ⟨lead, hlead⟩ : ∃ lead, lead = d.exponent + (decimalDigits d.digits).length - 1 := ⟨_, rfl⟩
  rw [← hlead]
  obtain ⟨power, hpower⟩ : ∃ power, power =
      List.replicate (layout.exponentWidth - (decimalDigits lead.natAbs).length) '0' ++
        decimalDigits lead.natAbs := ⟨_, rfl⟩
  have hparts : ∀ p ∈ some (decide (lead < 0), power), Digits p.2 ∧ p.2 ≠ [] := by
    rintro p ⟨⟩
    rw [hpower]
    exact ⟨(digits_replicate_zero _).append (digits_decimalDigits _),
      by simp [decimalDigits_ne_nil]⟩
  have hvalue : powerValue (some (decide (lead < 0), power)) = some lead := by
    rw [hpower]
    exact powerValue_padded lead _
  have hchars (mantissa : List Char) : mantissa ++ powerChars (some (decide (lead < 0), power)) =
      mantissa ++ 'e' :: (if lead < 0 then '-' else '+') :: power := by
    simp [powerChars]
  unfold Layout.exponential
  dsimp only
  rw [← hpower]
  obtain ⟨c, r, hcons⟩ := List.exists_cons_of_ne_nil (decimalDigits_ne_nil d.digits)
  have hlength := congrArg List.length hcons
  rw [List.length_cons] at hlength
  have hall : c :: r = List.replicate 0 '0' ++
      (decimalDigits d.digits ++ List.replicate 0 '0') := by simp [hcons]
  rw [hcons] at hdigits
  obtain ⟨hc, hrest⟩ := List.forall_mem_cons.mp hdigits
  rw [hcons]
  cases r with
  | nil =>
      refine ⟨⟨[c], none, some (decide (lead < 0), power), whole_digit hc, by simp, hparts⟩, ?_, ?_⟩
      · simpa [Spelling.chars, fractionChars] using hchars [c]
      · refine Spelling.float_eq (k := 0) (l := 0) h hall ?_
        simp only [hvalue, Option.getD_some, Spelling.places, Option.getD_none, List.length_nil]
        rw [List.length_nil] at hlength
        omega
  | cons c' r =>
      have hfraction : ∀ s ∈ some (c' :: r), Digits s ∧ s ≠ [] := by
        rintro s ⟨⟩
        exact ⟨hrest, List.cons_ne_nil _ _⟩
      refine ⟨⟨[c], some (c' :: r), some (decide (lead < 0), power), whole_digit hc, hfraction,
        hparts⟩, ?_, ?_⟩
      · simpa [Spelling.chars, fractionChars] using hchars (c :: '.' :: c' :: r)
      · refine Spelling.float_eq (k := 0) (l := 0) h hall ?_
        simp only [hvalue, Option.getD_some, Spelling.places]
        omega

/-! ## Every number -/

/-- The text of a finite number spells it. -/
theorem render_nearest (layout : Layout) (negative : Bool) (e : Fin 2047) (f : BitVec 52) :
    ∃ n : Spelling, (layout.render (.finite negative e f)).toList = n.signed negative ∧
      n.float negative = .finite negative e f := by
  rw [Layout.render, String.toList_ofList]
  apply exists_signed
  by_cases hzero : e.val = 0 ∧ f.toNat = 0
  · rw [if_pos (by simpa using hzero)]
    refine ⟨.withPoint ['0'] ['0'] (whole_digit rfl) (digits_replicate_zero 1)
      (List.cons_ne_nil _ _), rfl, ?_⟩
    have he : e = 0 := Fin.ext hzero.1
    have hf : f = 0 := BitVec.eq_of_toNat_eq hzero.2
    rw [he, hf]
    rfl
  · have hunits : Binary64.units e f ≠ 0 := mt Binary64.units_eq_zero_iff.mp hzero
    have hnearest := nearest_shortest hunits
    have hdigits := digits_ne_zero_of_nearest hunits hnearest
    have hsigned := nearest_shortest_signed negative hunits
    rw [if_neg (by simpa using hzero)]
    dsimp only
    split
    · obtain ⟨n, hchars, hfloat⟩ := positional_nearest hdigits
      exact ⟨n, hchars, (hfloat negative).trans hsigned⟩
    · obtain ⟨n, hchars, hfloat⟩ := exponential_nearest layout hdigits
      exact ⟨n, hchars, (hfloat negative).trans hsigned⟩

/-- **Every number is read back from its text.** -/
theorem readsBack (x : Binary64) : ReadsBack x := by
  cases x with
  | nan => decide +kernel
  | infinite negative => cases negative <;> decide +kernel
  | finite negative e f =>
      obtain ⟨n, htext, hfloat⟩ := render_nearest numberLayout negative e f
      rw [ReadsBack, ← String.ofList_toList (s := numberLayout.render _), htext,
        n.readBinary64?_signed, hfloat]

end QuestionBank.Json
