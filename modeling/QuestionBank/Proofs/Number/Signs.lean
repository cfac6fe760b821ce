import QuestionBank.Number.Reader
import QuestionBank.Proofs.Text.TakeWhile

/-!
# The signs of a number

A text that is read as a floating-point number holds digits, letters, a few signs
and blanks, and nothing else. So a number may stand in markup as it is.
-/

namespace QuestionBank.Number

open QuestionBank.Text

/-- The characters of texts that are read as floating-point numbers. -/
def isNumberSign (c : Char) : Bool :=
  isDecimal c || c.isAlpha || c == '.' || c == '+' || c == '-' || c == '_' || isBlank c

/-- A text of such characters only. -/
def OnlyNumberSigns (s : List Char) : Prop := ∀ c ∈ s, isNumberSign c = true

theorem onlyNumberSigns_nil : OnlyNumberSigns [] := by
  intro c hc
  cases hc

theorem OnlyNumberSigns.cons {c : Char} {s : List Char} (hc : isNumberSign c = true)
    (hs : OnlyNumberSigns s) : OnlyNumberSigns (c :: s) := by
  intro d hd
  rcases List.mem_cons.mp hd with rfl | hd
  · exact hc
  · exact hs d hd

theorem isNumberSign_of_isDecimal {c : Char} (h : isDecimal c = true) : isNumberSign c = true := by
  simp [isNumberSign, h]

theorem isNumberSign_of_isAlpha {c : Char} (h : c.isAlpha = true) : isNumberSign c = true := by
  simp [isNumberSign, h]

theorem isNumberSign_of_isBlank {c : Char} (h : isBlank c = true) : isNumberSign c = true := by
  simp [isNumberSign, h]

/-! ## Each part of a number -/

/-- What a sign is taken from holds the signs of a number if the rest does. -/
theorem onlyNumberSigns_of_takeSign {s : List Char} (h : OnlyNumberSigns (takeSign s).2) :
    OnlyNumberSigns s := by
  unfold takeSign at h
  split at h
  · exact h.cons (by decide)
  · exact h.cons (by decide)
  · exact h

theorem onlyNumberSigns_of_takeDigits {s : List Char} (h : OnlyNumberSigns (takeDigits s).2) :
    OnlyNumberSigns s := by
  induction s with
  | nil => exact onlyNumberSigns_nil
  | cons c r ih =>
      rw [takeDigits] at h
      cases hc : decimalValue? c with
      | none => rwa [hc] at h
      | some d =>
          rw [hc] at h
          exact (ih h).cons (isNumberSign_of_isDecimal (by simp [isDecimal, hc]))

theorem onlyNumberSigns_of_takeFraction {s : List Char}
    (h : OnlyNumberSigns (takeFraction s).2) : OnlyNumberSigns s := by
  unfold takeFraction at h
  split at h
  · exact (onlyNumberSigns_of_takeDigits h).cons (by decide)
  · exact h

theorem onlyNumberSigns_of_readExponent? {s : List Char} {e : Int}
    (h : readExponent? s = some e) : OnlyNumberSigns s := by
  unfold readExponent? at h
  split at h
  · exact onlyNumberSigns_nil
  next c r =>
    split at h
    next hc =>
      have hrest : (takeDigits (takeSign r).2).2 = [] := by
        by_contra hne
        simp [hne] at h
      have hr : OnlyNumberSigns r := by
        apply onlyNumberSigns_of_takeSign
        apply onlyNumberSigns_of_takeDigits
        rw [hrest]
        exact onlyNumberSigns_nil
      simp only [Bool.or_eq_true, decide_eq_true_eq] at hc
      rcases hc with rfl | rfl
      · exact hr.cons (by decide)
      · exact hr.cons (by decide)
    next => cases h

theorem isAlpha_of_toLower {c : Char} (h : c.toLower.isAlpha = true) : c.isAlpha = true := by
  unfold Char.isAlpha at h ⊢
  rw [Bool.or_eq_true] at h ⊢
  by_cases hu : c.isUpper = true
  · exact .inl hu
  · have hc : c.toLower = c := by
      unfold Char.isUpper at hu
      unfold Char.toLower
      exact dif_neg (by simpa using hu)
    rwa [hc] at h

theorem onlyNumberSigns_of_lowered {s w : List Char} (h : s.map Char.toLower = w)
    (hw : ∀ c ∈ w, c.isAlpha = true) : OnlyNumberSigns s := by
  intro c hc
  have hl : c.toLower ∈ w := h ▸ List.mem_map_of_mem hc
  exact isNumberSign_of_isAlpha (isAlpha_of_toLower (hw _ hl))

theorem onlyNumberSigns_of_readMagnitude? {negative : Bool} {s : List Char} {x : Binary64}
    (h : readMagnitude? negative s = some x) : OnlyNumberSigns s := by
  by_cases hinf : s.map Char.toLower = "inf".toList
  · exact onlyNumberSigns_of_lowered hinf (by decide)
  by_cases hinfinity : s.map Char.toLower = "infinity".toList
  · exact onlyNumberSigns_of_lowered hinfinity (by decide)
  by_cases hnan : s.map Char.toLower = "nan".toList
  · exact onlyNumberSigns_of_lowered hnan (by decide)
  simp only [readMagnitude?, hinf, hinfinity, hnan, decide_false, Bool.or_self,
    Bool.false_eq_true, if_false] at h
  split at h
  · cases h
  · obtain ⟨e, he, -⟩ := Option.map_eq_some_iff.mp h
    apply onlyNumberSigns_of_takeDigits
    apply onlyNumberSigns_of_takeFraction
    exact onlyNumberSigns_of_readExponent? he

/-! ## Underscores and padding -/

theorem onlyNumberSigns_of_joinDigits? {afterDigit : Bool} {s t : List Char}
    (h : joinDigits? afterDigit s = some t) (ht : OnlyNumberSigns t) : OnlyNumberSigns s := by
  induction s generalizing afterDigit t with
  | nil => exact onlyNumberSigns_nil
  | cons c r ih =>
      rw [joinDigits?] at h
      split at h
      next hc =>
        subst hc
        split at h
        · exact (ih h ht).cons (by decide)
        · cases h
      next =>
        obtain ⟨u, hu, rfl⟩ := Option.map_eq_some_iff.mp h
        exact (ih hu fun d hd => ht d (by simp [hd])).cons (ht c (by simp))

theorem onlyNumberSigns_of_dropPadding {s : List Char}
    (h : OnlyNumberSigns (s.dropWhile isPadding)) : OnlyNumberSigns s := by
  intro c hc
  rw [← List.takeWhile_append_dropWhile (p := isPadding) (l := s)] at hc
  rcases List.mem_append.mp hc with hc | hc
  · have hp := List.mem_takeWhile_imp hc
    rw [isPadding, Bool.and_eq_true] at hp
    exact isNumberSign_of_isBlank hp.1
  · exact h c hc

theorem onlyNumberSigns_of_unpad {s : List Char} (h : OnlyNumberSigns (unpad s)) :
    OnlyNumberSigns s := by
  apply onlyNumberSigns_of_dropPadding
  intro c hc
  have hr : OnlyNumberSigns (s.dropWhile isPadding).reverse :=
    onlyNumberSigns_of_dropPadding fun d hd => h d (by simpa [unpad] using hd)
  exact hr c (List.mem_reverse.mpr hc)

/-- A text that is read as a number holds the signs of numbers only. -/
theorem onlyNumberSigns_of_readBinary64? {s : String} {x : Binary64}
    (h : readBinary64? s = some x) : OnlyNumberSigns s.toList := by
  unfold readBinary64? at h
  split at h
  · cases h
  next t ht =>
    apply onlyNumberSigns_of_unpad
    apply onlyNumberSigns_of_joinDigits? ht
    exact onlyNumberSigns_of_takeSign (onlyNumberSigns_of_readMagnitude? h)

end QuestionBank.Number
