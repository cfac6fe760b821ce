import QuestionBank.Proofs.Number.Order
import QuestionBank.Proofs.Scoring.Shares
import QuestionBank.Proofs.Scoring.Sorted
import QuestionBank.Proofs.Scoring.Sources
import QuestionBank.Scoring.Fractions

/-!
# Credit and tolerances within bounds

Choices and numeric answers get shares of credit between minus one and one, and the
tolerance of a numeric answer is not negative. Where there is something to answer, there is
an answer.
-/

namespace QuestionBank.Scoring

open QuestionBank.Condition QuestionBank.Text

theorem IsShare.inUnit {x : Binary64} (h : IsShare x) : x.InUnit := by
  obtain ⟨negative, e, f, rfl, hunits⟩ := h
  exact Binary64.inUnit_of_units_le hunits

theorem inUnit_one : Binary64.one.InUnit := isShare_one.inUnit

theorem inUnit_zero : (Binary64.zero false).InUnit := Binary64.inUnit_of_units_le (by decide)

/-! ## Choices -/

theorem isShare_ofRat {q : Rat} (h : q.num.natAbs ≤ q.den) : IsShare (.ofRat q) := by
  have hgreatest : q.num.natAbs ≤ Binary64.greatest * q.den :=
    h.trans (Nat.le_mul_of_pos_left _ Binary64.greatest_pos)
  obtain ⟨negative, e, f, he, hunits⟩ := ofRat_finite hgreatest
  exact ⟨negative, e, f, he, hunits h⟩

theorem natAbs_num_worth_le {count : Nat} (h : count ≠ 0) :
    (mkRat 1 count).num.natAbs ≤ (mkRat 1 count).den := by
  have hle := natAbs_num_mkRat_le 1 (Nat.pos_of_ne_zero h)
  simpa using hle

/-- A right choice gets its part, a wrong one nothing or the same part taken away. -/
theorem fractions_eq_ok {e : Expression} {choices : List Choice} {single : Bool}
    {xs : List Binary64} (h : fractions e choices single = .ok xs) :
    ∃ count, count = (choices.filter (isCorrect e)).length ∧ count ≠ 0 ∧
      xs = choices.map fun choice => .ofRat (if isCorrect e choice then mkRat 1 count
        else if single then 0 else -mkRat 1 count) := by
  obtain ⟨qs, hqs, rfl⟩ := Traversal.map_eq_ok_iff.mp h
  unfold shares at hqs
  dsimp only at hqs
  split at hqs
  · cases hqs
  next hcount =>
    cases hqs
    exact ⟨_, rfl, hcount, List.map_map⟩

/-- The shares of the choices are between minus one and one, one for each choice. -/
theorem fractions_inUnit {e : Expression} {choices : List Choice} {single : Bool}
    {xs : List Binary64} (h : fractions e choices single = .ok xs) :
    xs.length = choices.length ∧ ∀ x ∈ xs, x.InUnit := by
  obtain ⟨count, -, hcount, rfl⟩ := fractions_eq_ok h
  refine ⟨List.length_map _, ?_⟩
  intro x hx
  obtain ⟨choice, -, rfl⟩ := List.mem_map.mp hx
  have hworth := natAbs_num_worth_le hcount
  apply (isShare_ofRat _).inUnit
  split
  · exact hworth
  · split
    · exact Nat.zero_le _
    · rw [Rat.neg_num, Int.natAbs_neg, Rat.neg_den]
      exact hworth

/-! ## Numeric answers -/

variable {set : OutcomeSet} {rule : StemRule} {best : Int} {question : Option String}

/-- Half the width of a range is not negative. -/
theorem notNegative_rangeAnswer {b : Bounds} {a : NumericAnswer}
    (h : rangeAnswer question set best b = .ok a) : a.tolerance.NotNegative := by
  unfold rangeAnswer at h
  split at h
  next x y _ _ =>
    obtain ⟨fraction, -, rfl⟩ := Traversal.map_eq_ok_iff.mp h
    apply Binary64.notNegative_half
    apply Binary64.notNegative_sub
    split
    next hlt => exact Binary64.lt_asymm hlt
    next hlt => simpa using hlt
  · cases h

theorem setBound_ne_nil (o : Outcome) (isLower : Bool) (x : Binary64) (bounds : List Bounds) :
    setBound o isLower x bounds ≠ [] := by
  cases bounds with
  | nil => exact List.cons_ne_nil _ _
  | cons b bounds =>
      rw [setBound]
      split <;> exact List.cons_ne_nil _ _

/-- Values have no tolerance, and every alternative is a value or leaves a bound. -/
theorem Sorts.ne_nil {alternatives : List Alternative} {bounds bounds' : List Bounds}
    {answers : List NumericAnswer}
    (h : Sorts question set best alternatives bounds answers bounds') :
    (∀ a ∈ answers, a.tolerance = .zero false) ∧
      (alternatives ≠ [] ∨ bounds ≠ [] → answers ≠ [] ∨ bounds' ≠ []) := by
  induction h with
  | done bounds => exact ⟨List.forall_mem_nil _, fun h => h.imp (absurd rfl) id⟩
  | bound _ _ _ ih => exact ⟨ih.1, fun _ => ih.2 (.inr (setBound_ne_nil _ _ _ _))⟩
  | value _ _ _ _ ih =>
      exact ⟨List.forall_mem_cons.mpr ⟨rfl, ih.1⟩, fun _ => .inl (List.cons_ne_nil _ _)⟩

/-- The answers of a stem with alternatives are there, with shares and tolerances within
bounds. -/
theorem numericAnswers_ok (hrule : rule.InRange) (halternatives : rule.alternatives ≠ [])
    {answers : List NumericAnswer} {ranged : Bool}
    (h : numericAnswers question rule set = .ok (answers, ranged)) :
    answers ≠ [] ∧ ∀ a ∈ answers, a.fraction.InUnit ∧ a.tolerance.NotNegative := by
  have hshares := unbroken_numericAnswers question set hrule
  rw [h] at hshares
  obtain ⟨values, bounds, ranges, hsorts, hranges, rfl⟩ := numericAnswers_eq_ok h
  obtain ⟨hzero, hsome⟩ := hsorts.ne_nil
  constructor
  · -- An alternative is a value or leaves a bound, and each bound gives a range.
    intro hnil
    obtain ⟨rfl, rfl⟩ := List.append_eq_nil_iff.mp hnil
    obtain rfl := List.forall₂_nil_right_iff.mp hranges
    exact (hsome (.inl halternatives)).elim (absurd rfl) (absurd rfl)
  · intro a ha
    refine ⟨(hshares.of_ok a ha).inUnit, ?_⟩
    rcases List.mem_append.mp ha with ha | ha
    · rw [hzero a ha]
      exact Binary64.notNegative_zero false
    · obtain ⟨b, -, hb⟩ := Traversal.exists_of_mem_left hranges.flip ha
      exact notNegative_rangeAnswer hb

end QuestionBank.Scoring
