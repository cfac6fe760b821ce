import QuestionBank.Proofs.Traversal
import QuestionBank.Scoring.Numeric

/-!
# How alternatives are sorted

The alternatives of a stem are sorted one by one: a bound is set for its outcome, and a value
becomes an answer with its share. What holds of all numeric answers is proved by induction on
these steps.
-/

namespace QuestionBank.Scoring

/-- Alternatives are sorted behind bounds that were set before. -/
inductive Sorts (question : Option String) (set : OutcomeSet) (best : Int) :
    List Alternative → List Bounds → List NumericAnswer → List Bounds → Prop
  | done (bounds : List Bounds) : Sorts question set best [] bounds [] bounds
  | bound {a : Alternative} {as : List Alternative} {x : Binary64} {bounds bounds' : List Bounds}
      {values : List NumericAnswer} (hx : operandOf question a = .ok x)
      (hrange : a.comparison.operator.isRange = true)
      (hrest : Sorts question set best as
        (setBound a.outcome a.comparison.operator.isLowerBound x bounds) values bounds') :
      Sorts question set best (a :: as) bounds values bounds'
  | value {a : Alternative} {as : List Alternative} {x fraction : Binary64}
      {bounds bounds' : List Bounds} {values : List NumericAnswer}
      (hx : operandOf question a = .ok x) (hrange : a.comparison.operator.isRange = false)
      (hshare : shareOf a.outcome set best = .ok fraction)
      (hrest : Sorts question set best as bounds values bounds') :
      Sorts question set best (a :: as) bounds
        ({ value := x, fraction, feedback := answerFeedback set a.outcome } :: values) bounds'

variable {question : Option String} {set : OutcomeSet} {best : Int}

theorem sorts_of_ok {alternatives : List Alternative} {bounds bounds' : List Bounds}
    {values : List NumericAnswer}
    (h : sortAlternatives question set best alternatives bounds = .ok (values, bounds')) :
    Sorts question set best alternatives bounds values bounds' := by
  induction alternatives generalizing bounds values with
  | nil =>
      cases h
      exact .done _
  | cons a alternatives ih =>
      rw [sortAlternatives] at h
      split at h
      · cases h
      next x hx =>
        dsimp only at h
        split at h
        next hrange => exact .bound hx hrange (ih h)
        next hrange =>
          split at h
          · cases h
          next fraction hshare =>
            obtain ⟨⟨values', bounds''⟩, hrest, he⟩ := Traversal.map_eq_ok_iff.mp h
            cases he
            exact .value hx (Bool.eq_false_iff.mpr hrange) hshare (ih hrest)

/-- Numeric answers are the values that are sorted out, and then an answer for each bounds. -/
theorem numericAnswers_eq_ok {rule : StemRule} {answers : List NumericAnswer} {ranged : Bool}
    (h : numericAnswers question rule set = .ok (answers, ranged)) :
    ∃ values bounds ranges,
      Sorts question set (bestScore rule set) rule.alternatives [] values bounds ∧
      List.Forall₂ (fun b answer => rangeAnswer question set (bestScore rule set) b = .ok answer)
        bounds ranges ∧
      answers = values ++ ranges := by
  unfold numericAnswers at h
  dsimp only at h
  split at h
  · cases h
  split at h
  · cases h
  next values bounds hsort =>
    obtain ⟨ranges, hranges, he⟩ := Traversal.map_eq_ok_iff.mp h
    cases he
    exact ⟨values, bounds, ranges, sorts_of_ok hsort, Traversal.mapM_eq_ok_iff.mp hranges, rfl⟩

end QuestionBank.Scoring
