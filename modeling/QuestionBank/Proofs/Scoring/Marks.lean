import QuestionBank.Proofs.Condition.Printed
import QuestionBank.Proofs.Number.Decimal
import QuestionBank.Scoring.Aggregate
import QuestionBank.Scoring.Fractions

/-!
# The choices that a condition marks

The first comparison that names a choice says whether it is correct. In the condition that
stands for the scores of all outcomes, the outcome in each position names the choice with
that index, so it marks this choice and no other.
-/

namespace QuestionBank.Scoring

open QuestionBank.Condition QuestionBank.Number

/-! ## Marks -/

/-- A choice without a mark is not marked as correct. -/
theorem not_correct_of_unmarked {key : String} {marks : List ChoiceMark}
    (h : ¬ (marks.any fun m => m.key == key) = true) :
    (marks.any fun m => m.key == key && m.correct) = false := by
  rw [List.any_eq_false]
  intro m hm hcorrect
  rw [Bool.and_eq_true] at hcorrect
  exact h (List.any_eq_true.mpr ⟨m, hm, hcorrect.1⟩)

/-- A choice that is marked keeps its mark; the first comparison that names another one
marks it. -/
theorem any_foldl_mark (key : String) (comparisons : List Comparison) (marks : List ChoiceMark) :
    (comparisons.foldl mark marks).any (fun m => m.key == key && m.correct) =
      if marks.any fun m => m.key == key then marks.any fun m => m.key == key && m.correct
      else ((comparisons.find? fun c => c.left == key).map fun c => !c.negated).getD false := by
  induction comparisons generalizing marks with
  | nil =>
      split
      · rfl
      next hunmarked => exact not_correct_of_unmarked hunmarked
  | cons c comparisons ih =>
      rw [List.foldl_cons, ih, mark]
      by_cases hkey : c.left = key
      · subst hkey
        by_cases hmarked : marks.any fun m => m.key == c.left
        · simp [hmarked]
        · simp [hmarked, not_correct_of_unmarked hmarked]
      · have hother : (c.left == key) = false := beq_false_of_ne hkey
        by_cases hmarked : marks.any fun m => m.key == c.left <;> simp [hmarked, hother]

/-- The first comparison that names a choice says whether it is correct. -/
theorem isCorrect_eq (e : Expression) (choice : Choice) :
    isCorrect e choice =
      ((e.comparisons.find? fun c => c.left == choice.key).map fun c => !c.negated).getD false :=
  any_foldl_mark choice.key e.comparisons []

/-- Comparisons that name different choices are added to the marks one by one. -/
theorem foldl_mark_of_nodup {comparisons : List Comparison} {marks : List ChoiceMark}
    (h : (marks.map ChoiceMark.key ++ comparisons.map Comparison.left).Nodup) :
    comparisons.foldl mark marks = marks ++ comparisons.map fun c => ⟨c.left, !c.negated⟩ := by
  induction comparisons generalizing marks with
  | nil => exact (List.append_nil marks).symm
  | cons c comparisons ih =>
      have hnew : ¬ (marks.any fun m => m.key == c.left) = true := by
        rw [List.any_eq_true]
        rintro ⟨m, hm, hkey⟩
        exact (List.nodup_append.mp h).2.2 m.key (List.mem_map_of_mem hm) c.left (.head _)
          (beq_iff_eq.mp hkey)
      rw [List.foldl_cons, mark, if_neg hnew, ih (by simpa using h), List.map_cons,
        List.append_assoc, List.singleton_append]

/-- Where each comparison names another choice, each one makes a mark. -/
theorem choiceMarks_of_nodup {e : Expression} (h : (e.comparisons.map Comparison.left).Nodup) :
    choiceMarks e = e.comparisons.map fun c => ⟨c.left, !c.negated⟩ :=
  foldl_mark_of_nodup h

/-! ## The condition of all scores -/

/-- The comparison that an outcome in a position stands for. -/
def positionComparison (position : Nat) (o : Outcome) : Comparison :=
  { left := showInt position, negated := o.score = 0 }

theorem positionTerm_eq (position : Nat) (o : Outcome) :
    positionTerm position o = (positionComparison position o).text := by
  simp [positionTerm, positionComparison, Comparison.text, Comparison.isReference]

theorem printable_positionComparison (position : Nat) (o : Outcome) :
    (positionComparison position o).Printable := by
  refine ⟨?_, List.not_mem_nil, fun _ => ⟨rfl, rfl⟩⟩
  intro hquote
  rw [positionComparison, showInt_toList (Int.natCast_nonneg position)] at hquote
  exact absurd (isDigit_of_mem_decimalDigits _ _ hquote) (by decide)

/-- The condition of all scores is read as one comparison for each scoring outcome. -/
theorem parse_synthesizedCondition {outcomes : List Outcome} (h : scoringOutcomes outcomes ≠ []) :
    ∃ e, parse (synthesizedCondition outcomes) = .ok e ∧
      e.comparisons = (scoringOutcomes outcomes).mapIdx positionComparison := by
  obtain ⟨c, cs, hcs⟩ : ∃ c cs, (scoringOutcomes outcomes).mapIdx positionComparison = c :: cs :=
    List.exists_cons_of_ne_nil (by simpa using h)
  have hterms : (scoringOutcomes outcomes).mapIdx positionTerm = (c :: cs).map Comparison.text := by
    rw [← hcs, List.mapIdx_eq_iff]
    intro i
    rw [List.getElem?_map, List.getElem?_mapIdx, Option.map_map]
    exact congrArg (Option.map · _) (funext (positionTerm_eq i)).symm
  have htext : (Expression.mk ⟨c, cs⟩ [] "").text = synthesizedCondition outcomes := by
    rw [synthesizedCondition, hterms]
    rfl
  have hcomparisons (source : String) : (Expression.mk ⟨c, cs⟩ [] source).comparisons = c :: cs :=
    List.append_nil _
  have hprintable : (Expression.mk ⟨c, cs⟩ [] "").Printable := by
    intro x hx
    rw [hcomparisons, ← hcs] at hx
    obtain ⟨i, hi, rfl⟩ := List.mem_mapIdx.mp hx
    exact printable_positionComparison _ _
  refine ⟨_, htext ▸ hprintable.parse_text, ?_⟩
  rw [hcs]
  exact hcomparisons _

/-- The condition of all scores marks each position once, as correct when the outcome there has
a score other than zero. -/
theorem choiceMarks_eq {outcomes : List Outcome} {e : Expression}
    (h : e.comparisons = (scoringOutcomes outcomes).mapIdx positionComparison) :
    choiceMarks e =
      (scoringOutcomes outcomes).mapIdx fun i o => ⟨showInt i, decide (o.score ≠ 0)⟩ := by
  have hnodup : (e.comparisons.map Comparison.left).Nodup := by
    rw [h, List.Nodup, List.pairwise_map, List.pairwise_iff_getElem]
    intro i j hi hj hlt
    rw [List.getElem_mapIdx, List.getElem_mapIdx]
    exact fun hkey => hlt.ne (showInt_injective hkey)
  rw [choiceMarks_of_nodup hnodup, h, eq_comm, List.mapIdx_eq_iff]
  intro i
  rw [List.getElem?_map, List.getElem?_mapIdx, Option.map_map]
  congr 1
  funext o
  simp [positionComparison]

/-- The condition of all scores marks a choice as correct just when the outcome in its position
has a score other than zero. -/
theorem isCorrect_iff {outcomes : List Outcome} {e : Expression}
    (h : e.comparisons = (scoringOutcomes outcomes).mapIdx positionComparison) (choice : Choice) :
    isCorrect e choice = true ↔
      ∃ o, (scoringOutcomes outcomes)[choice.index]? = some o ∧ o.score ≠ 0 := by
  have hfind : (e.comparisons.find? fun c => c.left == choice.key) =
      (scoringOutcomes outcomes)[choice.index]?.map (positionComparison choice.index) := by
    rw [h]
    cases ho : (scoringOutcomes outcomes)[choice.index]? with
    | none =>
        rw [Option.map_none, List.find?_eq_none]
        intro c hc hkey
        obtain ⟨i, hi, rfl⟩ := List.mem_mapIdx.mp hc
        obtain rfl : i = choice.index := showInt_injective (beq_iff_eq.mp hkey)
        exact absurd (List.getElem?_eq_none_iff.mp ho) (Nat.not_le.mpr hi)
    | some o =>
        obtain ⟨hi, rfl⟩ := List.getElem?_eq_some_iff.mp ho
        rw [Option.map_some, List.find?_eq_some_iff_getElem]
        refine ⟨beq_self_eq_true _, choice.index, by simpa using hi, List.getElem_mapIdx .., ?_⟩
        intro j hj
        rw [List.getElem_mapIdx]
        simp only [positionComparison, Choice.key, Bool.not_eq_true', beq_eq_false_iff_ne]
        intro hkey
        exact hj.ne (showInt_injective hkey)
  rw [isCorrect_eq, hfind]
  cases (scoringOutcomes outcomes)[choice.index]? with
  | none => simp
  | some o => simp [positionComparison]

end QuestionBank.Scoring
