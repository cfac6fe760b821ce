import QuestionBank.Proofs.Scoring.Reordered

/-!
# The outcomes that are consulted

Aggregation and the condition for choices tell in different ways which outcomes count. For the
one, an outcome for all other answers is left out where it is the catch-all outcome of the
question; for the other, wherever it stands. `aggregation` is an aggregation that also says which
outcome it takes for the right one and whose conditions it reads.

Both agree on every list of outcomes, unless an outcome that is taken for the right one is for
all other answers. Then aggregation reads its condition, which is refused.
-/

namespace QuestionBank.Scoring

open QuestionBank.Condition QuestionBank.Text

/-! ## An aggregation with what it consults -/

/-- Collects outcomes and lists those whose conditions are read for it. Nothing is read behind a
condition that is refused. -/
def collection (question : Option String) :
    List Outcome → List StemRule → List Outcome × Except Failure (List StemRule)
  | [], rules => ([], .ok rules)
  | o :: os, rules =>
    match conditionOf question o with
    | .error e => ([o], .error e)
    | .ok expression =>
      let rest := collection question os (collect o expression rules)
      (o :: rest.1, rest.2)

/-- An aggregation: the outcome that is taken for the right one, those whose conditions are read,
in order, and what comes of it. -/
structure Aggregation where
  right : Option Outcome
  consulted : List Outcome
  result : Except Failure OutcomeSet

/-- The aggregation of the outcomes of a question. -/
def aggregation (question : Option String) (outcomes : List Outcome) : Aggregation :=
  let others := without (catchAllIndex? outcomes) outcomes
  let right := others.find? Outcome.isRight
  let sources := match right with
    | some o => [o]
    | none => others.filter fun o => o.isNumbered && !o.isOther
  let collected := collection question sources []
  { right
    consulted := collected.1
    result := collected.2.map fun stems =>
      { mode := if right.isSome then .combined else .perStem
        stems
        right
        catchAll := findCatchAll outcomes
        general := outcomes.find? Outcome.isAlways } }

variable {question : Option String} {outcomes sources : List Outcome} {o : Outcome}

theorem collection_snd (rules : List StemRule) :
    (collection question sources rules).2 = collectAll question sources rules := by
  induction sources generalizing rules with
  | nil => rfl
  | cons o sources ih =>
      rw [collection, collectAll]
      cases conditionOf question o with
      | error failure => rfl
      | ok e => exact ih (collect o e rules)

/-- The outcomes are read in order. -/
theorem prefix_collection_fst (rules : List StemRule) :
    (collection question sources rules).1 <+: sources := by
  induction sources generalizing rules with
  | nil => exact List.prefix_rfl
  | cons o sources ih =>
      rw [collection]
      cases conditionOf question o with
      | error failure => exact ⟨sources, rfl⟩
      | ok e => exact (List.prefix_cons_inj o).mpr (ih (collect o e rules))

/-- The first outcome is read in any case. -/
theorem collection_fst_singleton (rules : List StemRule) :
    (collection question [o] rules).1 = [o] := by
  rw [collection]
  cases conditionOf question o with
  | error failure => rfl
  | ok e => rfl

theorem result_aggregation (question : Option String) (outcomes : List Outcome) :
    (aggregation question outcomes).result = aggregate question outcomes := by
  unfold aggregation aggregate
  exact congrArg (Except.map _) (collection_snd [])

/-! ## The right outcome -/

/-- No two outcomes are the right one. -/
theorem IsRightOutcome.find? (h : IsRightOutcome outcomes o) :
    (without (catchAllIndex? outcomes) outcomes).find? Outcome.isRight = some o := by
  obtain ⟨o', ⟨j, hj, hright', hplace', hbefore'⟩, hfind⟩ := find?_of_isRightOutcome h
  obtain ⟨i, hi, hright, hplace, hbefore⟩ := h
  -- of two places, the earlier one would be the catch-all place
  have hij : i = j := by
    rcases Nat.lt_trichotomy i j with hlt | heq | hlt
    · exact absurd (hbefore' i hlt o hi hright) hplace
    · exact heq
    · exact absurd (hbefore j hlt o' hj hright') hplace'
  rw [hij, hj] at hi
  rw [hfind, hi]

theorem right_aggregation_iff :
    (aggregation question outcomes).right = some o ↔ IsRightOutcome outcomes o :=
  ⟨isRightOutcome_of_find?, IsRightOutcome.find?⟩

/-- An outcome that is named like the right one takes part in scoring unless it is for all other
answers. -/
theorem isScoring_of_isRight (h : o.isRight = true) : o.isScoring = !o.isOther := by
  have halways : o.isAlways = false := by
    rw [Outcome.isRight, beq_iff_eq] at h
    rw [Outcome.isAlways, h]
    rfl
  rw [Outcome.isScoring, Outcome.isCatchAll, isWrong_of_isRight h, halways]
  cases o.isOther <;> simp

theorem isOther_of_mem_scoringOutcomes (h : o ∈ scoringOutcomes outcomes) :
    o.isOther = false := by
  have hscoring : o.isScoring = true := (List.mem_filter.mp h).2
  unfold Outcome.isScoring at hscoring
  simpa using (Bool.and_eq_true_iff.mp hscoring).2

/-- What stands in the catch-all place takes no part in scoring. -/
theorem isScoring_of_catchAllIndex? {i : Nat} (h : catchAllIndex? outcomes = some i)
    (ho : outcomes[i]? = some o) : o.isScoring = false := by
  rcases wrong_or_other_of_catchAllIndex? h ho with hwrong | hother
  · simp [Outcome.isScoring, Outcome.isCatchAll, hwrong]
  · simp [Outcome.isScoring, hother]

/-- Unless it is for all other answers, the right outcome is the first one of its name among those
that take part in scoring. -/
theorem IsRightOutcome.find?_scoringOutcomes (h : IsRightOutcome outcomes o)
    (hother : o.isOther = false) :
    (scoringOutcomes outcomes).find? Outcome.isRight = some o := by
  obtain ⟨i, hi, hright, -, hbefore⟩ := h
  obtain ⟨hlength, rfl⟩ := List.getElem?_eq_some_iff.mp hi
  rw [scoringOutcomes, List.find?_filter, List.find?_eq_some_iff_getElem]
  refine ⟨?_, i, hlength, rfl, fun j hj => ?_⟩
  · rw [isScoring_of_isRight hright, hother, hright]
    rfl
  · rw [Bool.not_eq_true', decide_eq_false_iff_not]
    rintro ⟨hscoring, hright'⟩
    have hat : outcomes[j]? = some outcomes[j] := List.getElem?_eq_getElem _
    rw [isScoring_of_catchAllIndex? (hbefore j hj _ hat hright') hat] at hscoring
    cases hscoring

/-- The right outcome gives the condition for choices. -/
theorem combinedCondition_of_find? (h : (scoringOutcomes outcomes).find? Outcome.isRight = some o) :
    combinedCondition outcomes = .ok o.condition := by
  unfold combinedCondition
  cases hscoring : scoringOutcomes outcomes with
  | nil =>
      rw [hscoring] at h
      cases h
  | cons first others =>
      rw [hscoring] at h
      simp only [h]

/-! ## What is read -/

theorem consulted_of_isRightOutcome (h : IsRightOutcome outcomes o) :
    (aggregation question outcomes).consulted = [o] := by
  unfold aggregation
  simp only [h.find?]
  exact collection_fst_singleton []

/-- Without a right outcome, only the numbered ones that take part in scoring are read. -/
theorem consulted_subset (h : ∀ o, ¬ IsRightOutcome outcomes o) :
    (aggregation question outcomes).consulted ⊆
      (scoringOutcomes outcomes).filter Outcome.isNumbered := by
  unfold aggregation
  simp only [find?_isRight_eq_none_iff.mpr h]
  rw [← numbered_without_catchAll]
  exact (prefix_collection_fst []).subset

/-- Aggregation and the condition for choices agree on the outcomes that count: only conditions of
outcomes that take part in scoring are read, so none for all other answers, and the right outcome
is the one that gives the condition for choices. -/
structure Agreed (question : Option String) (outcomes : List Outcome) : Prop where
  scoring : ∀ o ∈ (aggregation question outcomes).consulted, o ∈ scoringOutcomes outcomes
  notOther : ∀ o ∈ (aggregation question outcomes).consulted, o.isOther = false
  right_iff : ∀ o, (aggregation question outcomes).right = some o ↔
    (scoringOutcomes outcomes).find? Outcome.isRight = some o
  combined : ∀ o, (aggregation question outcomes).right = some o →
    combinedCondition outcomes = .ok o.condition

/-- They agree if the right outcome is not for all other answers. -/
theorem agreed_of_isOther (h : ∀ o, IsRightOutcome outcomes o → o.isOther = false) :
    Agreed question outcomes := by
  have hfound {o : Outcome} (ho : (aggregation question outcomes).right = some o) :
      (scoringOutcomes outcomes).find? Outcome.isRight = some o := by
    rw [right_aggregation_iff] at ho
    exact ho.find?_scoringOutcomes (h o ho)
  have hscoring : ∀ o ∈ (aggregation question outcomes).consulted,
      o ∈ scoringOutcomes outcomes := by
    intro o ho
    by_cases hright : ∃ right, IsRightOutcome outcomes right
    · obtain ⟨right, hright⟩ := hright
      rw [consulted_of_isRightOutcome hright, List.mem_singleton] at ho
      rw [ho]
      exact List.mem_of_find?_eq_some (hright.find?_scoringOutcomes (h right hright))
    · exact (List.mem_filter.mp (consulted_subset (not_exists.mp hright) ho)).1
  refine ⟨hscoring, fun o ho => isOther_of_mem_scoringOutcomes (hscoring o ho), ?_,
    fun o ho => combinedCondition_of_find? (hfound ho)⟩
  refine fun o => ⟨hfound, fun ho => ?_⟩
  -- an outcome that is named like the right one and scores is not in the catch-all place
  cases hright : (aggregation question outcomes).right with
  | some right => rw [← ho, hfound hright]
  | none =>
      have hnone : ∀ right, ¬ IsRightOutcome outcomes right := by
        intro right hr
        have hsome : (aggregation question outcomes).right = some right :=
          right_aggregation_iff.mpr hr
        rw [hright] at hsome
        cases hsome
      have hmem := List.mem_of_find?_eq_some ho
      have hother := isOther_of_isRight hnone (List.mem_filter.mp hmem).1 (List.find?_some ho)
      rw [isOther_of_mem_scoringOutcomes hmem] at hother
      cases hother

/-- **Which conditions are read.** For every list of outcomes, aggregation and the condition for
choices agree on the outcomes that count if and only if no outcome that is taken for the right
one is for all other answers. If there is such an outcome, its condition is the only one that is
read, and it is refused. -/
theorem aggregation_agreed_iff (question : Option String) (outcomes : List Outcome) :
    (aggregation question outcomes).result = aggregate question outcomes ∧
      (Agreed question outcomes ↔
        ∀ o, (aggregation question outcomes).right = some o → o.isOther = false) ∧
      ∀ o, (aggregation question outcomes).right = some o → o.isOther = true →
        (aggregation question outcomes).consulted = [o] ∧
          ∃ pos, aggregate question outcomes =
            .error ⟨.condition (.unexpectedWord (strip o.condition) pos) o.condition (some o.id),
              question⟩ := by
  refine ⟨result_aggregation question outcomes, ⟨fun h o ho => ?_, fun h => ?_⟩, ?_⟩
  · rw [h.right_iff] at ho
    exact isOther_of_mem_scoringOutcomes (List.mem_of_find?_eq_some ho)
  · exact agreed_of_isOther fun o ho => h o (right_aggregation_iff.mpr ho)
  · intro o ho hother
    rw [right_aggregation_iff] at ho
    obtain ⟨pos, hpos⟩ := conditionOf_isOther hother question
    refine ⟨consulted_of_isRightOutcome ho, pos, ?_⟩
    unfold aggregate
    simp only [ho.find?, collectAll, hpos]
    rfl

/-- An outcome for all other answers that is named like the right one, one that counts, and the
catch-all outcome. -/
def otherNamedRight : List Outcome :=
  [⟨"right", 0, "OTHER", ""⟩, ⟨"0 Paris", 1, "\"0\" MATCHES \"Paris\"", ""⟩,
    ⟨"1 other", 0, "OTHER", ""⟩]

/-- They do not always agree. -/
theorem not_forall_agreed : ¬ ∀ question outcomes, Agreed question outcomes := by
  intro h
  have hright : (aggregation none otherNamedRight).right = some otherNamedRight[0] := by
    decide +kernel
  have hscoring := (h none otherNamedRight).right_iff _ |>.mp hright
  have hmem := List.mem_of_find?_eq_some hscoring
  exact absurd (isOther_of_mem_scoringOutcomes hmem) (by decide +kernel)

end QuestionBank.Scoring
