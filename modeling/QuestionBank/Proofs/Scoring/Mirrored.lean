import QuestionBank.Proofs.Conversion.Distractors
import QuestionBank.Proofs.Scoring.Aggregated

/-!
# Matches as mirrors of rules

The matches of an outcome set are the alternatives of its rules, rule by rule. No stem has two
rules and no rule is empty, so the stems that are read off the matches are those of the set, and
the matches that are found for a stem are the alternatives of its rule, one to one and in order.
What no match takes is left over.
-/

namespace QuestionBank.Scoring

open QuestionBank.Condition QuestionBank.Text

variable {question : Option String} {outcomes : List Outcome} {set : OutcomeSet}
  {rules : List StemRule} {right : Option Outcome}

/-! ## The outcome that counts -/

/-- A set is combined and has the right outcome, or there is no right outcome. -/
theorem mode_of_aggregate (h : aggregate question outcomes = .ok set) :
    (∃ o, IsRightOutcome outcomes o ∧ set.mode = .combined ∧ set.right = some o) ∨
      ((∀ o, ¬ IsRightOutcome outcomes o) ∧ set.mode = .perStem ∧ set.right = none) := by
  unfold aggregate at h
  dsimp only at h
  obtain ⟨stems, -, rfl⟩ := Traversal.map_eq_ok_iff.mp h
  cases hright : (without (catchAllIndex? outcomes) outcomes).find? Outcome.isRight with
  | some o => exact .inl ⟨o, isRightOutcome_of_find? hright, rfl, rfl⟩
  | none => exact .inr ⟨not_isRightOutcome_of_find? hright, rfl, rfl⟩

/-- A set that is not combined has no right outcome. -/
theorem right_of_perStem (h : aggregate question outcomes = .ok set)
    (hmode : set.mode = .perStem) : (∀ o, ¬ IsRightOutcome outcomes o) ∧ set.right = none := by
  rcases mode_of_aggregate h with ⟨o, -, hcombined, -⟩ | ⟨hnone, -, hset⟩
  · rw [hmode] at hcombined
    cases hcombined
  · exact ⟨hnone, hset⟩

/-- The outcome that an alternative scores as: the right one in a combined set, and the one that
offers it otherwise. -/
inductive ScoresAs (outcomes : List Outcome) (set : OutcomeSet) (a : Alternative) :
    Outcome → Prop
  | combined {right : Outcome} (hmode : set.mode = .combined) (hset : set.right = some right)
      (hright : IsRightOutcome outcomes right) : ScoresAs outcomes set a right
  | perStem (hmode : set.mode = .perStem) : ScoresAs outcomes set a a.outcome

theorem scoresAs_of_aggregate (h : aggregate question outcomes = .ok set) (a : Alternative) :
    ScoresAs outcomes set a (set.right.getD a.outcome) := by
  rcases mode_of_aggregate h with ⟨o, hright, hmode, hset⟩ | ⟨-, hmode, hset⟩
  · rw [hset]
    exact .combined hmode hset hright
  · rw [hset]
    exact .perStem hmode

/-! ## The match of an alternative -/

/-- A match says for a stem what an alternative says. -/
structure Mirrors (outcomes : List Outcome) (set : OutcomeSet) (stem : String) (a : Alternative)
    (m : Match) : Prop where
  stem_eq : m.stem = stem
  answer_eq : m.answer = a.comparison.right
  caseSensitive_eq : m.caseSensitive = a.comparison.caseSensitive
  operator_eq : m.operator = a.comparison.operator
  scored : ∃ o, ScoresAs outcomes set a o ∧ m.score = o.score ∧ m.feedback = o.feedback

theorem mirrors_matchOf (h : aggregate question outcomes = .ok set) (stem : String)
    (a : Alternative) : Mirrors outcomes set stem a (matchOf set.right stem a) where
  stem_eq := rfl
  answer_eq := rfl
  caseSensitive_eq := rfl
  operator_eq := rfl
  scored := ⟨_, scoresAs_of_aggregate h a, rfl, rfl⟩

/-! ## The stems of matches -/

theorem alternativesOf_of_notMem {stem : String} (h : stem ∉ rules.map StemRule.stem) :
    alternativesOf stem rules = [] := by
  have hnone : rules.find? (fun rule => rule.stem == stem) = none := by
    rw [List.find?_eq_none]
    rintro rule hrule heq
    exact h (List.mem_map.mpr ⟨rule, hrule, beq_iff_eq.mp heq⟩)
  rw [alternativesOf, hnone]
  rfl

/-- The matches of rules. -/
def matchesOf (right : Option Outcome) (rules : List StemRule) : List Match :=
  rules.flatMap fun rule => rule.alternatives.map (matchOf right rule.stem)

theorem matchesOf_cons (rule : StemRule) :
    matchesOf right (rule :: rules) =
      rule.alternatives.map (matchOf right rule.stem) ++ matchesOf right rules :=
  List.flatMap_cons

/-- All matches of a rule are for its stem. -/
theorem map_stem_matchOf (stem : String) (alternatives : List Alternative) :
    (alternatives.map (matchOf right stem)).map Match.stem =
      List.replicate alternatives.length stem := by
  rw [List.map_map]
  exact List.map_const

/-- The stems of matches are those of their rules, if no stem has two rules and no rule is
empty. -/
theorem firstOfEach_matchesOf (hrules : Alternated rules)
    (hnodup : (rules.map StemRule.stem).Nodup) :
    firstOfEach id ((matchesOf right rules).map Match.stem) = rules.map StemRule.stem := by
  induction rules with
  | nil => rfl
  | cons rule rules ih =>
      obtain ⟨hrule, hrules⟩ := List.forall_mem_cons.mp hrules
      obtain ⟨n, hn⟩ := Nat.exists_eq_succ_of_ne_zero (mt List.length_eq_zero_iff.mp hrule)
      rw [List.map_cons, List.nodup_cons] at hnodup
      -- the first match of the rule gives its stem, and no other rule has this stem
      have hother : (rules.map StemRule.stem).filter
          (fun stem => id stem ∉ (List.replicate (n + 1) rule.stem).map id) =
            rules.map StemRule.stem := by
        rw [List.filter_eq_self]
        intro stem hstem
        have hne : stem ≠ rule.stem := fun heq => hnodup.1 (heq ▸ hstem)
        simp [hne]
      rw [matchesOf_cons, List.map_append, map_stem_matchOf, hn, firstOfEach_append,
        firstOfEach_replicate, ih hrules hnodup.2, hother]
      rfl

theorem filter_map_matchOf (stem stem' : String) (alternatives : List Alternative) :
    (alternatives.map (matchOf right stem)).filter (fun m => m.stem == stem') =
      if stem = stem' then alternatives.map (matchOf right stem) else [] := by
  have hstem : ((fun m : Match => m.stem == stem') ∘ matchOf right stem) =
      fun _ => decide (stem = stem') := by
    funext a
    exact beq_eq_decide stem stem'
  rw [List.filter_map, hstem]
  by_cases h : stem = stem'
  · rw [if_pos h, decide_eq_true h, List.filter_true]
  · rw [if_neg h, decide_eq_false h, List.filter_false, List.map_nil]

/-- The matches of a stem are those of its alternatives, if no stem has two rules. -/
theorem filter_matchesOf (hnodup : (rules.map StemRule.stem).Nodup) (stem : String) :
    (matchesOf right rules).filter (fun m => m.stem == stem) =
      (alternativesOf stem rules).map (matchOf right stem) := by
  induction rules with
  | nil => rfl
  | cons rule rules ih =>
      rw [List.map_cons, List.nodup_cons] at hnodup
      rw [matchesOf_cons, List.filter_append, filter_map_matchOf, ih hnodup.2,
        alternativesOf_cons]
      by_cases h : rule.stem = stem
      · subst h
        rw [if_pos rfl, if_pos rfl, alternativesOf_of_notMem hnodup.1, List.map_nil,
          List.append_nil]
      · rw [if_neg h, if_neg h, List.nil_append]

/-! ## The mirrored rules -/

/-- Matches mirror the rules of a set: they have its stems in the same order, those of a stem
are its alternatives one to one and in order, and all of them are those of one stem after
another. Left over are the choices that no match takes, in their order. -/
structure Mirrored (outcomes : List Outcome) (set : OutcomeSet) (choices : List Choice)
    (r : MatchResult) : Prop where
  stemIds_eq : r.stemIds = set.stemIds
  matchesFor : ∀ rule ∈ set.stems,
    List.Forall₂ (Mirrors outcomes set rule.stem) rule.alternatives (r.matchesFor rule.stem)
  found_eq : r.found = r.stemIds.flatMap r.matchesFor
  residual_eq : r.residual = choices.filter fun c => ∀ m ∈ r.found, ¬ m.Takes c.content

theorem mirrored_synthesizeMatches (h : aggregate question outcomes = .ok set)
    (choices : List Choice) : Mirrored outcomes set choices (synthesizeMatches set choices) := by
  have hstemIds : (synthesizeMatches set choices).stemIds = set.stemIds := by
    rw [MatchResult.stemIds_eq_firstOfEach]
    exact firstOfEach_matchesOf (aggregate_alternated h) (nodup_stemIds h)
  have hmatches : ∀ rule ∈ set.stems, (synthesizeMatches set choices).matchesFor rule.stem =
      rule.alternatives.map (matchOf set.right rule.stem) := by
    intro rule hrule
    rw [← alternativesOf_of_mem (nodup_stemIds h) hrule]
    exact filter_matchesOf (nodup_stemIds h) rule.stem
  constructor
  · exact hstemIds
  · intro rule hrule
    rw [hmatches rule hrule, List.forall₂_map_right_iff, List.forall₂_same]
    exact fun a _ => mirrors_matchOf h rule.stem a
  · rw [hstemIds, OutcomeSet.stemIds, List.flatMap_map]
    exact (List.flatMap_congr hmatches).symm
  · apply List.filter_congr
    intro choice _
    rw [Bool.eq_iff_iff, Bool.not_eq_true', List.any_eq_false, decide_eq_true_iff]
    simp only [Match.consumes_iff]
    rfl

end QuestionBank.Scoring
