import QuestionBank.Proofs.Condition.Printed
import QuestionBank.Proofs.Number.Order
import QuestionBank.Proofs.Scoring.Collected
import QuestionBank.Proofs.Scoring.Sorted
import QuestionBank.Proofs.Text.Strip

/-!
# Ranges of numbers

Several numbered outcomes may each accept a range of numbers for one stem. A range has two
bounds, and each bound is an alternative of the stem. A bound whose text has been met before,
up to letter case, is not collected again, so a range that shares a bound with an earlier one
is left with one bound or with none. Where no two bounds look alike, every range is an answer.
-/

namespace QuestionBank.Scoring

open QuestionBank.Condition QuestionBank.Text

/-! ## Outcomes with ranges -/

/-- The condition of a number between two bounds. -/
def rangeText (stem low high : String) : String :=
  "\"" ++ stem ++ "\" >= \"" ++ low ++ "\" AND \"" ++ stem ++ "\" <= \"" ++ high ++ "\""

/-- A numbered outcome that accepts the numbers between two bounds for a stem. -/
structure RangeOutcome (stem : String) where
  outcome : Outcome
  lowText : String
  highText : String
  low : Binary64
  high : Binary64
  numbered : outcome.isNumbered = true
  condition : outcome.condition = rangeText stem lowText highText
  readLow : Number.readBinary64? (strip lowText) = some low
  readHigh : Number.readBinary64? (strip highText) = some high
  ordered : low.lt high = true

namespace RangeOutcome

variable {stem : String}

/-- The alternative for the lower bound. -/
def lowAlternative (r : RangeOutcome stem) : Alternative :=
  ⟨⟨stem, .atLeast, r.lowText, false, true⟩, r.outcome⟩

/-- The alternative for the upper bound. -/
def highAlternative (r : RangeOutcome stem) : Alternative :=
  ⟨⟨stem, .atMost, r.highText, false, true⟩, r.outcome⟩

/-- The alternatives that a range offers. -/
def alternatives (r : RangeOutcome stem) : List Alternative := [r.lowAlternative, r.highAlternative]

/-- The expression that the condition stands for. -/
def expression (r : RangeOutcome stem) : Expression :=
  { first := ⟨r.lowAlternative.comparison, [r.highAlternative.comparison]⟩
    source := r.outcome.condition }

/-- The bounds of a range, both of them. -/
def bounds (r : RangeOutcome stem) : Bounds := ⟨r.outcome, some r.low, some r.high⟩

/-- The quotient of the score of a range by the best one is a number. -/
def HasShare (best : Int) (r : RangeOutcome stem) : Prop :=
  Binary64.ofRat (mkRat r.outcome.score best.toNat) ≠
    .infinite (mkRat r.outcome.score best.toNat < 0)

instance (best : Int) (r : RangeOutcome stem) : Decidable (r.HasShare best) :=
  inferInstanceAs (Decidable (¬ _ = _))

/-- The answer that a range stands for: its middle and half its width. -/
def answer (best : Int) (r : RangeOutcome stem) : NumericAnswer :=
  { value := (r.low.add r.high).half
    tolerance := (r.high.sub r.low).half
    fraction := .ofRat (limitShare (mkRat r.outcome.score best.toNat))
    feedback := r.outcome.feedback }

end RangeOutcome

variable {stem : String} {rs : List (RangeOutcome stem)} {question : Option String}
  {set : OutcomeSet} {best : Int}

/-- No two bounds look alike. -/
def SeparateBounds (rs : List (RangeOutcome stem)) : Prop :=
  (rs.flatMap fun r => [fold r.lowText, fold r.highText]).Nodup

instance (rs : List (RangeOutcome stem)) : Decidable (SeparateBounds rs) :=
  inferInstanceAs (Decidable (List.Nodup _))

/-- The best score of several ranges. -/
def bestOf (rs : List (RangeOutcome stem)) : Int := (rs.map fun r => r.outcome.score).max?.getD 0

/-! ## Conditions of ranges -/

/-- What is read as a number holds no quote. -/
theorem quote_notMem_of_readBinary64? {s : String} {x : Binary64}
    (h : Number.readBinary64? (strip s) = some x) : '"' ∉ s.toList := by
  intro hquote
  have hsign := Number.onlyNumberSigns_of_readBinary64? h _ (mem_strip hquote (by decide))
  exact absurd hsign (by decide)

namespace RangeOutcome

variable (r : RangeOutcome stem)

theorem text_expression : r.expression.text = r.outcome.condition := by
  have hlow : r.lowAlternative.comparison.text =
      "\"" ++ stem ++ "\" >= \"" ++ r.lowText ++ "\"" := by
    simp [Comparison.text, Comparison.isReference, lowAlternative, Operator.text,
      String.append_assoc]
  have hhigh : r.highAlternative.comparison.text =
      "\"" ++ stem ++ "\" <= \"" ++ r.highText ++ "\"" := by
    simp [Comparison.text, Comparison.isReference, highAlternative, Operator.text,
      String.append_assoc]
  have htext : r.expression.text =
      r.lowAlternative.comparison.text ++ " AND " ++ r.highAlternative.comparison.text := rfl
  rw [htext, hlow, hhigh, r.condition, ← String.toList_inj]
  simp [rangeText]

/-- The condition of a range is read as its two bounds. -/
theorem conditionOf_outcome (hstem : '"' ∉ stem.toList) (question : Option String) :
    conditionOf question r.outcome = .ok r.expression := by
  have hprintable : r.expression.Printable := by
    intro c hc
    have hcases : c = r.lowAlternative.comparison ∨ c = r.highAlternative.comparison := by
      simpa [Expression.comparisons, Expression.terms, Conjunction.comparisons, expression] using hc
    rcases hcases with rfl | rfl
    · exact ⟨hstem, quote_notMem_of_readBinary64? r.readLow, nofun⟩
    · exact ⟨hstem, quote_notMem_of_readBinary64? r.readHigh, nofun⟩
  have hparse := hprintable.parse_text
  rw [text_expression] at hparse
  exact read_eq_ok_iff.mpr hparse

theorem isOther_outcome : r.outcome.isOther = false := by
  obtain ⟨s, hs⟩ : ∃ s, r.outcome.condition = String.ofList ('"' :: (s ++ ['"'])) := by
    refine ⟨(stem ++ "\" >= \"" ++ r.lowText ++ "\" AND \"" ++ stem ++ "\" <= \"" ++
      r.highText).toList, ?_⟩
    rw [r.condition, ← String.toList_inj]
    simp [rangeText]
  rw [Outcome.isOther, hs, strip_between (by decide) (by decide), upperAscii, String.toList_ofList]
  apply beq_false_of_ne
  intro hother
  have hlist := congrArg String.toList hother
  rw [String.toList_ofList] at hlist
  cases hlist

end RangeOutcome

/-! ## Ranges collected -/

/-- The alternatives of the ranges are those of the stem, but for repeated ones. -/
theorem aggregate_ranges (hstem : '"' ∉ stem.toList) (rs : List (RangeOutcome stem))
    (question : Option String) :
    ∃ set, aggregate question (rs.map fun r => r.outcome) = .ok set ∧ set.mode = .perStem ∧
      set.right = none ∧
      alternativesOf stem set.stems =
        firstOfEach Alternative.foldedText (rs.flatMap RangeOutcome.alternatives) := by
  have hread : List.Forall₂ (fun o e => conditionOf question o = .ok e)
      (rs.map fun r => r.outcome) (rs.map RangeOutcome.expression) := by
    rw [List.forall₂_map_left_iff, List.forall₂_map_right_iff, List.forall₂_same]
    exact fun r _ => r.conditionOf_outcome hstem question
  obtain ⟨stems, hstems, halternatives⟩ := collectAll_alternatives hread
  have hoffers : (List.zipWith offers (rs.map fun r => r.outcome)
      (rs.map RangeOutcome.expression)).flatten = rs.flatMap RangeOutcome.alternatives := by
    rw [List.zipWith_map, List.zipWith_self]
    rfl
  have hforStem : forStem stem (rs.flatMap RangeOutcome.alternatives) =
      rs.flatMap RangeOutcome.alternatives := by
    rw [forStem, List.filter_eq_self]
    intro a ha
    obtain ⟨r, -, hr⟩ := List.mem_flatMap.mp ha
    rcases List.mem_pair.mp hr with rfl | rfl <;> exact beq_self_eq_true stem
  rw [aggregate_numbered question (by simpa using fun r _ => r.numbered)
    (by simpa using fun r _ => r.isOther_outcome), hstems]
  refine ⟨_, rfl, rfl, rfl, ?_⟩
  have hkept := halternatives stem
  rw [hoffers, hforStem] at hkept
  exact hkept

/-! ## Bounds set one after the other -/

/-- The bounds of an outcome are found behind those of others. -/
theorem setBound_append {o : Outcome} {before : List Bounds}
    (h : ∀ b ∈ before, b.outcome.id ≠ o.id) (isLower : Bool) (x : Binary64)
    (bounds : List Bounds) :
    setBound o isLower x (before ++ bounds) = before ++ setBound o isLower x bounds := by
  induction before with
  | nil => rfl
  | cons b before ih =>
      obtain ⟨hb, hbefore⟩ := List.forall_mem_cons.mp h
      rw [List.cons_append, setBound, if_neg hb, ih hbefore, List.cons_append]

/-- A bound that is a number is set for its outcome. -/
theorem sortAlternatives_bound {a : Alternative} {x : Binary64}
    (hx : Number.readBinary64? (strip a.comparison.right) = some x)
    (hrange : a.comparison.operator.isRange = true) (as : List Alternative)
    (bounds : List Bounds) :
    sortAlternatives question set best (a :: as) bounds =
      sortAlternatives question set best as
        (setBound a.outcome a.comparison.operator.isLowerBound x bounds) := by
  have hoperand : operandOf question a = .ok x := by rw [operandOf, hx]
  rw [sortAlternatives, hoperand]
  exact if_pos hrange

/-- The alternatives of ranges with different names leave the bounds of all of them. -/
theorem sortAlternatives_ranges {before : List Bounds}
    (h : (before.map (fun b => b.outcome.id) ++ rs.map fun r => r.outcome.id).Nodup) :
    sortAlternatives question set best (rs.flatMap RangeOutcome.alternatives) before =
      .ok ([], before ++ rs.map RangeOutcome.bounds) := by
  induction rs generalizing before with
  | nil => rw [List.map_nil, List.append_nil]; rfl
  | cons r rs ih =>
      have hbefore : ∀ b ∈ before, b.outcome.id ≠ r.outcome.id := by
        intro b hb
        exact (List.nodup_append.mp h).2.2 _ (List.mem_map_of_mem hb) _ (.head _)
      have hlow : setBound r.outcome true r.low before =
          before ++ [⟨r.outcome, some r.low, none⟩] := by
        have hset := setBound_append hbefore true r.low []
        rwa [List.append_nil] at hset
      have hhigh : setBound r.outcome false r.high (before ++ [⟨r.outcome, some r.low, none⟩]) =
          before ++ [r.bounds] := by
        rw [setBound_append hbefore, setBound, if_pos rfl]
        rfl
      have hrest : ((before ++ [r.bounds]).map (fun b => b.outcome.id) ++
          rs.map fun r => r.outcome.id).Nodup := by
        rw [List.map_append, List.append_assoc]
        exact h
      have hboth : sortAlternatives question set best
          (r.alternatives ++ rs.flatMap RangeOutcome.alternatives) before =
            sortAlternatives question set best (rs.flatMap RangeOutcome.alternatives)
              (setBound r.outcome false r.high (setBound r.outcome true r.low before)) :=
        (sortAlternatives_bound (a := r.lowAlternative) r.readLow rfl _ _).trans
          (sortAlternatives_bound (a := r.highAlternative) r.readHigh rfl _ _)
      rw [List.flatMap_cons, hboth, hlow, hhigh, ih hrest, List.append_assoc, List.map_cons]
      rfl

/-- A range is answered when its share is a number. -/
theorem rangeAnswer_bounds (hmode : set.mode = .perStem) (hright : set.right = none)
    (r : RangeOutcome stem) :
    rangeAnswer question set best r.bounds =
      if r.HasShare best then .ok (r.answer best) else .error (.broken .quotientTooLarge) := by
  have hordered : r.high.lt r.low = false := Binary64.lt_asymm r.ordered
  have hshare : shareOf r.outcome set best =
      if r.HasShare best then .ok (.ofRat (limitShare (mkRat r.outcome.score best.toNat)))
      else .error (.broken .quotientTooLarge) := by
    rw [shareOf, hmode]
    dsimp only
    split
    next hinfinite => exact (if_neg fun hshare => hshare hinfinite).symm
    next hfinite => exact (if_pos hfinite).symm
  simp only [rangeAnswer, RangeOutcome.bounds, hordered, Bool.false_eq_true, if_false, hshare]
  split
  · simp only [Except.map, RangeOutcome.answer, answerFeedback, hright, Option.getD_none]
  · rfl

/-! ## Bounds counted -/

/-- The number of bounds that are set. -/
def Bounds.sides (b : Bounds) : Nat := b.low.isSome.toNat + b.high.isSome.toNat

/-- An alternative sets one bound at most. -/
theorem sides_setBound_le (o : Outcome) (isLower : Bool) (x : Binary64) (bounds : List Bounds) :
    ((setBound o isLower x bounds).map Bounds.sides).sum ≤ (bounds.map Bounds.sides).sum + 1 := by
  induction bounds with
  | nil => cases isLower <;> exact Nat.le_refl 1
  | cons b bounds ih =>
      rw [setBound]
      split
      · have hb : (if isLower then (⟨o, some x, b.high⟩ : Bounds) else ⟨o, b.low, some x⟩).sides ≤
            b.sides + 1 := by
          have hlow := Bool.toNat_le b.low.isSome
          have hhigh := Bool.toNat_le b.high.isSome
          cases isLower <;>
            simp only [Bounds.sides, if_true, Bool.false_eq_true, if_false, Option.isSome_some,
              Bool.toNat_true] <;>
            omega
        simp only [List.map_cons, List.sum_cons]
        omega
      · simp only [List.map_cons, List.sum_cons]
        omega

/-- Bounds only leave no value and set no more bounds than there are alternatives. -/
theorem Sorts.sides_le {alternatives : List Alternative} {bounds bounds' : List Bounds}
    {values : List NumericAnswer}
    (hrange : ∀ a ∈ alternatives, a.comparison.operator.isRange = true)
    (h : Sorts question set best alternatives bounds values bounds') :
    values = [] ∧
      (bounds'.map Bounds.sides).sum ≤ (bounds.map Bounds.sides).sum + alternatives.length := by
  induction h with
  | done bounds => exact ⟨rfl, Nat.le_refl _⟩
  | @bound a _ x bounds _ _ _ _ _ ih =>
      obtain ⟨hvalues, hsides⟩ := ih (List.forall_mem_cons.mp hrange).2
      have hset := sides_setBound_le a.outcome a.comparison.operator.isLowerBound x bounds
      refine ⟨hvalues, ?_⟩
      rw [List.length_cons]
      omega
  | @value a _ _ _ _ _ _ _ hvalue =>
      rw [hrange a (.head _)] at hvalue
      cases hvalue

/-- A range that is answered has both bounds. -/
theorem sides_of_rangeAnswer {b : Bounds} {answer : NumericAnswer}
    (h : rangeAnswer question set best b = .ok answer) : b.sides = 2 := by
  unfold rangeAnswer at h
  split at h
  next hlow hhigh => rw [Bounds.sides, hlow, hhigh]; rfl
  · cases h

/-- Answers from bounds only take two alternatives each. -/
theorem two_mul_length_le {rule : StemRule} {answers : List NumericAnswer} {ranged : Bool}
    (hrange : ∀ a ∈ rule.alternatives, a.comparison.operator.isRange = true)
    (h : numericAnswers question rule set = .ok (answers, ranged)) :
    2 * answers.length ≤ rule.alternatives.length := by
  obtain ⟨values, bounds, ranges, hsorts, hranges, rfl⟩ := numericAnswers_eq_ok h
  obtain ⟨rfl, hsides⟩ := hsorts.sides_le hrange
  have htwo : bounds.map Bounds.sides = List.replicate bounds.length 2 := by
    rw [List.eq_replicate_iff, List.length_map]
    refine ⟨rfl, ?_⟩
    intro n hn
    obtain ⟨b, hb, rfl⟩ := List.mem_map.mp hn
    obtain ⟨answer, -, hanswer⟩ := Traversal.exists_of_mem_left hranges hb
    exact sides_of_rangeAnswer hanswer
  rw [htwo, List.sum_replicate_nat, List.map_nil, List.sum_nil] at hsides
  rw [List.nil_append, ← hranges.length_eq]
  simpa [Nat.mul_comm] using hsides

theorem length_alternatives (rs : List (RangeOutcome stem)) :
    (rs.flatMap RangeOutcome.alternatives).length = 2 * rs.length := by
  induction rs with
  | nil => rfl
  | cons r rs ih =>
      rw [List.flatMap_cons, List.length_append, ih, List.length_cons, RangeOutcome.alternatives,
        List.length_cons, List.length_singleton]
      omega

/-- Whatever is kept of ranges is a bound. -/
theorem isRange_of_mem_kept (rs : List (RangeOutcome stem)) :
    ∀ a ∈ firstOfEach Alternative.foldedText (rs.flatMap RangeOutcome.alternatives),
      a.comparison.operator.isRange = true := by
  intro a ha
  obtain ⟨r, -, hr⟩ := List.mem_flatMap.mp ((firstOfEach_sublist _ _).subset ha)
  rcases List.mem_pair.mp hr with rfl | rfl <;> rfl

/-! ## Ranges answered -/

/-- Without a right outcome, the best score is that of the best alternative. -/
theorem bestScore_eq {rule : StemRule} (hright : set.right = none) :
    bestScore rule set = (rule.alternatives.map fun a => a.outcome.score).max?.getD 0 := by
  unfold bestScore
  rw [hright]
  dsimp only
  cases rule.alternatives.map fun a => a.outcome.score with
  | nil => rfl
  | cons s scores => rw [List.max?_cons']; rfl

/-- Both alternatives of a range score as the range. -/
theorem max?_alternatives (rs : List (RangeOutcome stem)) :
    ((rs.flatMap RangeOutcome.alternatives).map fun a => a.outcome.score).max? =
      (rs.map fun r => r.outcome.score).max? := by
  have hmem (score : Int) :
      score ∈ (rs.flatMap RangeOutcome.alternatives).map (fun a => a.outcome.score) ↔
        score ∈ rs.map fun r => r.outcome.score := by
    have hpair (r : RangeOutcome stem) :
        r.alternatives.map (fun a => a.outcome.score) = [r.outcome.score, r.outcome.score] := rfl
    rw [List.map_flatMap]
    simp [hpair, eq_comm]
  refine Option.ext fun score => ?_
  simp only [List.max?_eq_some_iff, hmem]

theorem bestOf_pos (h : ∃ r ∈ rs, 0 < r.outcome.score) : 0 < bestOf rs := by
  obtain ⟨r, hr, hpositive⟩ := h
  have hscore : r.outcome.score ∈ rs.map fun r => r.outcome.score := List.mem_map_of_mem hr
  cases hmax : (rs.map fun r => r.outcome.score).max? with
  | none => exact absurd (List.max?_eq_none_iff.mp hmax) (List.ne_nil_of_mem hscore)
  | some best =>
      have hle := (List.max?_eq_some_iff.mp hmax).2 _ hscore
      rw [bestOf, hmax]
      exact hpositive.trans_le hle

/-- Ranges of which all alternatives are kept are answered one by one. -/
theorem numericAnswers_kept (hright : set.right = none)
    (hids : (rs.map fun r => r.outcome.id).Nodup) (hpositive : ∃ r ∈ rs, 0 < r.outcome.score) :
    numericAnswers question ⟨stem, rs.flatMap RangeOutcome.alternatives⟩ set =
      ((rs.map RangeOutcome.bounds).mapM (rangeAnswer question set (bestOf rs))).map
        fun answers => (answers, true) := by
  have hbest : bestScore ⟨stem, rs.flatMap RangeOutcome.alternatives⟩ set = bestOf rs := by
    rw [bestScore_eq hright, max?_alternatives, bestOf]
  have hsort : sortAlternatives question set (bestOf rs) (rs.flatMap RangeOutcome.alternatives) [] =
      .ok ([], rs.map RangeOutcome.bounds) := sortAlternatives_ranges hids
  have hnonempty : (rs.map RangeOutcome.bounds).isEmpty = false := by
    obtain ⟨r, hr, -⟩ := hpositive
    simpa using List.ne_nil_of_mem hr
  rw [numericAnswers, hbest, if_neg (not_le.mpr (bestOf_pos hpositive)), hsort]
  dsimp only
  rw [hnonempty]
  rfl

/-- **Ranges are all answered just when no two bounds look alike.** Numbered outcomes with
different names that each accept a range for one stem, and of which one has a positive score,
are collected, and the stem has a rule. If no two bounds look alike and the quotients of the
scores are numbers, then each range has its answer, in order. Otherwise there are not as many
answers as ranges. -/
theorem numericAnswers_ranges (question : Option String) (rs : List (RangeOutcome stem))
    (hstem : '"' ∉ stem.toList) (hids : (rs.map fun r => r.outcome.id).Nodup)
    (hpositive : ∃ r ∈ rs, 0 < r.outcome.score) :
    ∃ set rule, aggregate question (rs.map fun r => r.outcome) = .ok set ∧
      set.ruleFor stem = .ok rule ∧
      (SeparateBounds rs ∧ (∀ r ∈ rs, r.HasShare (bestOf rs)) →
        numericAnswers question rule set = .ok (rs.map (RangeOutcome.answer (bestOf rs)), true)) ∧
      (¬ (SeparateBounds rs ∧ ∀ r ∈ rs, r.HasShare (bestOf rs)) →
        ∀ answers ranged, numericAnswers question rule set = .ok (answers, ranged) →
          answers.length ≠ rs.length) := by
  obtain ⟨set, hset, hmode, hright, halternatives⟩ := aggregate_ranges hstem rs question
  have hseparate : SeparateBounds rs ↔
      ((rs.flatMap RangeOutcome.alternatives).map Alternative.foldedText).Nodup := by
    rw [SeparateBounds, List.map_flatMap]
    rfl
  have hrule : set.ruleFor stem =
      .ok ⟨stem, firstOfEach Alternative.foldedText (rs.flatMap RangeOutcome.alternatives)⟩ := by
    have hne : rs.flatMap RangeOutcome.alternatives ≠ [] := by
      obtain ⟨r, hr, -⟩ := hpositive
      exact List.ne_nil_of_mem (List.mem_flatMap.mpr ⟨r, hr, .head _⟩)
    rw [ruleFor_of_alternatives (halternatives ▸ firstOfEach_ne_nil _ hne), halternatives]
  have hkept (hbounds : SeparateBounds rs) :
      firstOfEach Alternative.foldedText (rs.flatMap RangeOutcome.alternatives) =
        rs.flatMap RangeOutcome.alternatives :=
    firstOfEach_eq_self (hseparate.mp hbounds)
  refine ⟨set, _, hset, hrule, ?_, ?_⟩
  · rintro ⟨hbounds, hshares⟩
    have hranges : (rs.map RangeOutcome.bounds).mapM (rangeAnswer question set (bestOf rs)) =
        .ok (rs.map (RangeOutcome.answer (bestOf rs))) := by
      rw [Traversal.mapM_eq_ok_iff, List.forall₂_map_left_iff, List.forall₂_map_right_iff,
        List.forall₂_same]
      intro r hr
      rw [rangeAnswer_bounds hmode hright, if_pos (hshares r hr)]
    rw [hkept hbounds, numericAnswers_kept hright hids hpositive, hranges]
    rfl
  · intro hnot answers ranged hok hlength
    have hbounds : SeparateBounds rs := by
      by_contra hrepeated
      have hfewer := length_firstOfEach_lt _ (mt hseparate.mpr hrepeated)
      have htwo := two_mul_length_le (isRange_of_mem_kept rs) hok
      rw [length_alternatives] at hfewer
      dsimp only at htwo
      omega
    refine hnot ⟨hbounds, ?_⟩
    rw [hkept hbounds, numericAnswers_kept hright hids hpositive] at hok
    obtain ⟨ranges, hranges, -⟩ := Traversal.map_eq_ok_iff.mp hok
    rw [Traversal.mapM_eq_ok_iff, List.forall₂_map_left_iff] at hranges
    intro r hr
    obtain ⟨answer, -, hanswer⟩ := Traversal.exists_of_mem_left hranges hr
    by_contra hshare
    rw [rangeAnswer_bounds hmode hright, if_neg hshare] at hanswer
    cases hanswer

/-! ## Ranges that touch -/

section

/-- The bound of exponents is above zero; the numbers below share this proof of it. -/
local instance exponentBound_ne_zero : NeZero 2047 := ⟨by decide⟩

/-- The numbers from one to two. -/
def oneToTwo : RangeOutcome "0" :=
  { outcome := ⟨"0 low", 1, "\"0\" >= \"1\" AND \"0\" <= \"2\"", "low"⟩
    lowText := "1"
    highText := "2"
    low := .one
    high := .finite false 1024 0
    numbered := by decide +kernel
    condition := by decide +kernel
    readLow := by decide +kernel
    readHigh := by decide +kernel
    ordered := by decide +kernel }

/-- The numbers from two to three; the lower bound looks like the upper one before. -/
def twoToThree : RangeOutcome "0" :=
  { outcome := ⟨"0 high", 1, "\"0\" >= \"2\" AND \"0\" <= \"3\"", "high"⟩
    lowText := "2"
    highText := "3"
    low := .finite false 1024 0
    high := .finite false 1024 (1 <<< 51)
    numbered := by decide +kernel
    condition := by decide +kernel
    readLow := by decide +kernel
    readHigh := by decide +kernel
    ordered := by decide +kernel }

end

/-- The same range with its lower bound in another spelling. -/
def pointTwoToThree : RangeOutcome "0" :=
  { twoToThree with
    outcome := ⟨"0 high", 1, "\"0\" >= \"2.0\" AND \"0\" <= \"3\"", "high"⟩
    lowText := "2.0"
    numbered := by decide +kernel
    condition := by decide +kernel
    readLow := by decide +kernel }

/-- Two ranges that touch are both answered if the bound between them is spelled in two ways. -/
theorem numericAnswers_ranges_spelled :
    ∃ set rule, aggregate none ([oneToTwo, pointTwoToThree].map fun r => r.outcome) = .ok set ∧
      set.ruleFor "0" = .ok rule ∧
      numericAnswers none rule set =
        .ok ([⟨.finite false 1023 (1 <<< 51), .finite false 1022 0, .one, "low"⟩,
          ⟨.finite false 1024 (1 <<< 50), .finite false 1022 0, .one, "high"⟩], true) := by
  obtain ⟨set, rule, hset, hrule, hall, -⟩ :=
    numericAnswers_ranges none [oneToTwo, pointTwoToThree] (by decide) (by decide)
      ⟨oneToTwo, .head _, by decide⟩
  refine ⟨set, rule, hset, hrule, ?_⟩
  rw [hall ⟨by decide +kernel, by decide +kernel⟩]
  decide +kernel

/-- **Ranges that touch may lose a bound.** Not all numbered outcomes with ranges for one stem
are answered range by range: here the bound between the ranges is collected once only, so that
the upper range has no lower bound. -/
theorem not_forall_ranges_answered :
    ¬ ∀ (stem : String) (rs : List (RangeOutcome stem)), '"' ∉ stem.toList →
      (rs.map fun r => r.outcome.id).Nodup → (∃ r ∈ rs, 0 < r.outcome.score) →
      ∃ set rule answers, aggregate none (rs.map fun r => r.outcome) = .ok set ∧
        set.ruleFor stem = .ok rule ∧ numericAnswers none rule set = .ok (answers, true) ∧
        List.Forall₂ (fun (r : RangeOutcome stem) a => a.value = (r.low.add r.high).half ∧
          a.tolerance = (r.high.sub r.low).half ∧ a.feedback = r.outcome.feedback) rs answers := by
  intro h
  obtain ⟨set, rule, answers, hset, hrule, hanswers, -⟩ :=
    h "0" [oneToTwo, twoToThree] (by decide) (by decide) ⟨oneToTwo, .head _, by decide⟩
  have hcollected : aggregate none ([oneToTwo, twoToThree].map fun r => r.outcome) =
      .ok ⟨.perStem, [⟨"0", oneToTwo.alternatives ++ [twoToThree.highAlternative]⟩],
        none, none, none⟩ := by decide +kernel
  obtain rfl := Except.ok.inj (hcollected.symm.trans hset)
  cases hrule
  have hopen : numericAnswers none ⟨"0", oneToTwo.alternatives ++ [twoToThree.highAlternative]⟩
      ⟨.perStem, [⟨"0", oneToTwo.alternatives ++ [twoToThree.highAlternative]⟩], none, none, none⟩ =
      .error (.failed ⟨.condition .openRange twoToThree.outcome.condition (some "0 high"),
        none⟩) := by decide +kernel
  cases hopen.symm.trans hanswers

end QuestionBank.Scoring
