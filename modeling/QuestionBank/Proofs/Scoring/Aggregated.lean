import QuestionBank.Proofs.Scoring.Collected
import QuestionBank.Proofs.Scoring.Sources

/-!
# What is aggregated

The outcomes of a question offer alternatives: those of the condition of the right outcome, or
those of the conditions of all numbered outcomes. The stems are what these alternatives are
for, in the order in which they are first met. The rule of a stem has the first alternative of
each answer, letter case left aside, and nothing else. No rule is empty.
-/

namespace QuestionBank.Scoring

open QuestionBank.Condition QuestionBank.Text

/-! ## The stems and their rules -/

/-- A stem is added behind the others when it is met for the first time. -/
theorem stems_addAlternative (c : Comparison) (o : Outcome) (rules : List StemRule) :
    (addAlternative c o rules).map StemRule.stem =
      addNew id (rules.map StemRule.stem) c.left := by
  induction rules with
  | nil => rfl
  | cons rule rules ih =>
      rw [addAlternative]
      by_cases hrule : rule.stem = c.left
      · rw [if_pos hrule, List.map_cons, addNew_cons_of_eq id hrule.symm]
        split <;> rfl
      · rw [if_neg hrule, List.map_cons, ih, List.map_cons, addNew_cons_of_ne id (Ne.symm hrule)]

theorem stems_collect (o : Outcome) (e : Expression) (rules : List StemRule) :
    (collect o e rules).map StemRule.stem =
      ((offers o e).map fun a => a.comparison.left).foldl (addNew id)
        (rules.map StemRule.stem) := by
  unfold collect offers
  induction affirmed e generalizing rules with
  | nil => rfl
  | cons c cs ih => rw [List.foldl_cons, ih, stems_addAlternative]; rfl

/-- The stems of collected outcomes are those that their alternatives are for. -/
theorem stems_collectAll {question : Option String} {sources : List Outcome}
    {es : List Expression}
    (h : List.Forall₂ (fun o e => conditionOf question o = .ok e) sources es)
    {rules stems : List StemRule} (hok : collectAll question sources rules = .ok stems) :
    stems.map StemRule.stem =
      ((List.zipWith offers sources es).flatten.map fun a => a.comparison.left).foldl
        (addNew id) (rules.map StemRule.stem) := by
  induction h generalizing rules with
  | nil =>
      cases hok
      rfl
  | @cons o e sources es he _ ih =>
      rw [collectAll, he] at hok
      rw [ih hok, stems_collect, List.zipWith_cons_cons, List.flatten_cons, List.map_append,
        List.foldl_append]

/-- Where each stem has one rule, the rule of a stem has its alternatives. -/
theorem alternativesOf_of_mem {rules : List StemRule} (h : (rules.map StemRule.stem).Nodup)
    {rule : StemRule} (hrule : rule ∈ rules) :
    alternativesOf rule.stem rules = rule.alternatives := by
  induction rules with
  | nil => cases hrule
  | cons first rules ih =>
      rw [List.map_cons, List.nodup_cons] at h
      rw [alternativesOf_cons]
      rcases List.mem_cons.mp hrule with rfl | hrule
      · exact if_pos rfl
      · have hother : first.stem ≠ rule.stem := fun heq =>
          h.1 (heq ▸ List.mem_map_of_mem hrule)
        rw [if_neg hother]
        exact ih h.2 hrule

/-- All conditions are read when outcomes are collected. -/
theorem conditions_of_collectAll {question : Option String} {sources : List Outcome}
    {rules stems : List StemRule} (hok : collectAll question sources rules = .ok stems) :
    ∃ es, List.Forall₂ (fun o e => conditionOf question o = .ok e) sources es := by
  induction sources generalizing rules with
  | nil => exact ⟨[], .nil⟩
  | cons o sources ih =>
      rw [collectAll] at hok
      cases he : conditionOf question o with
      | error failure =>
          rw [he] at hok
          cases hok
      | ok e =>
          rw [he] at hok
          obtain ⟨es, hes⟩ := ih hok
          exact ⟨e :: es, .cons he hes⟩

/-! ## The outcomes that count -/

/-- The right outcome is the first one of that name, the catch-all outcome left aside. -/
def IsRightOutcome (outcomes : List Outcome) (o : Outcome) : Prop :=
  ∃ i, outcomes[i]? = some o ∧ o.isRight = true ∧ catchAllIndex? outcomes ≠ some i ∧
    ∀ j < i, ∀ o', outcomes[j]? = some o' → o'.isRight = true →
      catchAllIndex? outcomes = some j

variable {question : Option String} {outcomes : List Outcome} {set : OutcomeSet}

theorem find?_without (place : Option Nat) (outcomes : List Outcome) (p : Outcome → Bool) :
    (without place outcomes).find? p =
      (outcomes.zipIdx.find? fun entry => some entry.2 != place && p entry.1).map Prod.fst := by
  rw [without, List.find?_map, List.find?_filter]
  congr 2
  funext entry
  rw [Bool.decide_and, Bool.decide_eq_true, Bool.decide_eq_true]
  rfl

/-- The outcome that is looked for is the right one. -/
theorem isRightOutcome_of_find? {right : Outcome}
    (h : (without (catchAllIndex? outcomes) outcomes).find? Outcome.isRight = some right) :
    IsRightOutcome outcomes right := by
  rw [find?_without, Option.map_eq_some_iff] at h
  obtain ⟨⟨o, i⟩, hfind, rfl⟩ := h
  obtain ⟨hright, k, hk, hentry, hbefore⟩ := List.find?_eq_some_iff_getElem.mp hfind
  rw [List.getElem_zipIdx, Nat.zero_add, Prod.mk.injEq] at hentry
  obtain ⟨ho, rfl⟩ := hentry
  rw [Bool.and_eq_true, bne_iff_ne] at hright
  refine ⟨k, ?_, hright.2, Ne.symm hright.1, ?_⟩
  · rw [List.length_zipIdx] at hk
    rw [List.getElem?_eq_getElem hk, ho]
  · intro j hj o' ho' hright'
    have hnot := hbefore j hj
    rw [List.getElem?_eq_some_iff] at ho'
    obtain ⟨hlength, rfl⟩ := ho'
    by_contra hplace
    simp [hright', Ne.symm hplace] at hnot

/-- Where none is found there is no right outcome. -/
theorem not_isRightOutcome_of_find?
    (h : (without (catchAllIndex? outcomes) outcomes).find? Outcome.isRight = none)
    (o : Outcome) : ¬ IsRightOutcome outcomes o := by
  rw [find?_without, Option.map_eq_none_iff, List.find?_eq_none] at h
  rintro ⟨i, hi, hright, hplace, -⟩
  have hmem : (o, i) ∈ outcomes.zipIdx := List.mem_zipIdx_iff_getElem?.mpr hi
  apply h _ hmem
  simp [hright, Ne.symm hplace]

/-- In the catch-all place stands an outcome for wrong answers or for all others. -/
theorem wrong_or_other_of_catchAllIndex? {i : Nat} (h : catchAllIndex? outcomes = some i)
    {o : Outcome} (ho : outcomes[i]? = some o) : o.isWrong = true ∨ o.isOther = true := by
  unfold catchAllIndex? at h
  cases hwrong : outcomes.findIdx? Outcome.isWrong with
  | some k =>
      rw [hwrong] at h
      obtain rfl : k = i := Option.some.inj h
      obtain ⟨hk, hat, -⟩ := List.findIdx?_eq_some_iff_getElem.mp hwrong
      rw [List.getElem?_eq_getElem hk, Option.some.injEq] at ho
      exact .inl (ho ▸ hat)
  | none =>
      rw [hwrong] at h
      obtain ⟨k, hlast, rfl⟩ := Option.map_eq_some_iff.mp h
      obtain ⟨hk, hat, -⟩ := List.findIdx?_eq_some_iff_getElem.mp hlast
      rw [List.getElem_reverse] at hat
      rw [List.length_reverse] at hk
      rw [List.getElem?_eq_getElem (by omega), Option.some.injEq] at ho
      rw [ho, Bool.and_eq_true] at hat
      exact .inr hat.1

theorem isWrong_of_isNumbered {o : Outcome} (h : o.isNumbered = true) : o.isWrong = false :=
  beq_false_of_ne (plainId_ne_of_isNumbered h (c := 'w') (r := ['r', 'o', 'n', 'g']) (by decide))

theorem isAlways_of_isNumbered {o : Outcome} (h : o.isNumbered = true) : o.isAlways = false :=
  beq_false_of_ne (plainId_ne_of_isNumbered h (c := 'a') (r := "lways happens".toList) (by decide))

/-- A numbered outcome takes part in scoring unless it is for all other answers. -/
theorem isScoring_of_isNumbered {o : Outcome} (h : o.isNumbered = true) :
    o.isScoring = !o.isOther := by
  rw [Outcome.isScoring, Outcome.isCatchAll, isWrong_of_isNumbered h, isAlways_of_isNumbered h]
  cases o.isOther <;> simp

/-- What does not hold in a place is filtered alike with and without it. -/
theorem filter_without {place : Option Nat} {p : Outcome → Bool}
    (h : ∀ i o, place = some i → outcomes[i]? = some o → p o = false) :
    (without place outcomes).filter p = outcomes.filter p := by
  have hentries : (outcomes.zipIdx.filter fun entry => some entry.2 != place).filter
      (p ∘ Prod.fst) = outcomes.zipIdx.filter (p ∘ Prod.fst) := by
    rw [List.filter_filter]
    apply List.filter_congr
    rintro ⟨o, i⟩ hmem
    by_cases hplace : place = some i
    · have hnot : p o = false := h i o hplace (List.mem_zipIdx_iff_getElem?.mp hmem)
      simp [hnot]
    · simp [Ne.symm hplace]
  rw [without, List.filter_map, hentries, ← List.filter_map, List.zipIdx_map_fst]

/-- The outcomes that are collected one by one are the numbered ones among those that take
part in scoring. -/
theorem numbered_without_catchAll (outcomes : List Outcome) :
    ((without (catchAllIndex? outcomes) outcomes).filter fun o => o.isNumbered && !o.isOther) =
      (scoringOutcomes outcomes).filter Outcome.isNumbered := by
  rw [filter_without, scoringOutcomes, List.filter_filter]
  · apply List.filter_congr
    intro o _
    by_cases hnumbered : o.isNumbered = true
    · rw [isScoring_of_isNumbered hnumbered]
    · rw [Bool.not_eq_true] at hnumbered
      rw [hnumbered, Bool.false_and, Bool.false_and]
  · intro i o hplace ho
    rcases wrong_or_other_of_catchAllIndex? hplace ho with hwrong | hother
    · have hnumbered : o.isNumbered = false := by
        rw [← Bool.not_eq_true]
        intro hnumbered
        rw [isWrong_of_isNumbered hnumbered] at hwrong
        cases hwrong
      rw [hnumbered, Bool.false_and]
    · rw [hother, Bool.not_true, Bool.and_false]

/-! ## The alternatives of a question -/

/-- The alternatives that outcomes offer, in order: those of the right outcome if there is
one, and of the numbered outcomes that take part in scoring otherwise. -/
inductive Offered (question : Option String) (outcomes : List Outcome) :
    Mode → List Alternative → Prop
  | combined {right : Outcome} {e : Expression} (hright : IsRightOutcome outcomes right)
      (hread : conditionOf question right = .ok e) :
      Offered question outcomes .combined (offers right e)
  | perStem {es : List Expression} (hright : ∀ o, ¬ IsRightOutcome outcomes o)
      (hread : List.Forall₂ (fun o e => conditionOf question o = .ok e)
        ((scoringOutcomes outcomes).filter Outcome.isNumbered) es) :
      Offered question outcomes .perStem
        (List.zipWith offers ((scoringOutcomes outcomes).filter Outcome.isNumbered) es).flatten

/-- The rules hold what outcomes with the given conditions offer. -/
theorem rules_of_collectAll {sources : List Outcome} {es : List Expression}
    (hread : List.Forall₂ (fun o e => conditionOf question o = .ok e) sources es)
    {stems : List StemRule} (hok : collectAll question sources [] = .ok stems) :
    stems.map StemRule.stem =
        firstOfEach id ((List.zipWith offers sources es).flatten.map fun a => a.comparison.left) ∧
      ∀ stem, alternativesOf stem stems =
        firstOfEach Alternative.foldedText
          (forStem stem (List.zipWith offers sources es).flatten) := by
  constructor
  · rw [stems_collectAll hread hok]
    exact foldl_addNew_nil _ _
  · intro stem
    obtain ⟨stems', hok', halternatives⟩ := collectAll_alternatives hread
    obtain rfl : stems' = stems := Except.ok.inj (hok'.symm.trans hok)
    exact halternatives stem

/-- An outcome set holds what the outcomes of the question offer. -/
theorem aggregate_offered (h : aggregate question outcomes = .ok set) :
    ∃ offered, Offered question outcomes set.mode offered ∧
      set.stemIds = firstOfEach id (offered.map fun a => a.comparison.left) ∧
      ∀ stem, alternativesOf stem set.stems =
        firstOfEach Alternative.foldedText (forStem stem offered) := by
  unfold aggregate at h
  dsimp only at h
  obtain ⟨stems, hstems, rfl⟩ := Traversal.map_eq_ok_iff.mp h
  cases hright : (without (catchAllIndex? outcomes) outcomes).find? Outcome.isRight with
  | some right =>
      rw [hright] at hstems
      obtain ⟨es, hes⟩ := conditions_of_collectAll hstems
      have hrules := rules_of_collectAll hes hstems
      obtain ⟨e, es, he, hnil, rfl⟩ := List.forall₂_cons_left_iff.mp hes
      obtain rfl := List.forall₂_nil_left_iff.mp hnil
      rw [List.zipWith_cons_cons, List.zipWith_nil_left, List.flatten_cons, List.flatten_nil,
        List.append_nil] at hrules
      exact ⟨offers right e, .combined (isRightOutcome_of_find? hright) he, hrules⟩
  | none =>
      rw [hright] at hstems
      dsimp only at hstems
      rw [numbered_without_catchAll] at hstems
      obtain ⟨es, hes⟩ := conditions_of_collectAll hstems
      exact ⟨_, .perStem (not_isRightOutcome_of_find? hright) hes, rules_of_collectAll hes hstems⟩

/-- A set has one rule for each stem. -/
theorem nodup_stemIds (h : aggregate question outcomes = .ok set) : set.stemIds.Nodup := by
  obtain ⟨offered, -, hids, -⟩ := aggregate_offered h
  rw [hids]
  exact nodup_firstOfEach_id _

/-- **Aggregation loses and repeats nothing.** The stems are those of the alternatives that the
outcomes offer, each once and in the order of their first mention; a stem has the first
alternative for each answer that is offered for it, and it has at least one. -/
theorem aggregate_complete (h : aggregate question outcomes = .ok set) :
    ∃ offered, Offered question outcomes set.mode offered ∧
      set.stemIds = firstOfEach id (offered.map fun a => a.comparison.left) ∧
      ∀ rule ∈ set.stems,
        rule.alternatives = firstOfEach Alternative.foldedText (forStem rule.stem offered) ∧
        rule.alternatives ≠ [] := by
  obtain ⟨offered, hoffered, hids, halternatives⟩ := aggregate_offered h
  refine ⟨offered, hoffered, hids, fun rule hrule => ⟨?_, aggregate_alternated h rule hrule⟩⟩
  rw [← halternatives, alternativesOf_of_mem (nodup_stemIds h) hrule]

/-- Two capitals, of which the first one is accepted in two ways. -/
def capitals : List Outcome :=
  [⟨"0 Paris", 1, "\"0\" MATCHES \"Paris\" OR \"0\" MATCHES NOCASE \"paris\"", ""⟩,
    ⟨"1 Rome", 1, "\"1\" MATCHES \"Rome\" AND NOT \"0\" MATCHES \"Oslo\"", ""⟩,
    ⟨"wrong", 0, "OTHER", ""⟩]

/-- The second way and what is negated are left out. -/
theorem aggregate_complete_capitals :
    ∃ set offered, aggregate none capitals = .ok set ∧
      Offered none capitals set.mode offered ∧
      set.stemIds = firstOfEach id (offered.map fun a => a.comparison.left) ∧
      set.stemIds = ["0", "1"] ∧
      ∀ rule ∈ set.stems,
        rule.alternatives = firstOfEach Alternative.foldedText (forStem rule.stem offered) ∧
        rule.alternatives ≠ [] := by
  have hset : aggregate none capitals = .ok
      { mode := .perStem
        stems :=
          [⟨"0", [⟨⟨"0", .matching, "Paris", false, true⟩, capitals[0]⟩]⟩,
            ⟨"1", [⟨⟨"1", .matching, "Rome", false, true⟩, capitals[1]⟩]⟩]
        right := none
        catchAll := some capitals[2]
        general := none } := by decide +kernel
  obtain ⟨offered, hoffered, hids, hrules⟩ := aggregate_complete hset
  exact ⟨_, offered, hset, hoffered, hids, rfl, hrules⟩

end QuestionBank.Scoring
