import QuestionBank.Proofs.Number.Signs
import QuestionBank.Proofs.Scoring.FirstOfEach
import QuestionBank.Proofs.Text.Lower
import QuestionBank.Proofs.Traversal

/-!
# The alternatives of a stem

Outcomes are collected stem by stem. A stem has the alternatives that the outcomes offer for
it, in their order, but without those whose answer differs from an earlier one in letter case
only; what else a comparison says is not looked at. Where every outcome is numbered, all of
them are collected.
-/

namespace QuestionBank.Scoring

open QuestionBank.Condition QuestionBank.Text

/-! ## Repeated alternatives -/

/-- The accepted answer without letter case. -/
def Alternative.foldedText (a : Alternative) : String := fold a.text

/-- An alternative repeats one of the same answer up to letter case. -/
theorem any_repeats_iff {kept : List Alternative} {a : Alternative} :
    (kept.any (·.repeats a.comparison)) = true ↔
      a.foldedText ∈ kept.map Alternative.foldedText := by
  simp [Alternative.repeats, Alternative.foldedText, Alternative.text]

/-! ## Rules of stems -/

/-- The alternatives of a stem among rules. -/
def alternativesOf (stem : String) (rules : List StemRule) : List Alternative :=
  ((rules.find? fun rule => rule.stem == stem).map StemRule.alternatives).getD []

theorem alternativesOf_cons (stem : String) (rule : StemRule) (rules : List StemRule) :
    alternativesOf stem (rule :: rules) =
      if rule.stem = stem then rule.alternatives else alternativesOf stem rules := by
  by_cases h : rule.stem = stem <;> simp [alternativesOf, h]

/-- An alternative is added to the stem that it names, and to no other. -/
theorem alternativesOf_addAlternative (stem : String) (c : Comparison) (o : Outcome)
    (rules : List StemRule) :
    alternativesOf stem (addAlternative c o rules) =
      if c.left = stem then addNew Alternative.foldedText (alternativesOf stem rules) ⟨c, o⟩
      else alternativesOf stem rules := by
  induction rules with
  | nil => rw [addAlternative, alternativesOf_cons]; rfl
  | cons rule rules ih =>
      rw [addAlternative, alternativesOf_cons]
      by_cases hrule : rule.stem = c.left
      · rw [if_pos hrule]
        by_cases hstem : c.left = stem
        · subst hstem
          simp only [if_true, if_pos hrule, addNew, ← any_repeats_iff]
          split <;> rw [alternativesOf_cons, if_pos hrule]
        · have hother : rule.stem ≠ stem := hrule ▸ hstem
          rw [if_neg hstem, if_neg hother]
          split <;> rw [alternativesOf_cons, if_neg hother]
      · rw [if_neg hrule, alternativesOf_cons, ih]
        by_cases hstem : rule.stem = stem
        · have hother : c.left ≠ stem := fun h => hrule (hstem.trans h.symm)
          rw [if_pos hstem, if_neg hother, if_pos hstem]
        · rw [if_neg hstem, if_neg hstem]

/-- The alternatives that an outcome offers: the comparisons of its condition that are not
negated. -/
def offers (o : Outcome) (e : Expression) : List Alternative :=
  (affirmed e).map fun c => ⟨c, o⟩

/-- The alternatives for a stem. -/
def forStem (stem : String) (alternatives : List Alternative) : List Alternative :=
  alternatives.filter fun a => a.comparison.left == stem

theorem forStem_append (stem : String) (l m : List Alternative) :
    forStem stem (l ++ m) = forStem stem l ++ forStem stem m := List.filter_append ..

theorem alternativesOf_collect (stem : String) (o : Outcome) (e : Expression)
    (rules : List StemRule) :
    alternativesOf stem (collect o e rules) =
      (forStem stem (offers o e)).foldl (addNew Alternative.foldedText)
        (alternativesOf stem rules) := by
  unfold collect offers forStem
  induction affirmed e generalizing rules with
  | nil => rfl
  | cons c cs ih =>
      rw [List.foldl_cons, ih, alternativesOf_addAlternative, List.map_cons]
      by_cases hstem : c.left = stem <;> simp [hstem]

/-- Outcomes whose conditions are read are collected, and each stem has what they offer for it
behind what it had before. -/
theorem alternativesOf_collectAll {question : Option String} {sources : List Outcome}
    {es : List Expression}
    (h : List.Forall₂ (fun o e => conditionOf question o = .ok e) sources es)
    (rules : List StemRule) :
    ∃ stems, collectAll question sources rules = .ok stems ∧
      ∀ stem, alternativesOf stem stems =
        (forStem stem (List.zipWith offers sources es).flatten).foldl
          (addNew Alternative.foldedText) (alternativesOf stem rules) := by
  induction h generalizing rules with
  | nil => exact ⟨rules, rfl, fun _ => rfl⟩
  | @cons o e sources es he _ ih =>
      obtain ⟨stems, hstems, halternatives⟩ := ih (collect o e rules)
      refine ⟨stems, by rw [collectAll, he]; exact hstems, fun stem => ?_⟩
      rw [halternatives, alternativesOf_collect, List.zipWith_cons_cons, List.flatten_cons,
        forStem_append, List.foldl_append]

/-- **A stem has the alternatives that are offered for it, but for repeated ones.** Of what
outcomes offer for a stem, it has the first alternative of each answer, in order. -/
theorem collectAll_alternatives {question : Option String} {sources : List Outcome}
    {es : List Expression}
    (h : List.Forall₂ (fun o e => conditionOf question o = .ok e) sources es) :
    ∃ stems, collectAll question sources [] = .ok stems ∧
      ∀ stem, alternativesOf stem stems =
        firstOfEach Alternative.foldedText
          (forStem stem (List.zipWith offers sources es).flatten) := by
  obtain ⟨stems, hstems, halternatives⟩ := alternativesOf_collectAll h []
  refine ⟨stems, hstems, fun stem => ?_⟩
  rw [halternatives]
  exact foldl_addNew_nil _ _

/-- The rule of a stem with alternatives. -/
theorem ruleFor_of_alternatives {set : OutcomeSet} {stem : String}
    (h : alternativesOf stem set.stems ≠ []) :
    set.ruleFor stem = .ok ⟨stem, alternativesOf stem set.stems⟩ := by
  unfold alternativesOf at h ⊢
  unfold OutcomeSet.ruleFor
  cases hfind : set.stems.find? fun rule => rule.stem == stem with
  | none =>
      rw [hfind] at h
      exact absurd rfl h
  | some rule =>
      obtain rfl : rule.stem = stem := by simpa using List.find?_some hfind
      rfl

/-! ## Numbered outcomes -/

theorem not_isDigit_of_isAlpha {c : Char} (h : c.isAlpha = true) : isDigit c = false :=
  of_ascii (P := fun c => c.isAlpha = true → isDigit c = false) (by decide +kernel)
    (toNat_of_isAlpha h).2 h

/-- The name of a numbered outcome is no word. -/
theorem plainId_ne_of_isNumbered {o : Outcome} (h : o.isNumbered = true) {c : Char}
    {r : List Char} (hc : c.isAlpha = true) : o.plainId ≠ String.ofList (c :: r) := by
  intro hword
  rw [Outcome.plainId, lowerAscii, String.ofList_inj] at hword
  unfold Outcome.isNumbered at h
  dsimp only at h
  cases hid : (strip o.id).toList with
  | nil =>
      rw [hid] at hword
      cases hword
  | cons d s =>
      rw [hid] at h hword
      have hd : d.isAlpha = true := Number.isAlpha_of_toLower ((List.cons.inj hword).1 ▸ hc)
      by_cases hspace : d = ' '
      · subst hspace
        exact absurd hd (by decide)
      · simp [hspace, not_isDigit_of_isAlpha hd] at h

/-- Numbered outcomes with conditions of their own are all collected. -/
theorem aggregate_numbered (question : Option String) {outcomes : List Outcome}
    (hnumbered : ∀ o ∈ outcomes, o.isNumbered = true) (hother : ∀ o ∈ outcomes, o.isOther = false) :
    aggregate question outcomes = (collectAll question outcomes []).map fun stems =>
      { mode := .perStem, stems, right := none, catchAll := none
        general := outcomes.find? Outcome.isAlways } := by
  have hword {o : Outcome} (ho : o ∈ outcomes) {c : Char} {r : List Char} (hc : c.isAlpha = true) :
      (o.plainId == String.ofList (c :: r)) = false :=
    beq_false_of_ne (plainId_ne_of_isNumbered (hnumbered o ho) hc)
  have hcatchAll : catchAllIndex? outcomes = none := by
    have hwrong : outcomes.findIdx? Outcome.isWrong = none := by
      rw [List.findIdx?_eq_none_iff]
      exact fun o ho => hword ho (c := 'w') (r := ['r', 'o', 'n', 'g']) (by decide)
    have hlast : outcomes.reverse.findIdx? (fun o => o.isOther && o.score == 0) = none := by
      rw [List.findIdx?_eq_none_iff]
      intro o ho
      rw [hother o (List.mem_reverse.mp ho), Bool.false_and]
    rw [catchAllIndex?, hwrong, hlast]
    rfl
  have hwithout : without none outcomes = outcomes := by
    have hall : (outcomes.zipIdx.filter fun entry => some entry.2 != none) = outcomes.zipIdx :=
      List.filter_eq_self.mpr fun _ _ => rfl
    rw [without, hall, List.zipIdx_map_fst]
  have hright : outcomes.find? Outcome.isRight = none := by
    rw [List.find?_eq_none]
    intro o ho
    rw [Outcome.isRight, hword ho (c := 'r') (r := ['i', 'g', 'h', 't']) (by decide)]
    exact Bool.false_ne_true
  have hsources : (outcomes.filter fun o => o.isNumbered && !o.isOther) = outcomes := by
    rw [List.filter_eq_self]
    intro o ho
    rw [hnumbered o ho, hother o ho]
    rfl
  unfold aggregate findCatchAll
  simp only [hcatchAll, hwithout, hright, hsources]
  rfl

end QuestionBank.Scoring
