import QuestionBank.Proofs.Condition.Bare
import QuestionBank.Proofs.Scoring.Consulted
import QuestionBank.Proofs.Scoring.Credit

/-!
# Conditions that are replaced

The condition that marks every choice is that of one outcome, the key outcome, unless that is not
named for the right answer and its condition is taken for a lone reference. A condition that is
more than a reference is kept, then, unless it is crowded. Where it is, an operator or a second
term is lost: the condition of all scores takes its place.
-/

namespace QuestionBank.Scoring

open QuestionBank.Condition QuestionBank.Text

variable {outcomes others : List Outcome} {first o : Outcome}

/-! ## The key outcome -/

/-- The outcome whose condition marks every choice: the first scoring outcome that is named for the
right answer, or else the first one. -/
def keyOutcome? (outcomes : List Outcome) : Option Outcome :=
  ((scoringOutcomes outcomes).find? Outcome.isRight).or (scoringOutcomes outcomes).head?

theorem exists_scoringOutcomes (h : keyOutcome? outcomes = some o) :
    ∃ first others, scoringOutcomes outcomes = first :: others := by
  rw [keyOutcome?] at h
  cases hscoring : scoringOutcomes outcomes with
  | nil =>
      rw [hscoring] at h
      cases h
  | cons first others => exact ⟨first, others, rfl⟩

/-- The condition of the key outcome marks every choice, unless it is replaced. -/
theorem combinedCondition_of_keyOutcome? (h : keyOutcome? outcomes = some o) :
    combinedCondition outcomes =
      .ok (if o.isRight = false ∧ isBareReference o.condition = true
        then synthesizedCondition outcomes else o.condition) := by
  rw [keyOutcome?] at h
  cases hfind : (scoringOutcomes outcomes).find? Outcome.isRight with
  | some right =>
      rw [hfind, Option.some_or] at h
      cases h
      rw [combinedCondition_of_find? hfind, if_neg]
      rw [List.find?_some hfind]
      exact fun hnone => Bool.noConfusion hnone.1
  | none =>
      rw [hfind, Option.none_or] at h
      obtain ⟨others, hscoring⟩ := List.head?_eq_some_iff.mp h
      have hright : ∀ o ∈ scoringOutcomes outcomes, o.isRight = false := by
        simpa using hfind
      have ho := hright o (by simp [hscoring])
      by_cases hbare : isBareReference o.condition = true
      · rw [combinedCondition_of_bare hscoring hright hbare, if_pos ⟨ho, hbare⟩]
      · rw [if_neg fun h => hbare h.2]
        unfold combinedCondition
        rw [hscoring] at hfind
        simp only [hscoring, hfind, hbare, Bool.false_eq_true, if_false]

/-! ## The condition of all scores is not crowded -/

/-- The term of the first position begins with the word `NOT` or with the quoted position. -/
theorem positionTerm_opening (o : Outcome) :
    ∃ c d r, (positionTerm 0 o).toList = c :: d :: r ∧ isBlank c = false ∧ isDecimal c = false ∧
      d ≠ '"' := by
  have hzero : Number.showInt (0 : Nat) = "0" := by decide +kernel
  rw [positionTerm, hzero]
  split
  · exact ⟨'N', 'O', "T \"0\"".toList, by decide⟩
  · exact ⟨'"', '0', ['"'], by decide⟩

theorem synthesizedCondition_opening (h : scoringOutcomes outcomes = first :: others) :
    ∃ c d r, (synthesizedCondition outcomes).toList = c :: d :: r ∧ isBlank c = false ∧
      isDecimal c = false ∧ d ≠ '"' := by
  obtain ⟨c, d, r, hterm, hopening⟩ := positionTerm_opening first
  rw [synthesizedCondition, h, List.mapIdx_cons]
  cases others.mapIdx fun i => positionTerm (i + 1) with
  | nil => exact ⟨c, d, r, by rw [String.intercalate_singleton, hterm], hopening⟩
  | cons term terms =>
      rw [String.intercalate_cons_cons, String.append_assoc, String.toList_append, hterm]
      exact ⟨c, d, _, rfl, hopening⟩

/-- The condition of all scores is not crowded. -/
theorem not_crowded_synthesizedCondition (h : scoringOutcomes outcomes = first :: others)
    (cs : List Comparison) : ¬ Crowded (strip (synthesizedCondition outcomes)).toList cs := by
  intro hcrowded
  obtain ⟨c, d, r, hr, hblank, hdecimal, hquote⟩ := synthesizedCondition_opening h
  obtain ⟨c', d', t, ht, hopening⟩ := hcrowded.opening
  obtain ⟨before, after, htext, hbefore, -⟩ := exists_strip (synthesizedCondition outcomes)
  rw [hr, ht] at htext
  cases before with
  | nil =>
      obtain ⟨rfl, htail⟩ := List.cons.inj htext
      obtain ⟨rfl, -⟩ := List.cons.inj htail
      rcases hopening with hc | hd
      · rw [hc] at hdecimal
        cases hdecimal
      · exact hquote hd
  | cons b before =>
      obtain ⟨rfl, -⟩ := List.cons.inj htext
      rw [hbefore c (.head _)] at hblank
      cases hblank

/-! ## Which conditions are replaced -/

/-- **Crowded conditions are taken for lone references.** A text that is taken for a lone reference
and read as anything but one reference is one of the crowded texts, between blanks, and all of
these are. The condition of the key outcome that is more than a reference is replaced just when it
is crowded and the outcome is not named for the right answer. -/
theorem replaced_iff_crowded (outcome question : Option String) :
    (∀ text cs, (isBareReference text = true ∧
        ∃ e, read text outcome question = .ok e ∧ e.comparisons = cs ∧ ¬ e.IsReference) ↔
      Crowded (strip text).toList cs) ∧
    ∀ outcomes o e, keyOutcome? outcomes = some o → read o.condition outcome question = .ok e →
      ¬ e.IsReference →
      (combinedCondition outcomes ≠ .ok o.condition ↔
        o.isRight = false ∧ Crowded (strip o.condition).toList e.comparisons) := by
  refine ⟨fun text cs => ⟨?_, ?_⟩, fun outcomes o e hkey hread hreference => ?_⟩
  · rintro ⟨hbare, e, hread, rfl, hreference⟩
    exact (crowded_iff (read_eq_ok_iff.mp hread)).mpr ⟨hbare, hreference⟩
  · intro hcrowded
    obtain ⟨hbare, e, hparse, rfl⟩ := hcrowded.read
    exact ⟨hbare, e, read_eq_ok_iff.mpr hparse, rfl, hcrowded.not_isReference⟩
  · have hcrowded := crowded_iff (read_eq_ok_iff.mp hread)
    rw [combinedCondition_of_keyOutcome? hkey, Ne, Except.ok.injEq]
    constructor
    · intro hreplaced
      have hbare : o.isRight = false ∧ isBareReference o.condition = true := by
        by_contra hkept
        exact hreplaced (if_neg hkept)
      exact ⟨hbare.1, hcrowded.mpr ⟨hbare.2, hreference⟩⟩
    · rintro ⟨hright, hc⟩ hkept
      rw [if_pos ⟨hright, (hcrowded.mp hc).1⟩] at hkept
      rw [← hkept] at hc
      obtain ⟨first, others, hscoring⟩ := exists_scoringOutcomes hkey
      exact not_crowded_synthesizedCondition hscoring _ hc

/-- An outcome that compares two numbers, in three characters. -/
def equation : Outcome := ⟨"0 a", 1, "1=2", ""⟩

/-- What the condition of `equation` is read as. -/
def equationExpression : Expression := ⟨⟨⟨"1", .equal, "2", false, true⟩, []⟩, [], "1=2"⟩

theorem read_equation : read equation.condition none none = .ok equationExpression := by
  decide +kernel

theorem not_isReference_equation : ¬ equationExpression.IsReference := by
  rintro ⟨c, hone, hselected, -⟩
  cases hone
  cases hselected

theorem replaced_iff_crowded_equation :
    Crowded (strip "1=2").toList [⟨"1", .equal, "2", false, true⟩] ∧
    keyOutcome? [equation] = some equation ∧
    read equation.condition none none = .ok equationExpression ∧
    ¬ equationExpression.IsReference ∧
    combinedCondition [equation] ≠ .ok equation.condition := by
  have hcrowded : Crowded (strip "1=2").toList [⟨"1", .equal, "2", false, true⟩] :=
    ((replaced_iff_crowded none none).1 "1=2" _).mp
      ⟨by decide +kernel, equationExpression, read_equation, rfl, not_isReference_equation⟩
  have hkey : keyOutcome? [equation] = some equation := by decide +kernel
  refine ⟨hcrowded, hkey, read_equation, not_isReference_equation, ?_⟩
  exact ((replaced_iff_crowded none none).2 _ _ _ hkey read_equation not_isReference_equation).mpr
    ⟨by decide +kernel, hcrowded⟩

/-- Two numbers with a sign of comparison between them are taken for a lone reference, and the
comparison is lost. -/
theorem not_forall_bare_isReference :
    (¬ ∀ text e, isBareReference text = true → read text none none = .ok e → e.IsReference) ∧
    ¬ ∀ outcomes o e, keyOutcome? outcomes = some o → read o.condition none none = .ok e →
      ¬ e.IsReference → combinedCondition outcomes = .ok o.condition := by
  refine ⟨fun h => ?_, fun h => ?_⟩
  · exact not_isReference_equation (h _ _ (by decide +kernel) read_equation)
  · have hkept := h [equation] equation _ (by decide +kernel) read_equation not_isReference_equation
    exact absurd hkept (by decide +kernel)

end QuestionBank.Scoring
