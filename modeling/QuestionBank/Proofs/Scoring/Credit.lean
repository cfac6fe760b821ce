import Mathlib.Algebra.BigOperators.Group.List.Basic
import Mathlib.Algebra.Order.Field.Rat
import Mathlib.Tactic.FieldSimp
import Mathlib.Tactic.Positivity
import Mathlib.Tactic.Ring
import QuestionBank.Proofs.Scoring.Bounds
import QuestionBank.Proofs.Scoring.Marks

/-!
# How the choices of a question share credit

A condition credits the choices whose first comparison is not negated. They share full credit
equally, in exact numbers: each has one part of as many as there are. All other choices have
nothing where one choice may be selected, and lose such a part where several may be. So what
there is to gain by right choices adds up to one, but what there is to lose by wrong ones does
not: to select everything is worth nothing just when half of the choices are credited.

The condition that stands for the scores of all outcomes credits the choices in whose positions
an outcome has a score.
-/

namespace QuestionBank.Scoring

open QuestionBank.Condition QuestionBank.Number

/-! ## Choices that are credited -/

/-- The first comparison that names a choice is not negated. -/
def Credits (e : Expression) (choice : Choice) : Prop :=
  ∃ c, e.comparisons.find? (fun c => c.left == choice.key) = some c ∧ c.negated = false

theorem isCorrect_iff_credits {e : Expression} {choice : Choice} :
    isCorrect e choice = true ↔ Credits e choice := by
  unfold Credits
  rw [isCorrect_eq]
  cases e.comparisons.find? fun c => c.left == choice.key <;> simp

instance (e : Expression) (choice : Choice) : Decidable (Credits e choice) :=
  decidable_of_iff _ isCorrect_iff_credits

/-- The number of the choices that are credited. -/
def creditCount (e : Expression) (choices : List Choice) : Nat :=
  choices.countP fun choice => Credits e choice

/-- The share of a choice where a number of choices is credited. -/
def share (e : Expression) (single : Bool) (count : Nat) (choice : Choice) : Rat :=
  if Credits e choice then 1 / count else if single then 0 else -(1 / count)

variable {e : Expression} {choices : List Choice} {single : Bool} {qs : List Rat}

theorem creditCount_eq : creditCount e choices = (choices.filter (isCorrect e)).length := by
  rw [creditCount, List.countP_eq_length_filter]
  simp only [← isCorrect_iff_credits, Bool.decide_eq_true]

/-- Without a credited choice the condition fails, with its text. -/
theorem shares_eq_error (single : Bool) (h : creditCount e choices = 0) :
    shares e choices single =
      .error ⟨.noCredit (.condition (if e.source.isEmpty then e.text else e.source)), none⟩ := by
  rw [shares, ← creditCount_eq]
  exact if_pos h

/-- With a credited choice each choice has its share. -/
theorem shares_eq_ok (single : Bool) (h : creditCount e choices ≠ 0) :
    shares e choices single = .ok (choices.map (share e single (creditCount e choices))) := by
  rw [shares, ← creditCount_eq]
  refine (if_neg h).trans (congrArg Except.ok (List.map_congr_left fun choice _ => ?_))
  rw [share, Rat.mkRat_eq_div, Int.cast_one]
  simp only [isCorrect_iff_credits]

theorem shares_eq_ok_iff :
    shares e choices single = .ok qs ↔
      creditCount e choices ≠ 0 ∧ choices.map (share e single (creditCount e choices)) = qs := by
  by_cases h : creditCount e choices = 0
  · simp [shares_eq_error single h, h]
  · simp [shares_eq_ok single h, h]

theorem fractions_eq_ok_map (single : Bool) (h : creditCount e choices ≠ 0) :
    fractions e choices single =
      .ok ((choices.map (share e single (creditCount e choices))).map .ofRat) := by
  rw [fractions, shares_eq_ok single h]
  rfl

theorem shares_eq_error_iff {failure : Failure} :
    shares e choices single = .error failure ↔
      creditCount e choices = 0 ∧
        ⟨.noCredit (.condition (if e.source.isEmpty then e.text else e.source)), none⟩ =
          failure := by
  by_cases h : creditCount e choices = 0
  · simp [shares_eq_error single h, h]
  · simp [shares_eq_ok single h, h]

/-! ## What there is to gain -/

theorem share_pos_iff {count : Nat} (hcount : count ≠ 0) {choice : Choice} :
    0 < share e single count choice ↔ Credits e choice := by
  have hpart : (0 : Rat) < 1 / count := by positivity
  unfold share
  split
  next hcredits => exact iff_of_true hpart hcredits
  next hcredits =>
    refine iff_of_false (not_lt.mpr ?_) hcredits
    split
    · exact le_rfl
    · exact (neg_neg_of_pos hpart).le

/-- The shares above nothing are equal parts, one for each choice that is credited. -/
theorem filter_pos_shares (single : Bool) (h : creditCount e choices ≠ 0) :
    (choices.map (share e single (creditCount e choices))).filter (0 < ·) =
      List.replicate (creditCount e choices) (1 / (creditCount e choices : Rat)) := by
  have hcredited :
      choices.filter (fun choice => 0 < share e single (creditCount e choices) choice) =
        choices.filter fun choice => Credits e choice := by
    simp only [share_pos_iff h]
  rw [List.filter_map, List.eq_replicate_iff]
  constructor
  · have hlength := congrArg List.length hcredited
    rw [← List.countP_eq_length_filter (p := fun choice => Credits e choice)] at hlength
    exact (List.length_map _).trans hlength
  · intro q hq
    obtain ⟨choice, hchoice, rfl⟩ := List.mem_map.mp hq
    have hcredits := (List.mem_filter.mp (hcredited ▸ hchoice)).2
    exact if_pos (of_decide_eq_true hcredits)

/-! ## Comparisons that name no choice -/

/-- The comparisons that name one of some choices. -/
def naming (e : Expression) (choices : List Choice) : List Comparison :=
  e.comparisons.filter fun c => c.left ∈ choices.map Choice.key

/-- Only comparisons that name a choice decide whether it is credited. -/
theorem credits_congr {e' : Expression} (h : naming e' choices = naming e choices)
    {choice : Choice} (hchoice : choice ∈ choices) : Credits e' choice ↔ Credits e choice := by
  have hfirst (e : Expression) : (naming e choices).find? (fun c => c.left == choice.key) =
      e.comparisons.find? fun c => c.left == choice.key := by
    rw [naming, List.find?_filter]
    congr 1
    funext c
    by_cases hkey : c.left = choice.key
    · simp [hkey, List.mem_map_of_mem hchoice]
    · simp [hkey]
  rw [Credits, Credits, ← hfirst, h, hfirst]

theorem share_congr (single : Bool) {e' : Expression} (h : naming e' choices = naming e choices) :
    creditCount e' choices = creditCount e choices ∧
      ∀ count, choices.map (share e' single count) = choices.map (share e single count) := by
  constructor
  · exact List.countP_congr fun choice hchoice => by simp [credits_congr h hchoice]
  · intro count
    refine List.map_congr_left fun choice hchoice => ?_
    simp only [share, credits_congr h hchoice]

/-! ## Equal parts of full credit -/

/-- A choice gets more than nothing just when it is marked as correct. -/
theorem fractions_isPositive {xs : List Binary64}
    (hchoices : choices.length < 2 * Binary64.unitsPerOne)
    (h : fractions e choices single = .ok xs) :
    List.Forall₂ (fun choice x => x.isPositive = isCorrect e choice) choices xs := by
  obtain ⟨count, hlength, hcount, rfl⟩ := fractions_eq_ok h
  have hle : count ≤ choices.length := hlength ▸ List.length_filter_le _ _
  have hworth := Binary64.isPositive_part (Nat.pos_of_ne_zero hcount)
    (Nat.lt_of_le_of_lt hle hchoices)
  have hpenalty : (if single then 0 else -mkRat 1 count) ≤ 0 := by
    split
    · exact Rat.le_refl
    · rw [Rat.neg_le_iff, Rat.neg_zero]
      exact Rat.mkRat_nonneg (by decide) _
  rw [List.forall₂_map_right_iff, List.forall₂_same]
  intro choice _
  cases isCorrect e choice with
  | true => exact hworth
  | false => exact Binary64.not_isPositive_ofRat hpenalty

/-- As many shares are above nothing in floating point as there are credited choices. -/
theorem countP_isPositive {xs : List Binary64}
    (hchoices : choices.length < 2 * Binary64.unitsPerOne)
    (h : fractions e choices single = .ok xs) :
    xs.countP Binary64.isPositive = creditCount e choices := by
  have hpositive := fractions_isPositive hchoices h
  rw [creditCount_eq, ← List.countP_eq_length_filter]
  clear h hchoices
  induction hpositive with
  | nil => rfl
  | cons hx _ ih => rw [List.countP_cons, List.countP_cons, ih, hx]

/-- Exact numbers that share full credit among choices: each choice that is credited has one of
equal parts, and each other one has nothing, or loses such a part. -/
structure SharesCredit (e : Expression) (choices : List Choice) (single : Bool) (qs : List Rat) :
    Prop where
  each : List.Forall₂ (fun choice q =>
    q = if Credits e choice then 1 / (creditCount e choices : Rat)
      else if single then 0 else -(1 / (creditCount e choices : Rat))) choices qs
  count_pos : qs.countP (0 < ·) = creditCount e choices
  sum_pos : (qs.filter (0 < ·)).sum = 1
  /-- No part vanishes in floating point. -/
  count_isPositive : choices.length < 2 * Binary64.unitsPerOne →
    (qs.map .ofRat).countP Binary64.isPositive = creditCount e choices

theorem sharesCredit (single : Bool) (h : creditCount e choices ≠ 0) :
    SharesCredit e choices single (choices.map (share e single (creditCount e choices))) where
  each := by
    rw [List.forall₂_map_right_iff, List.forall₂_same]
    exact fun choice _ => rfl
  count_pos := by
    rw [List.countP_eq_length_filter, filter_pos_shares single h, List.length_replicate]
  sum_pos := by
    rw [filter_pos_shares single h, List.sum_replicate, nsmul_eq_mul]
    field_simp
  count_isPositive hfew := countP_isPositive hfew (fractions_eq_ok_map single h)

/-- **Full credit is shared exactly.** If the first comparison of no choice affirms it, there is
no credit. Otherwise each choice has its share, in the order of the choices: those that are
affirmed one of equal parts, the others nothing, or such a part taken away. As many shares are
above nothing as there are affirmed choices, and these add up to one. Comparisons that name
no choice make no difference. -/
theorem fractions_share_credit (e : Expression) (choices : List Choice) (single : Bool) :
    (creditCount e choices = 0 →
      fractions e choices single =
        .error ⟨.noCredit (.condition (if e.source.isEmpty then e.text else e.source)), none⟩) ∧
    (creditCount e choices ≠ 0 → ∃ qs,
      shares e choices single = .ok qs ∧ fractions e choices single = .ok (qs.map .ofRat) ∧
      SharesCredit e choices single qs) ∧
    ∀ e', naming e' choices = naming e choices →
      creditCount e' choices = creditCount e choices ∧
        (fractions e' choices single).toOption = (fractions e choices single).toOption := by
  refine ⟨fun hnone => ?_, fun hsome => ?_, fun e' hnaming => ?_⟩
  · rw [fractions, shares_eq_error single hnone]
    rfl
  · exact ⟨_, shares_eq_ok single hsome, fractions_eq_ok_map single hsome,
      sharesCredit single hsome⟩
  · obtain ⟨hcount, hshare⟩ := share_congr single hnaming
    refine ⟨hcount, ?_⟩
    by_cases hnone : creditCount e choices = 0
    · rw [fractions, fractions, shares_eq_error single hnone,
        shares_eq_error single (hcount.trans hnone)]
      rfl
    · rw [fractions, fractions, shares_eq_ok single hnone,
        shares_eq_ok single (hcount.trans_ne hnone), hcount, hshare]

/-! ## What there is to lose -/

/-- The number of the choices that are not credited. -/
def missCount (e : Expression) (choices : List Choice) : Nat :=
  choices.countP fun choice => ¬ Credits e choice

/-- Each choice that is credited adds a part, and each other one takes a part away. -/
theorem sum_map_share (count : Nat) :
    (choices.map (share e false count)).sum =
      ((creditCount e choices : Rat) - missCount e choices) / count := by
  unfold creditCount missCount
  induction choices with
  | nil => simp
  | cons choice choices ih =>
      rw [List.map_cons, List.sum_cons, ih, share, List.countP_cons, List.countP_cons]
      by_cases hcredits : Credits e choice
      · simp only [hcredits, if_true, not_true_eq_false, decide_true, decide_false,
          Bool.false_eq_true, if_false]
        push_cast
        ring
      · simp only [hcredits, if_true, not_false_eq_true, decide_true, decide_false,
          Bool.false_eq_true, if_false]
        push_cast
        ring

/-- **What selecting everything is worth.** Where several choices may be selected, all shares
together make the difference between the credited choices and the others, in parts. So they are
worth nothing just when there are as many choices of both sorts, and they are worth something
just when more choices are credited than not. -/
theorem sum_shares_eq_zero_iff {xs : List Binary64} (h : fractions e choices false = .ok xs) :
    ∃ qs, shares e choices false = .ok qs ∧ xs = qs.map .ofRat ∧
      qs.sum = ((creditCount e choices : Rat) - missCount e choices) / creditCount e choices ∧
      (qs.sum = 0 ↔ creditCount e choices = missCount e choices) ∧
      (0 < qs.sum ↔ missCount e choices < creditCount e choices) := by
  obtain ⟨qs, hqs, rfl⟩ := Traversal.map_eq_ok_iff.mp h
  obtain ⟨hcount, rfl⟩ := shares_eq_ok_iff.mp hqs
  have hpos : (0 : Rat) < creditCount e choices := by positivity
  refine ⟨_, hqs, rfl, sum_map_share _, ?_, ?_⟩
  · rw [sum_map_share, div_eq_zero_iff, or_iff_left hpos.ne', sub_eq_zero, Nat.cast_inj]
  · rw [sum_map_share, div_pos_iff_of_pos_right hpos, sub_pos, Nat.cast_lt]

/-- Four choices. -/
def fourChoices : List Choice := [⟨0, "a", []⟩, ⟨1, "b", []⟩, ⟨2, "c", []⟩, ⟨3, "d", []⟩]

/-- A condition that credits two choices. -/
def firstTwo : Expression :=
  { first := ⟨{ left := "0" }, [{ left := "1" }, { left := "2", negated := true }]⟩
    source := "\"0\" AND \"1\" AND NOT \"2\"" }

/-- Two of four choices are credited, so all of them together are worth nothing. -/
theorem sum_shares_eq_zero_iff_half :
    ∃ xs qs, fractions firstTwo fourChoices false = .ok xs ∧
      shares firstTwo fourChoices false = .ok qs ∧ xs = qs.map .ofRat ∧ qs.sum = 0 := by
  have hfractions : fractions firstTwo fourChoices false =
      .ok [.finite false 1022 0, .finite false 1022 0, .finite true 1022 0,
        .finite true 1022 0] := by decide +kernel
  obtain ⟨qs, hqs, hxs, -, hzero, -⟩ := sum_shares_eq_zero_iff hfractions
  exact ⟨_, qs, hfractions, hqs, hxs, hzero.mpr (by decide +kernel)⟩

/-- A condition that credits one choice and no other of three. -/
def firstAlone : Expression :=
  { first := ⟨{ left := "0" }, [{ left := "1", negated := true }, { left := "2", negated := true }]⟩
    source := "\"0\" AND NOT \"1\" AND NOT \"2\"" }

/-- **Selecting everything may cost credit.** Not all shares of choices of which several may be
selected add up to nothing: here two wrong choices take away twice what the right one gives. -/
theorem not_forall_sum_shares_eq_zero :
    ¬ ∀ (e : Expression) (choices : List Choice) (xs : List Binary64) (qs : List Rat),
      read e.source none none = .ok e → fractions e choices false = .ok xs →
      shares e choices false = .ok qs → qs.sum = 0 := by
  intro h
  have hread : read firstAlone.source none none = .ok firstAlone := by decide +kernel
  have hfractions : fractions firstAlone (fourChoices.take 3) false =
      .ok [.one, .finite true 1023 0, .finite true 1023 0] := by decide +kernel
  have hshares : shares firstAlone (fourChoices.take 3) false = .ok [1, -1, -1] := by
    decide +kernel
  exact absurd (h _ _ _ _ hread hfractions hshares) (by decide +kernel)

/-! ## Credit by position -/

/-- The scoring outcome in a position has a score. -/
def HasScore (outcomes : List Outcome) (position : Nat) : Prop :=
  ∃ o, (scoringOutcomes outcomes)[position]? = some o ∧ o.score ≠ 0

variable {outcomes : List Outcome} {first : Outcome} {others : List Outcome}

/-- Where the first scoring outcome has a lone reference and no other one is for the right answer,
the condition for all choices is that of all scores. -/
theorem combinedCondition_of_bare (hscoring : scoringOutcomes outcomes = first :: others)
    (hright : ∀ o ∈ scoringOutcomes outcomes, o.isRight = false)
    (hbare : isBareReference first.condition = true) :
    combinedCondition outcomes = .ok (synthesizedCondition outcomes) := by
  have hnone : (first :: others).find? Outcome.isRight = none := by
    rw [← hscoring, List.find?_eq_none]
    intro o ho
    rw [hright o ho]
    exact Bool.false_ne_true
  unfold combinedCondition
  simp only [hscoring, hnone, hbare, if_true]

/-- The condition of all scores credits a choice just when the outcome in its position has a
score. -/
theorem credits_iff_hasScore
    (h : e.comparisons = (scoringOutcomes outcomes).mapIdx positionComparison) (choice : Choice) :
    Credits e choice ↔ HasScore outcomes choice.index :=
  isCorrect_iff_credits.symm.trans (isCorrect_iff h choice)

/-- A choice in its own position has the index of this position. -/
theorem index_getElem (hchoices : choices.map Choice.index = List.range choices.length) (i : Nat)
    (hi : i < choices.length) : choices[i].index = i := by
  have hget : (choices.map Choice.index)[i]? = some i := by
    rw [hchoices, List.getElem?_range hi]
  rw [List.getElem?_map, List.getElem?_eq_getElem hi] at hget
  exact Option.some.inj hget

/-- Choices in their own positions are without credit just when no outcome in such a position has
a score. -/
theorem creditCount_eq_zero_iff
    (h : e.comparisons = (scoringOutcomes outcomes).mapIdx positionComparison)
    (hchoices : choices.map Choice.index = List.range choices.length) :
    creditCount e choices = 0 ↔ ∀ i < choices.length, ¬ HasScore outcomes i := by
  have hmem : (∀ i ∈ choices.map Choice.index, ¬ HasScore outcomes i) ↔
      ∀ choice ∈ choices, ¬ Credits e choice := by
    simp only [List.forall_mem_map, credits_iff_hasScore h]
  rw [hchoices] at hmem
  simp only [List.mem_range] at hmem
  rw [hmem, creditCount, List.countP_eq_zero]
  simp

/-- **Credit by position.** Where the scoring outcomes begin with a lone reference and none is for
the right answer, the condition for all choices is read, and it marks the positions of the
scoring outcomes, in order, each as correct just when the outcome there has a score other than
zero. A choice in its own position has a share above nothing just when the outcome there has
such a score; if there is no such choice, the condition fails for want of credit. -/
theorem fractions_by_position (hscoring : scoringOutcomes outcomes = first :: others)
    (hright : ∀ o ∈ scoringOutcomes outcomes, o.isRight = false)
    (hbare : isBareReference first.condition = true)
    (hchoices : choices.map Choice.index = List.range choices.length) :
    ∃ text e, combinedCondition outcomes = .ok text ∧ read text none none = .ok e ∧
      choiceMarks e =
        (scoringOutcomes outcomes).mapIdx (fun i o => ⟨showInt i, decide (o.score ≠ 0)⟩) ∧
      ∀ single,
        (fractions e choices single = .error ⟨.noCredit (.condition text), none⟩ ↔
          ∀ i < choices.length, ¬ HasScore outcomes i) ∧
        ((∃ i < choices.length, HasScore outcomes i) → ∃ qs,
          shares e choices single = .ok qs ∧ fractions e choices single = .ok (qs.map .ofRat) ∧
          qs.length = choices.length ∧
          ∀ i (hi : i < qs.length), (0 < qs[i] ↔ HasScore outcomes i) ∧
            (choices.length < 2 * Binary64.unitsPerOne →
              ((Binary64.ofRat qs[i]).isPositive = true ↔ HasScore outcomes i))) := by
  have hne : scoringOutcomes outcomes ≠ [] := hscoring ▸ List.cons_ne_nil first others
  obtain ⟨e, hparse, hcomparisons⟩ := parse_synthesizedCondition hne
  obtain ⟨hsource, htext⟩ := source_of_parse hparse
  have hzero := creditCount_eq_zero_iff hcomparisons hchoices
  have hshown :
      (if e.source.isEmpty then e.text else e.source) = synthesizedCondition outcomes := by
    rw [hsource, if_neg (by simpa using htext)]
  refine ⟨_, e, combinedCondition_of_bare hscoring hright hbare, read_eq_ok_iff.mpr hparse,
    choiceMarks_eq hcomparisons, fun single => ⟨?_, ?_⟩⟩
  · rw [fractions, Traversal.map_eq_error_iff, shares_eq_error_iff, hshown, hzero]
    exact and_iff_left rfl
  · rintro ⟨i, hi, hscore⟩
    have hcount : creditCount e choices ≠ 0 := fun hnone => hzero.mp hnone i hi hscore
    have hshares := shares_eq_ok single hcount
    have hfractions := fractions_eq_ok_map single hcount
    refine ⟨_, hshares, hfractions, List.length_map _, fun j hj => ?_⟩
    have hj' : j < choices.length := by simpa using hj
    have hindex := index_getElem hchoices j hj'
    have hcredits := hindex ▸ credits_iff_hasScore hcomparisons choices[j]
    constructor
    · rw [List.getElem_map, share_pos_iff hcount, hcredits]
    · intro hfew
      have hpositive := fractions_isPositive hfew hfractions
      have hat := (List.forall₂_iff_get.mp hpositive).2 j hj' (by simpa using hj')
      simp only [List.get_eq_getElem, List.getElem_map] at hat
      rw [List.getElem_map, hat, isCorrect_iff_credits, hcredits]

/-- Eleven outcomes for one choice each, of which the last one scores. -/
def elevenOutcomes : List Outcome :=
  (List.range 11).map fun i => ⟨showInt i, if i = 10 then -2 else 0, "\"" ++ showInt i ++ "\"", ""⟩

/-- One choice more than there are outcomes. -/
def twelveChoices : List Choice := (List.range 12).map fun i => ⟨i, "", []⟩

/-- The choice of the last outcome is told by two digits. -/
theorem fractions_by_position_eleven :
    scoringOutcomes elevenOutcomes = ⟨"0", 0, "\"0\"", ""⟩ :: elevenOutcomes.tail ∧
    ∃ text e qs, combinedCondition elevenOutcomes = .ok text ∧ read text none none = .ok e ∧
      shares e twelveChoices true = .ok qs ∧ ∃ h : 10 < qs.length, 0 < qs[10] := by
  have hscoring : scoringOutcomes elevenOutcomes =
      ⟨"0", 0, "\"0\"", ""⟩ :: elevenOutcomes.tail := by decide +kernel
  have hchoices : twelveChoices.map Choice.index = List.range twelveChoices.length := by
    decide +kernel
  obtain ⟨text, e, htext, he, -, hcredit⟩ := fractions_by_position hscoring (by decide +kernel)
    (by decide +kernel) hchoices
  have hscore : HasScore elevenOutcomes 10 :=
    ⟨⟨"10", -2, "\"10\"", ""⟩, by decide +kernel, by decide⟩
  obtain ⟨qs, hqs, -, hlength, hpositive⟩ := (hcredit true).2 ⟨10, by decide, hscore⟩
  have hten : 10 < qs.length := hlength ▸ (by decide : 10 < twelveChoices.length)
  exact ⟨hscoring, text, e, qs, htext, he, hqs, hten, (hpositive 10 hten).1.mpr hscore⟩

end QuestionBank.Scoring
