import QuestionBank.Proofs.Conversion.Multianswer
import QuestionBank.Proofs.Scoring.Credit

/-!
# Which choices get credit

Where the outcomes of a question refer to one choice each, the condition for all choices is put
together from their scores alone: the choice with an index gets credit when the outcome in this
position has a score other than zero, whatever choice that outcome refers to. This is the choice
that a positive outcome refers to when the outcomes stand in the order of the choices and no
score is negative.
-/

namespace QuestionBank

open QuestionBank.Condition QuestionBank.Scoring QuestionBank.Text

/-- The choices of a question with their shares of credit. -/
def Question.choiceAnswers (q : Question) : List ChoiceAnswer :=
  match q.body with
  | .multichoice answers .. => answers
  | _ => []

/-- The condition of an outcome is a lone reference to a choice, with or without quotes. -/
def Outcome.RefersTo (o : Outcome) (choice : Choice) : Prop :=
  isBareReference o.condition = true ∧
    (strip o.condition).toList.filter (· != '"') = choice.key.toList

instance (o : Outcome) (choice : Choice) : Decidable (o.RefersTo choice) :=
  inferInstanceAs (Decidable (_ ∧ _))

/-- Choices are told by their indices. -/
theorem Outcome.RefersTo.of_index_eq {o : Outcome} {choice choice' : Choice}
    (h : o.RefersTo choice') (hindex : choice'.index = choice.index) : o.RefersTo choice := by
  have hkey : choice'.key = choice.key := by rw [Choice.key, hindex, Choice.key]
  exact ⟨h.1, hkey ▸ h.2⟩

namespace SourceQuestion

/-- Every scoring outcome refers to a choice of the question, no two to the same one, and there
is no outcome for the right answer. -/
@[mk_iff]
structure OutcomePerChoice (q : SourceQuestion) : Prop where
  noRight : ∀ o ∈ q.outcomes, o.isRight = false
  refers : ∀ o ∈ scoringOutcomes q.outcomes, ∃ choice ∈ q.choices, o.RefersTo choice
  distinct : (scoringOutcomes q.outcomes).Pairwise fun o o' =>
    ∀ choice ∈ q.choices, o.RefersTo choice → ¬ o'.RefersTo choice

instance (q : SourceQuestion) : Decidable q.OutcomePerChoice :=
  decidable_of_iff _ (outcomePerChoice_iff q).symm

/-- The outcome in a position refers to the choice with that index, and has no negative score. -/
def InOrder (q : SourceQuestion) : Prop :=
  ∀ i o, (scoringOutcomes q.outcomes)[i]? = some o →
    0 ≤ o.score ∧ ∃ choice ∈ q.choices, choice.index = i ∧ o.RefersTo choice

theorem inOrder_iff {q : SourceQuestion} :
    q.InOrder ↔ ∀ i (h : i < (scoringOutcomes q.outcomes).length),
      0 ≤ (scoringOutcomes q.outcomes)[i].score ∧ ∃ choice ∈ q.choices,
        choice.index = i ∧ (scoringOutcomes q.outcomes)[i].RefersTo choice := by
  constructor
  · intro h i hi
    exact h i _ (List.getElem?_eq_getElem hi)
  · intro h i o ho
    obtain ⟨hi, rfl⟩ := List.getElem?_eq_some_iff.mp ho
    exact h i hi

instance (q : SourceQuestion) : Decidable q.InOrder := decidable_of_iff _ inOrder_iff.symm

/-- The outcome in the position of a choice has a score. -/
def ScoresAt (q : SourceQuestion) (choice : Choice) : Prop :=
  ∃ o, (scoringOutcomes q.outcomes)[choice.index]? = some o ∧ o.score ≠ 0

/-- An outcome that refers to a choice has a positive score. -/
def Rewards (q : SourceQuestion) (choice : Choice) : Prop :=
  ∃ o ∈ scoringOutcomes q.outcomes, o.RefersTo choice ∧ 0 < o.score

instance (q : SourceQuestion) (choice : Choice) : Decidable (q.Rewards choice) :=
  inferInstanceAs (Decidable (∃ o ∈ _, _))

end SourceQuestion

variable {q : SourceQuestion} {c : Config} {question : Question}

/-! ## Shares -/

/-- The choices of a converted question are those of the source, with their shares. -/
theorem choiceAnswers_of_convert (hkind : q.kind = .multichoice)
    (h : (q.convert c).2 = .ok question) :
    ∃ e xs, choiceCondition q = .ok e ∧ fractions e q.choices (upperTag q.tag == "MC") = .ok xs ∧
      question.choiceAnswers =
        (q.choices.zip xs).map fun (choice, x) => choiceAnswer q.outcomes choice x := by
  obtain ⟨draft, header, hdraft, -, hquestion⟩ := convert_eq_ok h
  unfold SourceQuestion.draft multichoiceDraft at hdraft
  rw [hkind] at hdraft
  dsimp only at hdraft
  split at hdraft
  · cases hdraft
  split at hdraft
  · cases hdraft
  next xs hxs =>
    cases hdraft
    cases hquestion
    obtain ⟨e, he, hfractions⟩ := Traversal.bind_eq_ok_iff.mp hxs
    exact ⟨e, xs, he, hfractions, rfl⟩

/-- What follows for choices from their shares follows for the answers with these shares. -/
theorem forall₂_choiceAnswer_of {R : Choice → Binary64 → Prop} {S : Choice → ChoiceAnswer → Prop}
    {outcomes : List Outcome}
    (himp : ∀ choice x, R choice x → S choice (choiceAnswer outcomes choice x))
    {choices : List Choice} {xs : List Binary64} (h : List.Forall₂ R choices xs) :
    List.Forall₂ S choices
      ((choices.zip xs).map fun (choice, x) => choiceAnswer outcomes choice x) := by
  induction h with
  | nil => exact .nil
  | cons hx _ ih => exact .cons (himp _ _ hx) ih

/-- What relates choices to shares relates them to the answers with these shares. -/
theorem forall₂_choiceAnswer {R : Choice → Binary64 → Prop} (outcomes : List Outcome)
    {choices : List Choice} {xs : List Binary64} (h : List.Forall₂ R choices xs) :
    List.Forall₂ (fun choice (answer : ChoiceAnswer) => R choice answer.fraction) choices
      ((choices.zip xs).map fun (choice, x) => choiceAnswer outcomes choice x) :=
  forall₂_choiceAnswer_of (fun _ _ hx => hx) h

/-! ## The condition for all choices -/

/-- Where the first scoring outcome has a lone reference and no other one is for the right answer,
the condition for all choices is that of all scores. -/
theorem comparisons_choiceCondition_of_bare {first : Outcome} {others : List Outcome}
    (hscoring : scoringOutcomes q.outcomes = first :: others)
    (hbare : isBareReference first.condition = true)
    (hright : ∀ o ∈ scoringOutcomes q.outcomes, o.isRight = false) {e : Expression}
    (h : choiceCondition q = .ok e) :
    e.comparisons = (scoringOutcomes q.outcomes).mapIdx positionComparison := by
  have hne : scoringOutcomes q.outcomes ≠ [] := hscoring ▸ List.cons_ne_nil first others
  obtain ⟨e', he', hcomparisons⟩ := parse_synthesizedCondition hne
  have hcondition := combinedCondition_of_bare hscoring hright hbare
  unfold choiceCondition at h
  rw [hcondition] at h
  obtain rfl := Except.ok.inj (he'.symm.trans (read_eq_ok_iff.mp h))
  exact hcomparisons

/-- Where outcomes refer to one choice each, the condition for all choices is that of all
scores. -/
theorem comparisons_choiceCondition (hq : q.OutcomePerChoice) {e : Expression}
    (h : choiceCondition q = .ok e) :
    e.comparisons = (scoringOutcomes q.outcomes).mapIdx positionComparison := by
  match hscoring : scoringOutcomes q.outcomes with
  | [] =>
    unfold choiceCondition combinedCondition at h
    rw [hscoring] at h
    cases h
  | first :: others =>
    obtain ⟨choice, -, hbare, -⟩ := hq.refers first (hscoring ▸ .head _)
    rw [← hscoring]
    exact comparisons_choiceCondition_of_bare hscoring hbare
      (fun o ho => hq.noRight o (List.mem_of_mem_filter ho)) h

/-! ## Choices with credit -/

/-- Outcomes in the order of the choices reward the choices in whose positions they have a
score. -/
theorem scoresAt_iff_rewards (hq : q.InOrder) (choice : Choice) :
    q.ScoresAt choice ↔ q.Rewards choice := by
  constructor
  · rintro ⟨o, ho, hscore⟩
    obtain ⟨hnonneg, choice', -, hindex, hrefers⟩ := hq _ o ho
    refine ⟨o, List.mem_of_getElem? ho, hrefers.of_index_eq hindex, ?_⟩
    omega
  · rintro ⟨o, ho, hrefers, hscore⟩
    obtain ⟨i, hi⟩ := List.getElem?_of_mem ho
    obtain ⟨-, choice', -, rfl, hrefers'⟩ := hq i o hi
    have hkey : choice'.key = choice.key :=
      String.toList_inj.mp (hrefers'.2.symm.trans hrefers.2)
    exact ⟨o, Number.showInt_injective hkey ▸ hi, hscore.ne'⟩

/-- **A choice gets credit by the position of an outcome.** Where the outcomes refer to one
choice each, a converted multiple-choice question gives a choice a positive share just when the
outcome in the position of the choice has a score other than zero. When the outcomes stand in
the order of the choices and no score is negative, this is just when an outcome that refers to
the choice has a positive score. -/
theorem convert_credits_position (hkind : q.kind = .multichoice) (hq : q.OutcomePerChoice)
    (hchoices : q.choices.length < 2 * Binary64.unitsPerOne)
    (h : (q.convert c).2 = .ok question) :
    List.Forall₂ (fun choice (answer : ChoiceAnswer) =>
        (answer.fraction.isPositive = true ↔ q.ScoresAt choice) ∧
          (q.InOrder → (answer.fraction.isPositive = true ↔ q.Rewards choice)))
      q.choices question.choiceAnswers := by
  obtain ⟨e, xs, he, hxs, hanswers⟩ := choiceAnswers_of_convert hkind h
  have hmarks := isCorrect_iff (comparisons_choiceCondition hq he)
  have hpositive := forall₂_choiceAnswer q.outcomes (fractions_isPositive hchoices hxs)
  rw [hanswers]
  refine hpositive.imp fun choice answer hanswer => ?_
  have hscores : answer.fraction.isPositive = true ↔ q.ScoresAt choice := by
    rw [hanswer]
    exact hmarks choice
  exact ⟨hscores, fun horder => hscores.trans (scoresAt_iff_rewards horder choice)⟩

/-! ## Outcomes out of order -/

/-- A question whose outcomes stand in another order than its choices; one of them has a
negative score. -/
def turnedNode : Document.Node :=
  { name := "QUESTION"
    attributes := [("ID", "1"), ("DESCRIPTION", "Turned")]
    children := [
      { name := "ANSWER"
        attributes := [("QTYPE", "MC")]
        children := [
          { name := "CHOICE", children := [{ name := "CONTENT", text := "a" }] },
          { name := "CHOICE", children := [{ name := "CONTENT", text := "b" }] },
          { name := "CHOICE", children := [{ name := "CONTENT", text := "c" }] }] },
      { name := "OUTCOME"
        attributes := [("ID", "1 b"), ("SCORE", "1")]
        children := [{ name := "CONDITION", text := "\"1\"" }] },
      { name := "OUTCOME"
        attributes := [("ID", "0 a"), ("SCORE", "0")]
        children := [{ name := "CONDITION", text := "\"0\"" }] },
      { name := "OUTCOME"
        attributes := [("ID", "2 c"), ("SCORE", "-1")]
        children := [{ name := "CONDITION", text := "\"2\"" }] }] }

/-- The question that is read from it. -/
def turnedQuestion : SourceQuestion :=
  { node := turnedNode
    position := 1
    tag := "MC"
    outcomes := [⟨"1 b", 1, "\"1\"", ""⟩, ⟨"0 a", 0, "\"0\"", ""⟩, ⟨"2 c", -1, "\"2\"", ""⟩]
    choices := [⟨0, "a", []⟩, ⟨1, "b", []⟩, ⟨2, "c", []⟩]
    segments := [.blank ⟨0, "a", []⟩, .blank ⟨1, "b", []⟩, .blank ⟨2, "c", []⟩] }

/-- The same choices with outcomes in their order. -/
def straightQuestion : SourceQuestion :=
  { turnedQuestion with
    outcomes := [⟨"0 a", 0, "\"0\"", ""⟩, ⟨"1 b", 1, "\"1\"", ""⟩, ⟨"2 c", 0, "2", ""⟩] }

theorem inOrder_straightQuestion : straightQuestion.InOrder := by decide +kernel

theorem convert_credits_position_straight :
    straightQuestion.OutcomePerChoice ∧ ∃ question,
      (straightQuestion.convert blanksConfig).2 = .ok question ∧
      List.Forall₂ (fun choice (answer : ChoiceAnswer) =>
          answer.fraction.isPositive = true ↔ straightQuestion.Rewards choice)
        straightQuestion.choices question.choiceAnswers := by
  have hquestion : (straightQuestion.convert blanksConfig).2 =
      .ok ⟨⟨"Turned", "Turned", .html, "", "1"⟩,
        .multichoice
          [⟨"a", .zero false, "Incorrect"⟩, ⟨"b", .one, "Correct"⟩, ⟨"c", .zero false, "Incorrect"⟩]
          true false "abc" "Correct" "Partly Correct" "Incorrect"⟩ := by decide +kernel
  have hperChoice : straightQuestion.OutcomePerChoice := by decide +kernel
  have hcredits := convert_credits_position (by decide +kernel) hperChoice (by decide +kernel)
    hquestion
  exact ⟨hperChoice, _, hquestion, hcredits.imp fun _ _ h => h.2 inOrder_straightQuestion⟩

theorem read_turnedNode : SourceQuestion.read blanksConfig turnedNode 1 = .ok turnedQuestion :=
  read_eq_ok turnedQuestion (by decide +kernel) (by decide +kernel) (by decide +kernel) rfl

/-- **A choice may get credit for an outcome that refers to another one.** Not every converted
multiple-choice question whose outcomes refer to one choice each gives credit to the choices
that its positive outcomes refer to: here both other choices share the credit. -/
theorem not_forall_convert_credits :
    ¬ ∀ (c : Config) (node : Document.Node) (position : Int) (q : SourceQuestion)
        (question : Question),
      SourceQuestion.read c node position = .ok q → q.kind = .multichoice →
      q.OutcomePerChoice → (q.convert c).2 = .ok question →
      List.Forall₂ (fun choice (answer : ChoiceAnswer) =>
        answer.fraction.isPositive = true ↔ q.Rewards choice) q.choices question.choiceAnswers := by
  intro h
  have hquestion : (turnedQuestion.convert blanksConfig).2 =
      .ok ⟨⟨"Turned", "Turned", .html, "", "1"⟩,
        .multichoice
          [⟨"a", .finite false 1022 0, "Correct"⟩, ⟨"b", .zero false, "Incorrect"⟩,
            ⟨"c", .finite false 1022 0, "Correct"⟩]
          true false "abc" "Correct" "Partly Correct" "Incorrect"⟩ := by decide +kernel
  have hcredits := h blanksConfig turnedNode 1 turnedQuestion _ read_turnedNode
    (by decide +kernel) (by decide +kernel) hquestion
  -- The outcome that refers to the first choice scores nothing.
  obtain ⟨hfirst, -⟩ := List.forall₂_cons.mp hcredits
  exact absurd (hfirst.mp (by decide +kernel)) (by decide +kernel)

end QuestionBank
