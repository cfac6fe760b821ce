import QuestionBank.Proofs.Conversion.Choices

/-!
# Which feedback the choices get

Where the scoring outcomes of a multiple-choice question begin with a lone reference, a choice
gets the feedback of the outcome in its position, whatever choice that outcome refers to; all
other choices get the default for their share. Credit is given by positions too, unless there is
an outcome for the right answer beside the lone reference. So the choices without credit never
get the feedback of an outcome with a positive score, and the feedback belongs to the choice as
soon as the outcome in its position refers to it.
-/

namespace QuestionBank

open QuestionBank.Condition QuestionBank.Scoring QuestionBank.Text

/-- The feedback of an answer for which no outcome has any, by its share of credit. -/
def defaultFeedback (fraction : Binary64) : String :=
  if fraction.isPositive then Message.correct.text [] else Message.incorrect.text []

namespace SourceQuestion

/-- The first scoring outcome has a lone reference for its condition. -/
def StartsBare (q : SourceQuestion) : Prop :=
  ∃ o, (scoringOutcomes q.outcomes).head? = some o ∧ isBareReference o.condition = true

/-- An outcome lends its feedback to the choice in whose position it stands. -/
structure Lends (q : SourceQuestion) (choice : Choice) (o : Outcome) : Prop where
  bare : q.StartsBare
  place : (scoringOutcomes q.outcomes)[choice.index]? = some o
  speaks : o.feedback ≠ ""

/-- There is no outcome for the right answer among scoring outcomes that begin with a lone
reference. -/
def Unmixed (q : SourceQuestion) : Prop :=
  q.StartsBare → ∀ o ∈ scoringOutcomes q.outcomes, o.isRight = false

/-- The feedback of an answer is that of an outcome that refers to the choice, or the default. -/
def Belongs (q : SourceQuestion) (choice : Choice) (answer : ChoiceAnswer) : Prop :=
  (∃ o ∈ q.outcomes, o.RefersTo choice ∧ o.feedback = answer.feedback) ∨
    answer.feedback = defaultFeedback answer.fraction

instance (q : SourceQuestion) (choice : Choice) (answer : ChoiceAnswer) :
    Decidable (q.Belongs choice answer) :=
  inferInstanceAs (Decidable ((∃ o ∈ _, _) ∨ _))

end SourceQuestion

variable {q : SourceQuestion} {c : Config} {question : Question} {choice : Choice} {o : Outcome}

/-! ## Feedback by position -/

/-- The feedback in the position of a choice is the one that an outcome lends it. -/
theorem positionFeedback_eq_some_iff {text : String} :
    positionFeedback q.outcomes choice.index = some text ↔
      ∃ o, q.Lends choice o ∧ o.feedback = text := by
  unfold positionFeedback
  constructor
  · intro h
    match hscoring : scoringOutcomes q.outcomes with
    | [] => simp [hscoring] at h
    | first :: others =>
      by_cases hbare : isBareReference first.condition = true
      · simp only [hscoring, hbare, if_true, Option.filter_eq_some_iff, Option.map_eq_some_iff] at h
        obtain ⟨⟨o, ho, rfl⟩, hspeaks⟩ := h
        refine ⟨o, ⟨⟨first, by rw [hscoring]; rfl, hbare⟩, hscoring ▸ ho, ?_⟩, rfl⟩
        simpa using hspeaks
      · simp [hscoring, hbare] at h
  · rintro ⟨o, ⟨⟨first, hfirst, hbare⟩, hplace, hspeaks⟩, rfl⟩
    match hscoring : scoringOutcomes q.outcomes with
    | [] => simp [hscoring] at hfirst
    | first' :: others =>
      obtain rfl : first' = first := by simpa [hscoring] using hfirst
      rw [hscoring] at hplace
      simp [hbare, hplace, hspeaks]

/-- The answer of a choice has the feedback that an outcome lends the choice. -/
theorem SourceQuestion.Lends.feedback_choiceAnswer (h : q.Lends choice o) (fraction : Binary64) :
    (choiceAnswer q.outcomes choice fraction).feedback = o.feedback := by
  have hposition := positionFeedback_eq_some_iff.mpr ⟨o, h, rfl⟩
  simp only [choiceAnswer, hposition, Option.getD_some]

/-- The answer of a choice has the default feedback if no outcome lends the choice any. -/
theorem feedback_choiceAnswer_of_forall_not_lends (h : ∀ o, ¬ q.Lends choice o)
    (fraction : Binary64) :
    (choiceAnswer q.outcomes choice fraction).feedback = defaultFeedback fraction := by
  have hposition : positionFeedback q.outcomes choice.index = none := by
    rw [Option.eq_none_iff_forall_ne_some]
    intro text htext
    obtain ⟨o, ho, -⟩ := positionFeedback_eq_some_iff.mp htext
    exact h o ho
  simp only [choiceAnswer, hposition, Option.getD_none, defaultFeedback]

/-- The feedback belongs to the choice if it is lent by an outcome that refers to the choice. -/
theorem belongs_choiceAnswer (h : ∀ o, q.Lends choice o → o.RefersTo choice)
    (fraction : Binary64) : q.Belongs choice (choiceAnswer q.outcomes choice fraction) := by
  by_cases hlends : ∃ o, q.Lends choice o
  · obtain ⟨o, ho⟩ := hlends
    have hmem : o ∈ q.outcomes := List.mem_of_mem_filter (List.mem_of_getElem? ho.place)
    exact .inl ⟨o, hmem, h o ho, (ho.feedback_choiceAnswer fraction).symm⟩
  · exact .inr (feedback_choiceAnswer_of_forall_not_lends (not_exists.mp hlends) fraction)

/-! ## Credit by position -/

/-- Where no outcome is for the right answer, a choice gets credit just when the outcome that lends
it feedback has a score. -/
theorem SourceQuestion.Lends.isCorrect_iff (h : q.Lends choice o) (hq : q.Unmixed)
    {e : Expression} (he : choiceCondition q = .ok e) :
    isCorrect e choice = true ↔ o.score ≠ 0 := by
  obtain ⟨first, hfirst, hbare⟩ := h.bare
  obtain ⟨others, hscoring⟩ := List.head?_eq_some_iff.mp hfirst
  have hcomparisons := comparisons_choiceCondition_of_bare hscoring hbare (hq h.bare) he
  rw [Scoring.isCorrect_iff hcomparisons, h.place]
  simp

/-- **Feedback is given by positions.** A choice of a converted multiple-choice question has the
feedback that the outcome in its position lends it, and the default if there is none. Where the
outcomes are unmixed, an outcome that lends its feedback has a score other than zero just when
the choice gets credit. The feedback belongs to the choice whenever the outcome that lends it
refers to the choice. -/
theorem convert_feedback_position (hkind : q.kind = .multichoice) (hq : q.Unmixed)
    (hchoices : q.choices.length < 2 * Binary64.unitsPerOne)
    (h : (q.convert c).2 = .ok question) :
    List.Forall₂ (fun choice (answer : ChoiceAnswer) =>
        (∀ o, q.Lends choice o →
          answer.feedback = o.feedback ∧ (answer.fraction.isPositive = true ↔ o.score ≠ 0)) ∧
        ((∀ o, ¬ q.Lends choice o) → answer.feedback = defaultFeedback answer.fraction) ∧
        ((∀ o, q.Lends choice o → o.RefersTo choice) → q.Belongs choice answer))
      q.choices question.choiceAnswers := by
  obtain ⟨e, xs, he, hxs, hanswers⟩ := choiceAnswers_of_convert hkind h
  rw [hanswers]
  refine forall₂_choiceAnswer_of (fun choice x hx => ?_) (fractions_isPositive hchoices hxs)
  refine ⟨fun o ho => ⟨ho.feedback_choiceAnswer x, ?_⟩,
    fun hnone => feedback_choiceAnswer_of_forall_not_lends hnone x,
    fun hrefers => belongs_choiceAnswer hrefers x⟩
  exact (Bool.eq_iff_iff.mp hx).trans (ho.isCorrect_iff hq he)

/-- Outcomes in the order of the choices lend their feedback to the choices that they refer to. -/
theorem SourceQuestion.Lends.refersTo (h : q.Lends choice o) (hq : q.InOrder) :
    o.RefersTo choice := by
  obtain ⟨-, choice', -, hindex, hrefers⟩ := hq _ o h.place
  exact hrefers.of_index_eq hindex

/-! ## Outcomes out of order -/

/-- A question with several correct choices, whose outcomes stand in another order than its
choices. -/
def crossedNode : Document.Node :=
  { name := "QUESTION"
    attributes := [("ID", "1"), ("DESCRIPTION", "Crossed")]
    children := [
      { name := "ANSWER"
        attributes := [("QTYPE", "MR")]
        children := [
          { name := "CHOICE", children := [{ name := "CONTENT", text := "a" }] },
          { name := "CHOICE", children := [{ name := "CONTENT", text := "b" }] },
          { name := "CHOICE", children := [{ name := "CONTENT", text := "c" }] }] },
      { name := "OUTCOME"
        attributes := [("ID", "1 b"), ("SCORE", "1")]
        children := [{ name := "CONDITION", text := "\"1\"" },
          { name := "CONTENT", text := "About b" }] },
      { name := "OUTCOME"
        attributes := [("ID", "0 a"), ("SCORE", "1")]
        children := [{ name := "CONDITION", text := "\"0\"" },
          { name := "CONTENT", text := "About a" }] },
      { name := "OUTCOME"
        attributes := [("ID", "2 c"), ("SCORE", "0")]
        children := [{ name := "CONDITION", text := "\"2\"" },
          { name := "CONTENT", text := "About c" }] }] }

/-- The question that is read from it. -/
def crossedQuestion : SourceQuestion :=
  { node := crossedNode
    position := 1
    tag := "MR"
    outcomes := [⟨"1 b", 1, "\"1\"", "About b"⟩, ⟨"0 a", 1, "\"0\"", "About a"⟩,
      ⟨"2 c", 0, "\"2\"", "About c"⟩]
    choices := [⟨0, "a", []⟩, ⟨1, "b", []⟩, ⟨2, "c", []⟩]
    segments := [.blank ⟨0, "a", []⟩, .blank ⟨1, "b", []⟩, .blank ⟨2, "c", []⟩] }

/-- The same choices with outcomes in their order, one of them without feedback. -/
def uncrossedQuestion : SourceQuestion :=
  { crossedQuestion with
    outcomes := [⟨"0 a", 1, "\"0\"", "About a"⟩, ⟨"1 b", 1, "\"1\"", ""⟩,
      ⟨"2 c", 0, "\"2\"", "About c"⟩] }

theorem inOrder_uncrossedQuestion : uncrossedQuestion.InOrder := by decide +kernel

theorem convert_feedback_position_uncrossed :
    uncrossedQuestion.Unmixed ∧ ∃ question,
      (uncrossedQuestion.convert blanksConfig).2 = .ok question ∧
      List.Forall₂ uncrossedQuestion.Belongs uncrossedQuestion.choices question.choiceAnswers := by
  have hquestion : (uncrossedQuestion.convert blanksConfig).2 =
      .ok ⟨⟨"Crossed", "Crossed", .html, "", "1"⟩,
        .multichoice
          [⟨"a", .finite false 1022 0, "About a"⟩, ⟨"b", .finite false 1022 0, "Correct"⟩,
            ⟨"c", .finite true 1022 0, "About c"⟩]
          false false "abc" "Correct" "Partly Correct" "Incorrect"⟩ := by decide +kernel
  have hunmixed : uncrossedQuestion.Unmixed := fun _ => by decide +kernel
  have hfeedback := convert_feedback_position (by decide +kernel) hunmixed (by decide +kernel)
    hquestion
  refine ⟨hunmixed, _, hquestion, hfeedback.imp fun choice answer h => ?_⟩
  exact h.2.2 fun o ho => ho.refersTo inOrder_uncrossedQuestion

theorem read_crossedNode :
    SourceQuestion.read blanksConfig crossedNode 1 = .ok crossedQuestion :=
  read_eq_ok crossedQuestion (by decide +kernel) (by decide +kernel) (by decide +kernel) rfl

/-- **Feedback may belong to another choice.** Not in every converted multiple-choice question is
the feedback of each choice that of an outcome that refers to it, or the default: here two correct
choices have each other's. -/
theorem not_forall_convert_belongs :
    ¬ ∀ (c : Config) (node : Document.Node) (position : Int) (q : SourceQuestion)
        (question : Question),
      SourceQuestion.read c node position = .ok q → q.kind = .multichoice →
      (q.convert c).2 = .ok question →
      List.Forall₂ q.Belongs q.choices question.choiceAnswers := by
  intro h
  have hquestion : (crossedQuestion.convert blanksConfig).2 =
      .ok ⟨⟨"Crossed", "Crossed", .html, "", "1"⟩,
        .multichoice
          [⟨"a", .finite false 1022 0, "About b"⟩, ⟨"b", .finite false 1022 0, "About a"⟩,
            ⟨"c", .finite true 1022 0, "About c"⟩]
          false false "abc" "Correct" "Partly Correct" "Incorrect"⟩ := by decide +kernel
  have hbelongs := h blanksConfig crossedNode 1 crossedQuestion _ read_crossedNode
    (by decide +kernel) hquestion
  obtain ⟨hfirst, -⟩ := List.forall₂_cons.mp hbelongs
  exact absurd hfirst (by decide +kernel)

end QuestionBank
