import QuestionBank.Proofs.Conversion.Choices

/-!
# The key of true/false questions

A true/false question has two choices, of which one says "true". The key is told by places: the
first two outcomes that are not unconditional stand for the two choices, whatever choices they
refer to. So the key is that of the choice in whose place the scoring outcome stands, which is
the choice that the outcome refers to when the outcomes stand in the order of the choices.
-/

namespace QuestionBank

open QuestionBank.Scoring QuestionBank.Text

namespace SourceQuestion

/-- The outcomes of a question that depend on the response. -/
def branches (q : SourceQuestion) : List Outcome := q.outcomes.filter fun o => !o.isAlways

/-- A question has two choices, of which one means "true". Its outcomes refer to them or are for
all others, and just one of them, in some place, has a positive score and refers to a choice,
which is the key. -/
@[mk_iff]
structure Keyed (q : SourceQuestion) (key : Choice) (place : Nat) : Prop where
  two : q.choices.length = 2
  oneTrue : (q.choices.map meansTrue).Nodup
  isChoice : key ∈ q.choices
  branched : 2 ≤ q.branches.length
  refers : ∀ o ∈ q.branches, (∃ choice ∈ q.choices, o.RefersTo choice) ∨ o.isOther = true
  scores : ∃ h : place < q.branches.length,
    0 < q.branches[place].score ∧ q.branches[place].RefersTo key
  alone : ∀ i (h : i < q.branches.length), 0 < q.branches[i].score → i = place

instance (q : SourceQuestion) (key : Choice) (place : Nat) : Decidable (q.Keyed key place) :=
  decidable_of_iff _ (keyed_iff q key place).symm

end SourceQuestion

variable {q : SourceQuestion} {key : Choice} {place : Nat}

/-- Just the outcome in the place of the key has a positive score. -/
theorem SourceQuestion.Keyed.score_pos_iff (h : q.Keyed key place) {i : Nat} {o : Outcome}
    (ho : q.branches[i]? = some o) : 0 < o.score ↔ i = place := by
  obtain ⟨hi, rfl⟩ := List.getElem?_eq_some_iff.mp ho
  constructor
  · exact h.alone i hi
  · rintro rfl
    exact h.scores.2.1

/-- One of two choices is the key, and just one of them means "true". -/
theorem SourceQuestion.Keyed.exists_choices (h : q.Keyed key place) :
    ∃ first second, q.choices = [first, second] ∧ meansTrue first ≠ meansTrue second ∧
      (key = first ∨ key = second) := by
  obtain ⟨first, second, hchoices⟩ := List.length_eq_two.mp h.two
  have hone := h.oneTrue
  have hkey := h.isChoice
  rw [hchoices] at hone hkey
  exact ⟨first, second, hchoices, by simpa using hone, by simpa using hkey⟩

/-- Of the first two outcomes that are not unconditional, the one in the place of the key scores. -/
theorem SourceQuestion.Keyed.exists_branches (h : q.Keyed key place) :
    ∃ o o' others, q.branches = o :: o' :: others ∧
      (0 < o.score ↔ 0 = place) ∧ (0 < o'.score ↔ 1 = place) := by
  have hlength := h.branched
  match hbranches : q.branches with
  | o :: o' :: others =>
    have hfirst : q.branches[0]? = some o := by rw [hbranches]; rfl
    have hsecond : q.branches[1]? = some o' := by rw [hbranches]; rfl
    exact ⟨o, o', others, rfl, h.score_pos_iff hfirst, h.score_pos_iff hsecond⟩
  | [_] => simp [hbranches] at hlength
  | [] => simp [hbranches] at hlength

/-- The draft of a true/false question takes the first two outcomes for its choices. -/
theorem trueFalseDraft_eq {first : Choice} {choices : List Choice} {o o' : Outcome}
    {others : List Outcome} (hchoices : q.choices = first :: choices)
    (hbranches : q.branches = o :: o' :: others) :
    ∃ yes no, trueFalseDraft q = .ok fun header => .ok
      { header
        body := .trueFalse (decide (0 < (if meansTrue first then o else o').score)) yes no } := by
  unfold SourceQuestion.branches at hbranches
  unfold trueFalseDraft
  simp only [hchoices, hbranches]
  cases meansTrue first with
  | true => exact ⟨_, _, rfl⟩
  | false => exact ⟨_, _, rfl⟩

/-- The outcome for "true" scores just when the choice in the place of the scoring outcome means
"true". -/
theorem placed_score_iff {first second : Choice} (hone : meansTrue first ≠ meansTrue second)
    {o o' : Outcome} (hfirst : 0 < o.score ↔ 0 = place) (hsecond : 0 < o'.score ↔ 1 = place) :
    0 < (if meansTrue first then o else o').score ↔
      ∃ choice, [first, second][place]? = some choice ∧ meansTrue choice = true := by
  have hother : (!meansTrue first) = meansTrue second := Bool.not_eq.mpr hone
  rw [apply_ite Outcome.score, apply_ite (0 < ·), hfirst, hsecond]
  match place with
  | 0 => simp
  | 1 =>
    cases hmeans : meansTrue first with
    | true => simp [← hother, hmeans]
    | false => simp [← hother, hmeans]
  | place + 2 => simp

/-- Of two choices the one in a place means "true" just when the key does, if the key is in this
place, or if no choice is and the key does not mean "true". -/
theorem placed_true_iff {first second : Choice} (hone : meansTrue first ≠ meansTrue second)
    (hkey : key = first ∨ key = second) (place : Nat) :
    ((∃ choice, [first, second][place]? = some choice ∧ meansTrue choice = true) ↔
        meansTrue key = true) ↔
      [first, second][place]? = some key ∨ 2 ≤ place ∧ meansTrue key = false := by
  have hne : first ≠ second := fun h => hone (congrArg meansTrue h)
  match place with
  | 0 => rcases hkey with rfl | rfl <;> simp [hne, hone]
  | 1 => rcases hkey with rfl | rfl <;> simp [hne.symm, hone.symm]
  | place + 2 => simp

/-- **The key of a true/false question is told by places.** A question with a key is converted
whenever its header can be read, and the answer does not depend on the header. It is "true" just
when the choice in the place of the scoring outcome means "true". So the answer is "true" just
when the key means "true", if the scoring outcome stands in the place of the key, or if it stands
behind the first two and the key does not mean "true"; otherwise the answer is the wrong one. -/
theorem convert_key (hkind : q.kind = .trueFalse) (h : q.Keyed key place) :
    ∃ answer yes no,
      (∀ c header, q.header c = .ok header →
        (q.convert c).2 = .ok ⟨header, .trueFalse answer yes no⟩) ∧
      (answer = true ↔ ∃ choice, q.choices[place]? = some choice ∧ meansTrue choice = true) ∧
      ((answer = true ↔ meansTrue key = true) ↔
        q.choices[place]? = some key ∨ 2 ≤ place ∧ meansTrue key = false) := by
  obtain ⟨first, second, hchoices, hone, hkey⟩ := h.exists_choices
  obtain ⟨o, o', others, hbranches, hfirst, hsecond⟩ := h.exists_branches
  have hanswer := placed_score_iff hone hfirst hsecond
  obtain ⟨yes, no, hdraft⟩ := trueFalseDraft_eq hchoices hbranches
  refine ⟨decide (0 < (if meansTrue first then o else o').score), yes, no, ?_, ?_, ?_⟩
  · intro c header hheader
    rw [SourceQuestion.convert, SourceQuestion.draft, hkind]
    dsimp only
    rw [hdraft]
    simp only [SourceQuestion.finish, hheader]
  · rw [decide_eq_true_iff, hchoices]
    exact hanswer
  · rw [decide_eq_true_iff, hanswer, hchoices]
    exact placed_true_iff hone hkey place

/-! ## Outcomes out of order -/

/-- A true/false question whose outcomes stand in another order than its choices. -/
def swappedNode : Document.Node :=
  { name := "QUESTION"
    attributes := [("ID", "1"), ("DESCRIPTION", "Swapped")]
    children := [
      { name := "ANSWER"
        attributes := [("QTYPE", "TF")]
        children := [
          { name := "CHOICE", children := [{ name := "CONTENT", text := "True" }] },
          { name := "CHOICE", children := [{ name := "CONTENT", text := "False" }] }] },
      { name := "OUTCOME"
        attributes := [("ID", "1 False"), ("SCORE", "0")]
        children := [{ name := "CONDITION", text := "\"1\"" }] },
      { name := "OUTCOME"
        attributes := [("ID", "0 True"), ("SCORE", "1")]
        children := [{ name := "CONDITION", text := "\"0\"" }] }] }

/-- The question that is read from it. -/
def swappedQuestion : SourceQuestion :=
  { node := swappedNode
    position := 1
    tag := "TF"
    outcomes := [⟨"1 False", 0, "\"1\"", ""⟩, ⟨"0 True", 1, "\"0\"", ""⟩]
    choices := [⟨0, "True", []⟩, ⟨1, "False", []⟩]
    segments := [.blank ⟨0, "True", []⟩, .blank ⟨1, "False", []⟩] }

/-- The same choices with outcomes in their order, of which the second is for all others. -/
def orderedQuestion : SourceQuestion :=
  { swappedQuestion with
    outcomes := [⟨"right", 1, "\"0\"", "Yes"⟩, ⟨"wrong", 0, "OTHER", "No"⟩] }

theorem convert_key_ordered :
    orderedQuestion.Keyed ⟨0, "True", []⟩ 0 ∧ ∃ header answer yes no,
      (orderedQuestion.convert blanksConfig).2 = .ok ⟨header, .trueFalse answer yes no⟩ ∧
        (answer = true ↔ meansTrue ⟨0, "True", []⟩ = true) := by
  have hkeyed : orderedQuestion.Keyed ⟨0, "True", []⟩ 0 := by decide +kernel
  obtain ⟨answer, yes, no, hconvert, -, hkey⟩ := convert_key (by decide +kernel) hkeyed
  have hheader : orderedQuestion.header blanksConfig =
      .ok ⟨"Swapped", "Swapped", .html, "", "1"⟩ := by decide +kernel
  exact ⟨hkeyed, _, answer, yes, no, hconvert _ _ hheader, hkey.mpr (.inl rfl)⟩

theorem read_swappedNode :
    SourceQuestion.read blanksConfig swappedNode 1 = .ok swappedQuestion :=
  read_eq_ok swappedQuestion (by decide +kernel) (by decide +kernel) (by decide +kernel) rfl

/-- **The key may be turned round.** Not every converted true/false question with a key has the
answer that the key means: here the outcome of the key stands in the place of the other choice. -/
theorem not_forall_convert_key :
    ¬ ∀ (c : Config) (node : Document.Node) (position : Int) (q : SourceQuestion) (key : Choice)
        (place : Nat) (header : Header) (answer : Bool) (yes no : String),
      SourceQuestion.read c node position = .ok q → q.kind = .trueFalse → q.Keyed key place →
      (q.convert c).2 = .ok ⟨header, .trueFalse answer yes no⟩ →
      (answer = true ↔ meansTrue key = true) := by
  intro h
  have hquestion : (swappedQuestion.convert blanksConfig).2 =
      .ok ⟨⟨"Swapped", "Swapped", .html, "", "1"⟩, .trueFalse false "" ""⟩ := by decide +kernel
  have hkeyed : swappedQuestion.Keyed ⟨0, "True", []⟩ 1 := by decide +kernel
  have hkey := h blanksConfig swappedNode 1 swappedQuestion _ _ _ _ _ _ read_swappedNode
    (by decide +kernel) hkeyed hquestion
  exact absurd (hkey.mpr (by decide +kernel)) Bool.false_ne_true

end QuestionBank
