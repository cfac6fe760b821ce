import QuestionBank.Proofs.Conversion.Distractors

/-!
# Which options a matching question keeps

A matching question has a pair for each choice whose stem has a correct match, of which the first
one is the answer, and a pair without a stem for each option that no match takes. A match that
is not the answer of a choice takes its options all the same: one without a score, another
correct one of the same stem, or one of a stem that no choice has. So an option is lost just when
all options of its words are taken and no choice has an answer of these words.
-/

namespace QuestionBank

open QuestionBank.Scoring QuestionBank.Text

/-! ## Options of a question -/

/-- The pairs of a matching question. -/
def Question.pairs (q : Question) : List MatchPair :=
  match q.body with
  | .matching pairs .. => pairs
  | _ => []

/-- A matching question keeps an option that is alike the answer of a pair. -/
def Question.Keeps (q : Question) (s : String) : Prop := ∃ pair ∈ q.pairs, Alike pair.answer s

instance (q : Question) (s : String) : Decidable (q.Keeps s) :=
  inferInstanceAs (Decidable (∃ pair ∈ _, _))

namespace SourceQuestion

/-- The options of all choices. -/
def options (q : SourceQuestion) : List String := q.choices.flatMap Choice.options

/-- The matches of a question, and the options that none of them takes. -/
def matched (q : SourceQuestion) (set : OutcomeSet) : MatchResult :=
  synthesizeMatches set q.optionPool

/-- No match takes a text. -/
def LeftOver (q : SourceQuestion) (set : OutcomeSet) (s : String) : Prop :=
  ∀ m ∈ (q.matched set).found, ¬ m.Takes s

/-- The answer of a choice is the first correct match of its stem. -/
def Answers (q : SourceQuestion) (set : OutcomeSet) (choice : Choice) (m : Match) : Prop :=
  ((q.matched set).matchesFor choice.key).find? Match.isCorrect = some m

/-- A choice has an answer that is alike a text. -/
def Claimed (q : SourceQuestion) (set : OutcomeSet) (s : String) : Prop :=
  ∃ choice ∈ q.choices, ∃ m, q.Answers set choice m ∧ Alike m.answer s

/-- The pool of options holds each option of a choice. -/
theorem mem_optionPool {q : SourceQuestion} {s : String} :
    s ∈ q.optionPool.map Choice.content ↔ s ∈ q.options := by
  have hpool : q.optionPool.map Choice.content = q.options.foldl MatchResult.addNew [] := by
    apply List.ext_getElem?
    intro i
    rw [optionPool, List.getElem?_map, List.getElem?_mapIdx, Option.map_map]
    exact Option.map_id'
  rw [hpool, MatchResult.foldl_addNew_nil, mem_firstOfEach_id]

end SourceQuestion

variable {c : Config} {q : SourceQuestion} {question : Question} {set : OutcomeSet}

theorem mem_leftOver_iff {s : String} :
    s ∈ (q.matched set).residualTexts ↔ s ∈ q.options ∧ q.LeftOver set s :=
  mem_residualTexts_iff.trans (and_congr_left' SourceQuestion.mem_optionPool)

/-! ## Pairs -/

/-- A question has the pairs of the choices of a source question, and one for each option that is
left over. -/
structure Question.PairedBy (question : Question) (q : SourceQuestion) (set : OutcomeSet) :
    Prop where
  aggregated : aggregate (some q.id) q.outcomes = .ok set
  pairs_eq : question.pairs = q.choices.filterMap (pairOf (q.matched set)) ++
    (q.matched set).residualTexts.map fun text => ⟨"", text⟩

theorem pairs_of_convert (hkind : q.kind = .matching) (h : (q.convert c).2 = .ok question) :
    ∃ set, question.PairedBy q set := by
  obtain ⟨draft, header, hdraft, -, hquestion⟩ := convert_eq_ok h
  rw [SourceQuestion.draft, hkind] at hdraft
  dsimp only at hdraft
  unfold matchingDraft at hdraft
  split at hdraft
  · cases hdraft
  split at hdraft
  · cases hdraft
  next set hset =>
    dsimp only at hdraft
    split at hdraft
    · cases hdraft
    · cases hdraft
      cases hquestion
      exact ⟨set, hset, rfl⟩

/-- A pair is that of a choice and its answer, or that of an option that is left over. -/
theorem Question.PairedBy.mem_iff (h : question.PairedBy q set) {pair : MatchPair} :
    pair ∈ question.pairs ↔
      (∃ choice ∈ q.choices, ∃ m, q.Answers set choice m ∧ ⟨choice.content, m.answer⟩ = pair) ∨
        ∃ t ∈ q.options, q.LeftOver set t ∧ ⟨"", t⟩ = pair := by
  rw [h.pairs_eq, List.mem_append]
  apply or_congr
  · simp only [List.mem_filterMap, pairOf, Option.map_eq_some_iff, SourceQuestion.Answers]
  · simp only [List.mem_map, mem_leftOver_iff, and_assoc]

/-- What is taken by a match that is alike the answer of a choice is claimed. -/
theorem SourceQuestion.Claimed.of_takes {m : Match} {s : String} (h : q.Claimed set m.answer)
    (htakes : m.Takes s) : q.Claimed set s := by
  obtain ⟨choice, hchoice, m', hm', halike⟩ := h
  exact ⟨choice, hchoice, m', hm', halike.trans htakes.alike⟩

/-- **Which options a matching question keeps.** A converted matching question has each option that
no match takes as the answer of a pair without a stem. It keeps a text just when a choice has
an answer of the same words, or no match takes some option of the same words, letter case left
aside. So all options are kept if each match that takes one is alike the answer of a choice. -/
theorem convert_matching_kept (hkind : q.kind = .matching)
    (h : (q.convert c).2 = .ok question) :
    ∃ set, aggregate (some q.id) q.outcomes = .ok set ∧
      (∀ s ∈ q.options, q.LeftOver set s → ⟨"", s⟩ ∈ question.pairs) ∧
      (∀ s, question.Keeps s ↔
        q.Claimed set s ∨ ∃ t ∈ q.options, Alike t s ∧ q.LeftOver set t) ∧
      ((∀ m ∈ (q.matched set).found, (∃ s ∈ q.options, m.Takes s) → q.Claimed set m.answer) →
        ∀ s ∈ q.options, question.Keeps s) := by
  obtain ⟨set, hpairs⟩ := pairs_of_convert hkind h
  have hkeeps (s : String) : question.Keeps s ↔
      q.Claimed set s ∨ ∃ t ∈ q.options, Alike t s ∧ q.LeftOver set t := by
    unfold Question.Keeps
    simp only [hpairs.mem_iff]
    constructor
    · rintro ⟨_, ⟨choice, hchoice, m, hm, rfl⟩ | ⟨t, ht, hleft, rfl⟩, halike⟩
      · exact .inl ⟨choice, hchoice, m, hm, halike⟩
      · exact .inr ⟨t, ht, halike, hleft⟩
    · rintro (⟨choice, hchoice, m, hm, halike⟩ | ⟨t, ht, halike, hleft⟩)
      · exact ⟨_, .inl ⟨choice, hchoice, m, hm, rfl⟩, halike⟩
      · exact ⟨_, .inr ⟨t, ht, hleft, rfl⟩, halike⟩
  refine ⟨set, hpairs.aggregated, fun s hs hleft => ?_, hkeeps, fun hclaimed s hs => ?_⟩
  · exact hpairs.mem_iff.mpr (.inr ⟨s, hs, hleft, rfl⟩)
  · rw [hkeeps]
    by_cases hleft : q.LeftOver set s
    · exact .inr ⟨s, hs, rfl, hleft⟩
    · obtain ⟨m, hm, htakes⟩ : ∃ m ∈ (q.matched set).found, m.Takes s := by
        simpa [SourceQuestion.LeftOver] using hleft
      exact .inl ((hclaimed m hm ⟨s, hs, htakes⟩).of_takes htakes)

/-! ## An option without a score -/

/-- A stem with three options, of which one is right and one is named by an outcome that scores
nothing. -/
def capitalNode : Document.Node :=
  { name := "QUESTION"
    attributes := [("ID", "1"), ("DESCRIPTION", "Capital")]
    children := [
      { name := "ANSWER"
        attributes := [("QTYPE", "MATCH")]
        children := [
          { name := "CHOICE"
            children := [{ name := "CONTENT", text := "France" },
              { name := "OPTION", text := "Paris" }, { name := "OPTION", text := "Lyon" },
              { name := "OPTION", text := "Oslo" }] }] },
      { name := "OUTCOME"
        attributes := [("ID", "0 Paris"), ("SCORE", "1")]
        children := [{ name := "CONDITION", text := "\"0\" MATCHES \"Paris\"" }] },
      { name := "OUTCOME"
        attributes := [("ID", "0 Lyon"), ("SCORE", "0")]
        children := [{ name := "CONDITION", text := "\"0\" MATCHES \"Lyon\"" }] }] }

/-- The question that is read from it. -/
def capitalQuestion : SourceQuestion :=
  { node := capitalNode
    position := 1
    tag := "MATCH"
    outcomes := [⟨"0 Paris", 1, "\"0\" MATCHES \"Paris\"", ""⟩,
      ⟨"0 Lyon", 0, "\"0\" MATCHES \"Lyon\"", ""⟩]
    choices := [⟨0, "France", ["Paris", "Lyon", "Oslo"]⟩]
    segments := [.blank ⟨0, "France", ["Paris", "Lyon", "Oslo"]⟩] }

/-- What it is converted to. -/
def capitalConverted : Question :=
  ⟨⟨"Capital", "Capital", .html, "", "1"⟩,
    .matching [⟨"France", "Paris"⟩, ⟨"", "Oslo"⟩] false "Correct" "Incorrect"⟩

theorem convert_capitalQuestion :
    (capitalQuestion.convert {}).2 = .ok capitalConverted := by decide +kernel

/-- The option without an outcome is kept. The one that an outcome without a score names is not:
it is neither the answer of a choice nor left over. -/
theorem convert_matching_kept_capital :
    capitalQuestion.kind = .matching ∧ (capitalQuestion.convert {}).2 = .ok capitalConverted ∧
    capitalConverted.Keeps "Oslo" ∧ ¬ capitalConverted.Keeps "Lyon" ∧
    ∃ set, aggregate (some capitalQuestion.id) capitalQuestion.outcomes = .ok set ∧
      ¬ capitalQuestion.Claimed set "Lyon" ∧ ¬ capitalQuestion.LeftOver set "Lyon" := by
  have hkind : capitalQuestion.kind = .matching := by decide +kernel
  have hlost : ¬ capitalConverted.Keeps "Lyon" := by decide +kernel
  obtain ⟨set, hset, -, hkeeps, -⟩ := convert_matching_kept hkind convert_capitalQuestion
  refine ⟨hkind, convert_capitalQuestion, by decide +kernel, hlost, set, hset, ?_⟩
  rw [hkeeps, not_or] at hlost
  exact ⟨hlost.1, fun hleft => hlost.2 ⟨"Lyon", by decide +kernel, rfl, hleft⟩⟩

theorem read_capitalNode : SourceQuestion.read {} capitalNode 1 = .ok capitalQuestion :=
  read_eq_ok capitalQuestion (by decide +kernel) (by decide +kernel) (by decide +kernel) rfl

/-- **An option may be lost.** Not every option of a converted matching question is kept: here one
is taken by a match without a score, which is the answer of no choice. -/
theorem not_forall_matching_kept :
    ¬ ∀ (c : Config) (node : Document.Node) (position : Int) (q : SourceQuestion)
        (question : Question),
      SourceQuestion.read c node position = .ok q → q.kind = .matching →
      (q.convert c).2 = .ok question → ∀ s ∈ q.options, question.Keeps s := by
  intro h
  have hkept := h {} capitalNode 1 capitalQuestion capitalConverted read_capitalNode
    (by decide +kernel) convert_capitalQuestion "Lyon" (by decide +kernel)
  exact absurd hkept (by decide +kernel)

end QuestionBank
