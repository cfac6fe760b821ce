import QuestionBank.Conversion.Source
import QuestionBank.Proofs.Number.Range
import QuestionBank.Proofs.Traversal

/-!
# Questions that can be read

A question node is read if each text that it holds can be cleaned and none of its
outcomes scores infinity. The scores that are read are in the range of floating-point
numbers.
-/

namespace QuestionBank

open QuestionBank.Document QuestionBank.Markup QuestionBank.Number QuestionBank.Text

/-! ## What is read -/

/-- A text of a node, with the profile that cleans it. -/
abbrev RawText := Profile × String

/-- A raw text can be cleaned. -/
def Cleanable (c : Config) (t : RawText) : Prop := ∃ s, c.clean t.1 t.2 = .ok s

/-- The text of a content node that may not be there. -/
def contentTexts (c : Config) (content : Option Node) : List RawText :=
  content.toList.map fun node => ((c.contentProfile node).1, node.markup)

/-- The texts of a choice: its content and its options. -/
def choiceTexts (c : Config) (node : Node) : List RawText :=
  (node.child? "CONTENT").toList.map (fun content => (c.answerProfile, content.markup)) ++
    (node.childrenNamed "OPTION").map fun option => (c.answerProfile, option.markup)

/-- The texts of a child of an answer. -/
def segmentTexts (c : Config) (node : Node) : List RawText :=
  if node.name == "CONTENT" then contentTexts c (some node)
  else if node.name == "CHOICE" then choiceTexts c node
  else []

/-- The texts of a question but for its own content, which is read later. -/
def questionTexts (c : Config) (node : Node) : List RawText :=
  (((node.child? "ANSWER").map Node.children).getD []).flatMap (segmentTexts c) ++
    (node.childrenNamed "OUTCOME").flatMap fun outcome =>
      contentTexts c (outcome.child? "CONTENT")

/-- An attribute names infinity, of either sign. -/
def NamesInfinity (raw : String) : Prop :=
  ∃ negative, readBinary64? (strip raw) = some (.infinite negative)

/-- An attribute names a finite number. -/
def NamesNumber (raw : String) : Prop :=
  ∃ negative e f, readBinary64? (strip raw) = some (.finite negative e f)

/-- The attribute that decides on the score of an outcome node names infinity. -/
def InfiniteScore (node : Node) : Prop :=
  NamesInfinity (node.get "SCORE") ∨
    ¬ NamesNumber (node.get "SCORE") ∧ NamesInfinity (node.get "ADD")

/-! ## Scores -/

/-- What an attribute gives: infinity ends the reading, a number is a score, and
anything else is none. -/
theorem scoreOf?_cases (raw : String) :
    NamesInfinity raw ∧ scoreOf? (strip raw) = .error .infiniteScore ∨
    NamesNumber raw ∧ ¬ NamesInfinity raw ∧ (∃ i, scoreOf? (strip raw) = .ok (some i)) ∨
    ¬ NamesNumber raw ∧ ¬ NamesInfinity raw ∧ scoreOf? (strip raw) = .ok none := by
  unfold NamesInfinity NamesNumber scoreOf?
  cases readBinary64? (strip raw) with
  | none => exact .inr (.inr (by simp))
  | some x =>
      cases x with
      | nan => exact .inr (.inr (by simp [Binary64.round]))
      | infinite negative => exact .inl (by simp [Binary64.round])
      | finite negative e f => exact .inr (.inl (by simp [Binary64.round]))

theorem scoreOf_isOk_iff {node : Node} : (∃ i, scoreOf node = .ok i) ↔ ¬ InfiniteScore node := by
  unfold scoreOf InfiniteScore
  rcases scoreOf?_cases (node.get "SCORE") with ⟨hinf, h⟩ | ⟨hnum, hfin, i, h⟩ | ⟨hnum, hfin, h⟩
  · simp [h, hinf]
  · simp [h, hfin, hnum]
  · rw [h]
    rcases scoreOf?_cases (node.get "ADD") with ⟨hinf', h'⟩ | ⟨-, hfin', i, h'⟩ | ⟨-, hfin', h'⟩
    · simp [h', hnum, hinf', Except.map]
    · simp [h', hfin, hfin', Except.map]
    · simp [h', hfin, hfin', Except.map]

/-! ## Parts of a question -/

theorem contentOf_isOk_iff (c : Config) (content : Option Node) :
    (∃ p, c.contentOf content = .ok p) ↔ ∀ t ∈ contentTexts c content, Cleanable c t := by
  cases content with
  | none => simp [Config.contentOf, contentTexts]
  | some node => simp [Config.contentOf, contentTexts, Cleanable, Traversal.map_isOk_iff]

theorem plain_isOk_iff (c : Config) (raw : String) :
    (∃ s, c.plain raw = .ok s) ↔ Cleanable c (c.answerProfile, raw) := Traversal.map_isOk_iff

theorem readChoice_isOk_iff (c : Config) (index : Nat) (node : Node) :
    (∃ choice, readChoice c index node = .ok choice) ↔
      ∀ t ∈ choiceTexts c node, Cleanable c t := by
  have hoptions : (∃ options, ((node.childrenNamed "OPTION").mapM
        fun option => c.plain option.markup) = .ok options) ↔
      ∀ t ∈ (node.childrenNamed "OPTION").map (fun option => (c.answerProfile, option.markup)),
        Cleanable c t := by
    rw [Traversal.mapM_isOk_iff, List.forall_mem_map]
    exact forall₂_congr fun option _ => plain_isOk_iff c option.markup
  rw [choiceTexts, List.forall_mem_append, ← hoptions, readChoice]
  cases node.child? "CONTENT" with
  | none => simp [Traversal.map_isOk_iff]
  | some content =>
      have hcontent := plain_isOk_iff c content.markup
      cases hplain : c.plain content.markup with
      | error b => simp_all
      | ok s => simp_all [Traversal.map_isOk_iff]

theorem readSegments_isOk_iff (c : Config) (index : Nat) (nodes : List Node) :
    (∃ segments, readSegments c index nodes = .ok segments) ↔
      ∀ t ∈ nodes.flatMap (segmentTexts c), Cleanable c t := by
  induction nodes generalizing index with
  | nil => simp [readSegments]
  | cons node nodes ih =>
      rw [List.flatMap_cons, List.forall_mem_append, readSegments, segmentTexts]
      split
      next =>
        have hcontent := contentOf_isOk_iff c (some node)
        cases hread : c.contentOf (some node) with
        | error b => simp_all
        | ok p => simp_all [Traversal.map_isOk_iff]
      next =>
        split
        next =>
          have hchoice := readChoice_isOk_iff c index node
          cases hread : readChoice c index node with
          | error b => simp_all
          | ok choice => simp_all [Traversal.map_isOk_iff]
        next => simp [ih]

theorem readOutcome_isOk_iff (c : Config) (node : Node) :
    (∃ o, readOutcome c node = .ok o) ↔
      (∀ t ∈ contentTexts c (node.child? "CONTENT"), Cleanable c t) ∧ ¬ InfiniteScore node := by
  rw [← contentOf_isOk_iff, ← scoreOf_isOk_iff, readOutcome]
  cases c.contentOf (node.child? "CONTENT") with
  | error b => simp
  | ok p => simp [Traversal.map_isOk_iff]

/-- **A question is read unless a text is refused or a score is infinite.** -/
theorem read_isOk_iff {c : Config} {node : Node} {position : Int} :
    (∃ q, SourceQuestion.read c node position = .ok q) ↔
      (∀ t ∈ questionTexts c node, Cleanable c t) ∧
        ∀ outcome ∈ node.childrenNamed "OUTCOME", ¬ InfiniteScore outcome := by
  have houtcomes :
      (∃ outcomes, (node.childrenNamed "OUTCOME").mapM (readOutcome c) = .ok outcomes) ↔
      (∀ t ∈ (node.childrenNamed "OUTCOME").flatMap fun outcome =>
        contentTexts c (outcome.child? "CONTENT"), Cleanable c t) ∧
      ∀ outcome ∈ node.childrenNamed "OUTCOME", ¬ InfiniteScore outcome := by
    rw [Traversal.mapM_isOk_iff, List.forall_mem_flatMap, ← forall₂_and]
    exact forall₂_congr fun outcome _ => readOutcome_isOk_iff c outcome
  rw [questionTexts, List.forall_mem_append, and_assoc, ← houtcomes,
    ← readSegments_isOk_iff c 0]
  unfold SourceQuestion.read
  dsimp only
  cases readSegments c 0 (((node.child? "ANSWER").map Node.children).getD []) with
  | error b => simp
  | ok segments => simp [Traversal.map_isOk_iff]

/-! ## What is known of a question that is read -/

theorem inRange_of_readOutcome {c : Config} {node : Node} {o : Outcome}
    (h : readOutcome c node = .ok o) : Scoring.InRange o.score := by
  unfold readOutcome at h
  split at h
  · cases h
  · obtain ⟨score, hscore, rfl⟩ := Traversal.map_eq_ok_iff.mp h
    exact inRange_of_scoreOf hscore

variable {c : Config} {node : Node} {position : Int} {q : SourceQuestion}

theorem inRange_of_read (h : SourceQuestion.read c node position = .ok q) :
    ∀ o ∈ q.outcomes, Scoring.InRange o.score := by
  unfold SourceQuestion.read at h
  dsimp only at h
  split at h
  · cases h
  · obtain ⟨outcomes, houtcomes, rfl⟩ := Traversal.map_eq_ok_iff.mp h
    intro o ho
    obtain ⟨node, -, hnode⟩ := Traversal.exists_of_mem_mapM houtcomes ho
    exact inRange_of_readOutcome hnode

/-- The blanks of a question are its choices. -/
def SourceQuestion.Coherent (q : SourceQuestion) : Prop :=
  q.choices = q.segments.filterMap Segment.choice?

theorem coherent_of_read (h : SourceQuestion.read c node position = .ok q) : q.Coherent := by
  unfold SourceQuestion.read at h
  dsimp only at h
  split at h
  · cases h
  · obtain ⟨outcomes, -, rfl⟩ := Traversal.map_eq_ok_iff.mp h
    rfl

/-- A question is read from its node if its parts are. -/
theorem read_eq_ok (q : SourceQuestion)
    (hsegments : readSegments c 0 (((q.node.child? "ANSWER").map Node.children).getD []) =
      .ok q.segments)
    (houtcomes : (q.node.childrenNamed "OUTCOME").mapM (readOutcome c) = .ok q.outcomes)
    (htag : ((q.node.child? "ANSWER").map fun a => strip (a.get "QTYPE")).getD "" = q.tag)
    (hchoices : q.Coherent) : SourceQuestion.read c q.node q.position = .ok q := by
  unfold SourceQuestion.read
  simp only [hsegments, houtcomes, htag, Except.map]
  rw [← hchoices]

/-! ## Choices that are read -/

theorem exists_readChoice_of_readSegments {index : Nat} {nodes : List Node}
    {segments : List Segment} (h : readSegments c index nodes = .ok segments) :
    ∀ choice ∈ segments.filterMap Segment.choice?, ∃ i node, readChoice c i node = .ok choice := by
  induction nodes generalizing index segments with
  | nil =>
      cases h
      exact List.forall_mem_nil _
  | cons node nodes ih =>
      rw [readSegments] at h
      split at h
      · split at h
        · cases h
        · obtain ⟨rest, hrest, rfl⟩ := Traversal.map_eq_ok_iff.mp h
          rw [List.filterMap_cons_none rfl]
          exact ih hrest
      split at h
      · split at h
        · cases h
        next first hfirst =>
          obtain ⟨rest, hrest, rfl⟩ := Traversal.map_eq_ok_iff.mp h
          exact List.forall_mem_cons.mpr ⟨⟨index, node, hfirst⟩, ih hrest⟩
      · exact ih h

/-- Each choice of a question is read from a node. -/
theorem exists_readChoice_of_read (h : SourceQuestion.read c node position = .ok q) :
    ∀ choice ∈ q.choices, ∃ i node, readChoice c i node = .ok choice := by
  unfold SourceQuestion.read at h
  dsimp only at h
  split at h
  · cases h
  next segments hsegments =>
    obtain ⟨outcomes, -, rfl⟩ := Traversal.map_eq_ok_iff.mp h
    exact exists_readChoice_of_readSegments hsegments

end QuestionBank
