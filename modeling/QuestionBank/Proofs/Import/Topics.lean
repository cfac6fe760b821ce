import QuestionBank.Proofs.Import.Turns
import QuestionBank.Proofs.Text.Strip
import Mathlib.Data.List.Chain

/-!
# Questions under their topics

The topic that an import goes on with is the one of the last marker that was stored. So a
question with a topic stands behind the marker of this topic, whatever was skipped, rejected
or stored without a topic in between, and no marker repeats the one before.
-/

namespace QuestionBank

open QuestionBank.Document QuestionBank.Text

variable {σ : Type} {c : Config} {s : Sink σ}

/-! ## Markers -/

/-- The markers among questions. -/
def markers (questions : List Question) : List Question :=
  questions.filter fun question => question.kind == .category

/-- The last marker among questions. -/
def nearestMarker (questions : List Question) : Option Question := (markers questions).getLast?

theorem markers_append (questions added : List Question) :
    markers (questions ++ added) = markers questions ++ markers added :=
  List.filter_append ..

theorem markers_concat_marker (questions : List Question) (topic : String) :
    markers (questions ++ [Question.categoryMarker topic]) =
      markers questions ++ [Question.categoryMarker topic] :=
  markers_append ..

theorem markers_concat_of_ne {question : Question} (h : question.kind ≠ .category)
    (questions : List Question) : markers (questions ++ [question]) = markers questions := by
  rw [markers_append]
  simp [markers, h]

theorem nearestMarker_concat_marker (questions : List Question) (topic : String) :
    nearestMarker (questions ++ [Question.categoryMarker topic]) =
      some (Question.categoryMarker topic) := by
  rw [nearestMarker, markers_concat_marker, List.getLast?_concat]

/-- Topics without blanks at their ends have different markers if they differ. -/
theorem categoryMarker_name_ne {topic topic' : String} (h : strip topic = topic)
    (h' : strip topic' = topic') (hne : topic ≠ topic') :
    (Question.categoryMarker topic).name ≠ (Question.categoryMarker topic').name := by
  intro he
  have hnames : "$course$/" ++ strip topic = "$course$/" ++ strip topic' := he
  rw [h, h'] at hnames
  have hlists := congrArg String.toList hnames
  rw [String.toList_append, String.toList_append] at hlists
  exact hne (String.toList_inj.mp (List.append_cancel_left hlists))

theorem strip_topicOf (node : Node) : strip (topicOf node) = topicOf node := strip_strip _

/-! ## The topic of an import -/

/-- An import goes on with the topic of its last marker, and each marker differs from the one
before it. -/
structure Progress.Marked (p : Progress σ) : Prop where
  stripped : strip p.topic = p.topic
  nearest : nearestMarker p.questions =
    if p.topic = "" then none else some (Question.categoryMarker p.topic)
  successive : (markers p.questions).IsChain fun m m' => m.name ≠ m'.name

theorem marked_start (held : σ) (d : Diagnostics) :
    Progress.Marked { sink := held, diagnostics := d } :=
  ⟨(by decide : strip "" = ""), rfl, .nil⟩

namespace Progress.Marked

variable {p p' : Progress σ}

/-- A question that is no marker leaves the markers as they are. -/
theorem concat (h : p.Marked) {question : Question} (hkind : question.kind ≠ .category)
    (htopic : p'.topic = p.topic) (hquestions : p'.questions = p.questions ++ [question]) :
    p'.Marked := by
  have hmarkers : markers p'.questions = markers p.questions := by
    rw [hquestions, markers_concat_of_ne hkind]
  refine ⟨?_, ?_, ?_⟩
  · rw [htopic]
    exact h.stripped
  · rw [nearestMarker, hmarkers, htopic]
    exact h.nearest
  · rw [hmarkers]
    exact h.successive

/-- The marker of another topic is the last one then. -/
theorem concat_marker (h : p.Marked) {topic : String} (hstrip : strip topic = topic)
    (hne : topic ≠ "") (hdiffers : topic ≠ p.topic) (htopic : p'.topic = topic)
    (hquestions : p'.questions = p.questions ++ [Question.categoryMarker topic]) :
    p'.Marked := by
  refine ⟨?_, ?_, ?_⟩
  · rw [htopic]
    exact hstrip
  · rw [htopic, if_neg hne, hquestions]
    exact nearestMarker_concat_marker _ _
  · rw [hquestions, markers_concat_marker, List.isChain_append]
    refine ⟨h.successive, .singleton _, ?_⟩
    intro m hm m' hm'
    obtain rfl : Question.categoryMarker topic = m' := by simpa using hm'
    -- The last marker before is the one of the topic before.
    have hnearest : nearestMarker p.questions = some m := hm
    rw [h.nearest] at hnearest
    split at hnearest
    · cases hnearest
    · cases hnearest
      exact (categoryMarker_name_ne hstrip h.stripped hdiffers).symm

/-- A turn goes on with the topic of its last marker. -/
theorem turn {t : Turn σ} (h : t.before.Marked) (ht : t.Course c s) : t.after.Marked := by
  cases ht with
  | idle htopic hquestions =>
      refine ⟨?_, ?_, ?_⟩
      · rw [htopic]
        exact h.stripped
      · rw [hquestions, htopic]
        exact h.nearest
      · rw [hquestions]
        exact h.successive
  | taken hyields _ htopic hquestions => exact h.concat hyields.1 htopic hquestions
  | marked _ hcalls _ _ htopic hquestions =>
      exact h.concat_marker (strip_topicOf t.node) hcalls.ne_empty hcalls.ne_topic htopic hquestions
  | @filed question hyields hcalls htopic hquestions =>
      -- The marker is stored first, and the question behind it.
      let marked : Progress σ := { t.before with
        topic := topicOf t.node
        questions := t.before.questions ++ [Question.categoryMarker (topicOf t.node)] }
      have hmarked : marked.Marked :=
        h.concat_marker (strip_topicOf t.node) hcalls.ne_empty hcalls.ne_topic rfl rfl
      apply hmarked.concat hyields.1 htopic
      rw [hquestions]
      simp [marked]

/-- The markers of an import that emits none. -/
theorem markers_eq_nil (h : p.Marked) (htopic : p.topic = "") : markers p.questions = [] := by
  have hnearest := h.nearest
  rw [if_pos htopic] at hnearest
  exact List.getLast?_eq_none_iff.mp hnearest

end Progress.Marked

/-! ## Questions behind their markers -/

/-- In its turn a question with a topic is stored behind the marker of the topic. -/
theorem Turn.nearest_of_stored {t : Turn σ} (ht : t.Course c s) (hp : t.before.Marked)
    (hemit : c.emitCategories = true) (hne : topicOf t.node ≠ "") {before after : List Question}
    {question : Question} (hstored : t.stored = before ++ question :: after)
    (hkind : question.kind ≠ .category) :
    nearestMarker (t.before.questions ++ before) =
      some (Question.categoryMarker (topicOf t.node)) := by
  cases ht with
  | idle _ hquestions =>
      rw [← List.append_nil t.before.questions] at hquestions
      rw [Turn.stored_eq hquestions] at hstored
      simp at hstored
  | taken _ hcalls _ hquestions =>
      rw [Turn.stored_eq hquestions] at hstored
      obtain rfl : before = [] := by
        cases before with
        | nil => rfl
        | cons => simp at hstored
      have htopic : topicOf t.node = t.before.topic := by
        by_contra hdiffers
        exact hcalls ⟨hemit, hne, hdiffers⟩
      rw [List.append_nil, hp.nearest, ← htopic, if_neg hne]
  | marked _ _ _ _ _ hquestions =>
      rw [Turn.stored_eq hquestions] at hstored
      cases before with
      | nil =>
          obtain ⟨rfl, -⟩ := List.cons.inj hstored
          exact absurd rfl hkind
      | cons => simp at hstored
  | filed _ _ _ hquestions =>
      rw [Turn.stored_eq hquestions] at hstored
      cases before with
      | nil =>
          obtain ⟨rfl, -⟩ := List.cons.inj hstored
          exact absurd rfl hkind
      | cons m before =>
          obtain ⟨rfl, hrest⟩ := List.cons.inj hstored
          obtain rfl : before = [] := by
            cases before with
            | nil => rfl
            | cons => simp at hrest
          exact nearestMarker_concat_marker _ _

namespace Chained

variable {p p' : Progress σ} {turns : List (Turn σ)}

theorem marked (h : Chained c s p turns p') (hp : p.Marked) : p'.Marked := by
  induction h with
  | nil => exact hp
  | cons ht _ ih => exact ih (hp.turn ht)

/-- No turn marks a topic if markers are not emitted. -/
theorem topic_eq (h : Chained c s p turns p') (hemit : c.emitCategories = false) :
    p'.topic = p.topic := by
  induction h with
  | nil => rfl
  | cons ht _ ih =>
      rw [ih]
      cases ht with
      | idle htopic => exact htopic
      | taken _ _ htopic => exact htopic
      | marked _ hcalls =>
          have hon := hcalls.emit
          rw [hemit] at hon
          cases hon
      | filed _ hcalls =>
          have hon := hcalls.emit
          rw [hemit] at hon
          cases hon

/-- Along the turns, a question with a topic stands behind the marker of the topic. -/
theorem nearest (h : Chained c s p turns p') (hp : p.Marked) (hemit : c.emitCategories = true)
    {before after : List (Node × Question)} {node : Node} {question : Question}
    (hlog : logOf turns = before ++ (node, question) :: after)
    (hkind : question.kind ≠ .category) (hne : topicOf node ≠ "") :
    nearestMarker (p.questions ++ before.map Prod.snd) =
      some (Question.categoryMarker (topicOf node)) := by
  obtain ⟨earlier, t, later, first, rest, rfl, rfl, hstored, rfl, -⟩ :=
    exists_turn_of_logOf_eq_append hlog
  obtain ⟨hearlier, ht⟩ := h.of_append
  have hquestions : p.questions ++
      (logOf earlier ++ first.map fun question => (t.node, question)).map Prod.snd =
        t.before.questions ++ first := by
    rw [hearlier.questions]
    simp [Function.comp_def]
  rw [hquestions]
  exact Turn.nearest_of_stored ht (hearlier.marked hp) hemit hne hstored hkind

end Chained

/-! ## Imports -/

/-- How an import files its questions. Its turns are those of the question nodes, in the order
of the document, and each question that is stored is what its node is converted to. A question
with a topic stands behind the marker of the topic, and no marker repeats the one before. -/
structure FiledByTopic (c : Config) (root : Node) (turns : List (Turn σ)) (p : Progress σ) :
    Prop where
  nodes : turns.map (fun t => (t.node, t.position)) =
    root.questions.zipIdx.map fun entry => (entry.1, entry.2 + 1)
  questions : p.questions = (logOf turns).map Prod.snd
  yields : ∀ t ∈ turns, ∀ question ∈ t.stored, question.kind ≠ .category → t.Yields c question
  nearest : c.emitCategories = true → ∀ before node question after,
    logOf turns = before ++ (node, question) :: after → question.kind ≠ .category →
      topicOf node ≠ "" →
        nearestMarker (before.map Prod.snd) = some (Question.categoryMarker (topicOf node))
  successive : (markers p.questions).IsChain fun m m' => m.name ≠ m'.name
  unmarked : c.emitCategories = false → markers p.questions = []

theorem Turn.yields_of_stored {t : Turn σ} (ht : t.Course c s) {question : Question}
    (h : question ∈ t.stored) (hkind : question.kind ≠ .category) : t.Yields c question := by
  rcases Turn.stored_cases ht with
    hstored | ⟨question', hyields, hstored⟩ | hstored | ⟨question', hyields, hstored⟩
  · rw [hstored] at h
    cases h
  · rw [hstored] at h
    rw [List.mem_singleton.mp h]
    exact hyields
  · rw [hstored] at h
    rw [List.mem_singleton.mp h] at hkind
    exact absurd rfl hkind
  · rw [hstored] at h
    rcases List.mem_cons.mp h with rfl | h
    · exact absurd rfl hkind
    · rw [List.mem_singleton.mp h]
      exact hyields

/-- **Every question is filed under its own topic.** Whatever the document, the configuration
and the sink, an import that returns has filed its questions by topic. -/
theorem importDocument_filedByTopic {held : σ} {d : Diagnostics} {root : Node} {p : Progress σ}
    (h : importDocument c s held d root = .ok p) :
    FiledByTopic c root (importTurns c s held d root) p := by
  obtain ⟨hchained, hnodes⟩ := chained_importTurns h
  have hstart : Progress.Marked { sink := held, diagnostics := d } := marked_start held d
  have hmarked : p.Marked := hchained.marked hstart
  refine ⟨hnodes, ?_, ?_, ?_, hmarked.successive, ?_⟩
  · rw [hchained.questions]
    rfl
  · intro t ht question hquestion hkind
    exact Turn.yields_of_stored (hchained.course t ht) hquestion hkind
  · intro hemit before node question after hlog hkind hne
    exact hchained.nearest hstart hemit hlog hkind hne
  · intro hemit
    exact hmarked.markers_eq_nil (hchained.topic_eq hemit)

/-- An essay with a topic. -/
def essayNode (name topic : String) : Node :=
  { name := "QUESTION"
    attributes := [("ID", name), ("DESCRIPTION", name), ("TOPIC", topic)]
    children := [{ name := "ANSWER", attributes := [("QTYPE", "ESSAY")] }] }

/-- A document that goes back to a topic, with a question without a topic, and one of an
unknown kind, in between. -/
def topicsDocument : Node :=
  { name := "QML"
    children := [
      essayNode "First" " Trees ",
      essayNode "Second" "",
      { name := "QUESTION"
        attributes := [("ID", "Third"), ("TOPIC", "Graphs")]
        children := [{ name := "ANSWER", attributes := [("QTYPE", "HOTSPOT")] }] },
      essayNode "Fourth" "Trees",
      essayNode "Fifth" "Graphs",
      essayNode "Sixth" "Trees"] }

/-- The document is filed with a marker where a stored question has another topic than the one
before. -/
theorem importDocument_filedByTopic_topics :
    ∃ p, importDocument {} Sink.memory [] {} topicsDocument = .ok p ∧
      FiledByTopic {} topicsDocument (importTurns {} Sink.memory [] {} topicsDocument) p ∧
      p.questions.map Question.name = ["$course$/Trees", "First", "Second", "Fourth",
        "$course$/Graphs", "Fifth", "$course$/Trees", "Sixth"] := by
  have hrun : (match importDocument {} Sink.memory [] {} topicsDocument with
      | .ok p => p.questions.map Question.name == ["$course$/Trees", "First", "Second", "Fourth",
          "$course$/Graphs", "Fifth", "$course$/Trees", "Sixth"]
      | .error _ => false) = true := by decide +kernel
  split at hrun
  next p hp => exact ⟨p, hp, importDocument_filedByTopic hp, beq_iff_eq.mp hrun⟩
  next => cases hrun

end QuestionBank
