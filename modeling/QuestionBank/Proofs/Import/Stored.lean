import QuestionBank.Proofs.Conversion.Valid
import QuestionBank.Proofs.Import.Turns

/-!
# What an import stores

The sink of an import takes the stored questions one by one, and nothing else. Each of them is
the marker of a topic, or the question that a node of the document is converted to. In a
document whose texts hold no beginning of a block every stored question is sound.
-/

namespace QuestionBank

open QuestionBank.Cloze QuestionBank.Document

variable {σ : Type} {c : Config} {s : Sink σ} {held : σ} {d : Diagnostics} {root : Node}
  {p p' : Progress σ}

/-! ## The sink and the questions that it took -/

section Keeps

/- What is kept by each question that a sink takes. -/
variable {P : σ → List Question → Prop}
  (hadd : ∀ (held held' : σ) (questions : List Question) (question : Question),
    P held questions → s.add held question.toRecord = .ok held' →
      P held' (questions ++ [question]))

include hadd

theorem Progress.mark_keeps {emit : Bool} {topic : String} (h : P p.sink p.questions)
    (hmark : p.mark s emit topic = .ok p') : P p'.sink p'.questions := by
  rcases mark_cases hmark with rfl | ⟨held', hstored, rfl⟩
  · exact h
  · exact hadd _ _ _ _ h hstored

theorem Progress.store_keeps {label : QuestionLabel} {question : Question}
    (h : P p.sink p.questions) (hstore : p.store s label question = .ok p') :
    P p'.sink p'.questions := by
  rcases store_cases hstore with ⟨held', hstored, rfl⟩ | ⟨violation, -, rfl⟩
  · exact hadd _ _ _ _ h hstored
  · exact h

theorem Progress.step_keeps {emit : Bool} {v : Conversion} (h : P p.sink p.questions)
    (hstep : p.step s emit v = .ok p') : P p'.sink p'.questions := by
  rcases step_cases hstep with
    ⟨f, -, rfl⟩ | ⟨question, tag, -, -, rfl⟩ | ⟨question, marked, -, -, hmark, hstore⟩
  · exact h
  · exact h
  · have htold : P (p.tell v.label v.notices).sink (p.tell v.label v.notices).questions := h
    exact store_keeps hadd (mark_keeps hadd htold hmark) hstore

theorem Progress.steps_keeps {emit : Bool} {vs : List Conversion} (h : P p.sink p.questions)
    (hsteps : steps s emit vs p = .ok p') : P p'.sink p'.questions := by
  induction vs generalizing p with
  | nil =>
      cases hsteps
      exact h
  | cons v vs ih =>
      rw [steps] at hsteps
      cases hstep : p.step s emit v with
      | error fault =>
          rw [hstep] at hsteps
          cases hsteps
      | ok p₁ =>
          rw [hstep] at hsteps
          exact ih (step_keeps hadd h hstep) hsteps

/-- What holds before an import and is kept by each question holds after it. -/
theorem importDocument_keeps (h : importDocument c s held d root = .ok p) (hstart : P held []) :
    P p.sink p.questions := by
  unfold importDocument at h
  split at h
  · cases h
  next vs _ =>
    split at h
    · cases h
    next hsteps =>
      cases h
      exact Progress.steps_keeps hadd hstart hsteps

end Keeps

/-- A bank in memory holds the records of what was stored, none of it of an unknown kind. -/
theorem importDocument_memory {p : Progress (List Record)}
    (h : importDocument c Sink.memory [] d root = .ok p) :
    p.sink = p.questions.map Question.toRecord ∧
      ∀ question ∈ p.questions, question.kind ≠ .unknown := by
  refine importDocument_keeps (P := fun held questions =>
    held = questions.map Question.toRecord ∧ ∀ question ∈ questions, question.kind ≠ .unknown)
    ?_ h ⟨rfl, List.forall_mem_nil _⟩
  rintro held held' questions question ⟨hheld, hkinds⟩ hstored
  have hknown : question.kind ≠ .unknown := by
    intro hunknown
    simp [Sink.memory, Question.toRecord, hunknown] at hstored
  have hheld' : held' = held ++ [question.toRecord] := keeps_memory held _ held' hstored
  constructor
  · rw [hheld', hheld, List.map_append, List.map_singleton]
  · rw [List.forall_mem_append]
    exact ⟨hkinds, List.forall_mem_singleton.mpr hknown⟩

/-! ## Where questions come from -/

/-- What is stored is the marker of a topic or comes of a node. -/
theorem exists_of_mem_questions (h : importDocument c s held d root = .ok p) {question : Question}
    (hmem : question ∈ p.questions) :
    (∃ topic, question = Question.categoryMarker topic) ∨
      ∃ (i : Nat) (node : Node) (v : Conversion), root.questions[i]? = some node ∧
        convertNode c node (i + 1) = .ok v ∧ v.outcome = .ok question := by
  obtain ⟨hchained, hnodes⟩ := chained_importTurns h
  rw [hchained.questions, List.nil_append] at hmem
  obtain ⟨⟨node, question⟩, hlogged, rfl⟩ := List.mem_map.mp hmem
  obtain ⟨t, ht, hstored⟩ := List.mem_flatMap.mp hlogged
  obtain ⟨question, hstored, he⟩ := List.mem_map.mp hstored
  cases he
  have hyields (hyields : t.Yields c question) :
      ∃ (i : Nat) (node : Node) (v : Conversion), root.questions[i]? = some node ∧
        convertNode c node (i + 1) = .ok v ∧ v.outcome = .ok question := by
    obtain ⟨-, v, hv, hquestion⟩ := hyields
    have hentry : (t.node, t.position) ∈ root.questions.zipIdx.map fun entry =>
        (entry.1, entry.2 + 1) := by
      rw [← hnodes]
      exact List.mem_map_of_mem ht
    obtain ⟨⟨node, i⟩, hi, hsame⟩ := List.mem_map.mp hentry
    obtain ⟨rfl, hposition⟩ := Prod.mk.inj hsame
    exact ⟨i, t.node, v, List.mem_zipIdx_iff_getElem?.mp hi, hposition ▸ hv, hquestion⟩
  rcases Turn.stored_cases (hchained.course t ht) with
    hnone | ⟨question', hyields', hone⟩ | hmarker | ⟨question', hyields', hboth⟩
  · rw [hnone] at hstored
    cases hstored
  · rw [hone, List.mem_singleton] at hstored
    exact .inr (hyields (hstored ▸ hyields'))
  · rw [hmarker, List.mem_singleton] at hstored
    exact .inl ⟨_, hstored⟩
  · rw [hboth, List.mem_pair] at hstored
    rcases hstored with hmarker | hsame
    · exact .inl ⟨_, hmarker⟩
    · exact .inr (hyields (hsame ▸ hyields'))

/-! ## Documents without beginnings of blocks -/

/-- The texts of a question that is read from a node hold no beginning of a block. -/
def QuietNode (c : Config) (node : Node) (position : Int) : Prop :=
  ∀ q, SourceQuestion.read c node position = .ok q →
    (∀ header, q.header c = .ok header → Quiet header.text.toList) ∧
      ∀ segment ∈ q.segments, Quiet segment.text.toList

/-- The texts of all questions of a document hold no beginning of a block. -/
def QuietDocument (c : Config) (root : Node) : Prop :=
  ∀ (i : Nat) node, root.questions[i]? = some node → QuietNode c node ((i + 1 : Nat) : Int)

theorem sound_categoryMarker (topic : String) : (Question.categoryMarker topic).Sound := by
  refine ⟨?_, nofun, trivial, trivial⟩
  intro hname
  have hlist := congrArg String.toList hname
  rw [Question.categoryMarker, String.toList_append] at hlist
  cases hlist

/-- What comes of a node without beginnings of blocks is sound, unless its kind is not known. -/
theorem sound_of_convertNode (hc : c.checked = .ok c) {node : Node} {position : Nat}
    (hquiet : QuietNode c node position) {v : Conversion}
    (hv : convertNode c node position = .ok v) {question : Question}
    (hquestion : v.outcome = .ok question) (hkind : question.kind ≠ .unknown) :
    question.Sound := by
  unfold convertNode at hv
  split at hv
  · cases hv
  next q hread =>
    obtain ⟨htext, hsegments⟩ := hquiet q hread
    dsimp only at hv
    split at hv
    next question' hconverted =>
      cases hv
      cases hquestion
      unfold convertOrKeep at hconverted
      split at hconverted
      · -- A question that is kept as it is has an unknown kind.
        have hkept := Except.ok.inj hconverted
        exact absurd (hkept ▸ rfl) hkind
      · exact sound_of_convert (fieldLines_of_checked hc) hread htext hsegments hconverted
    next =>
      cases hv
      cases hquestion
    next => cases hv

/-- The questions that are stored of a document without beginnings of blocks are sound. -/
theorem sound_of_mem_questions (hc : c.checked = .ok c) (hquiet : QuietDocument c root)
    (h : importDocument c s held d root = .ok p) {question : Question}
    (hmem : question ∈ p.questions) (hkind : question.kind ≠ .unknown) : question.Sound := by
  rcases exists_of_mem_questions h hmem with ⟨topic, rfl⟩ | ⟨i, node, v, hnode, hv, hquestion⟩
  · exact sound_categoryMarker topic
  · exact sound_of_convertNode hc (hquiet i node hnode) hv hquestion hkind

end QuestionBank
