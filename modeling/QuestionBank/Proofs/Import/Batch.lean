import QuestionBank.Proofs.Conversion.Breach

/-!
# Runs over a document

A run converts the question nodes of a document in order. Each of them is imported,
skipped because its kind is not supported, or recorded as failed, unless one of them
breaks; then the run ends with a breach and nothing is imported. Sinks that take every
question of a known kind do not end a run.
-/

namespace QuestionBank

open QuestionBank.Document

variable {σ : Type} {c : Config} {s : Sink σ}

/-! ## Sinks -/

/-- A sink that takes every question of a known kind. -/
def Sink.Accepting (s : Sink σ) : Prop :=
  ∀ held (r : Record), r.kind ≠ .unknown → ∃ held', s.add held r = .ok held'

theorem accepting_none : Sink.none.Accepting := fun _ _ _ => ⟨(), rfl⟩

theorem accepting_memory : Sink.memory.Accepting := by
  intro held r hkind
  exact ⟨held ++ [r], by simp [Sink.memory, hkind]⟩

theorem Sink.Accepting.add (hs : s.Accepting) (held : σ) {question : Question}
    (hkind : question.kind ≠ .unknown) : ∃ held', s.add held question.toRecord = .ok held' :=
  hs held _ hkind

/-! ## What becomes of a node -/

namespace Conversion

/-- The question that is imported. -/
def imported? (v : Conversion) : Option Question :=
  match v.outcome with
  | .ok question => if question.kind = .unknown then none else some question
  | .error _ => none

/-- The question that is skipped. -/
def skipped? (v : Conversion) : Option Question :=
  match v.outcome with
  | .ok question => if question.kind = .unknown then some question else none
  | .error _ => none

/-- The failure that is recorded. -/
def rejected? (v : Conversion) : Option Rejection :=
  match v.outcome with
  | .ok _ => none
  | .error f => some (.failed f)

/-- What comes of a node is no marker of a category. -/
def Proper (v : Conversion) : Prop :=
  ∀ question, v.outcome = .ok question → question.kind ≠ .category

end Conversion

/-- A run goes on from one state to another, and each conversion between is imported,
skipped or rejected in its turn. -/
structure Progress.Extends (vs : List Conversion) (p p' : Progress σ) : Prop where
  imported : p'.imported = p.imported ++ vs.filterMap Conversion.imported?
  skipped : p'.skipped = p.skipped ++ vs.filterMap Conversion.skipped?
  errors : p'.errors = p.errors ++ vs.filterMap Conversion.rejected?

namespace Progress

variable {p p' p'' : Progress σ} {v : Conversion} {vs : List Conversion}

theorem Extends.trans (h : Extends [v] p p') (h' : Extends vs p' p'') :
    Extends (v :: vs) p p'' := by
  constructor
  · rw [h'.imported, h.imported, List.append_assoc, ← List.filterMap_append]
    rfl
  · rw [h'.skipped, h.skipped, List.append_assoc, ← List.filterMap_append]
    rfl
  · rw [h'.errors, h.errors, List.append_assoc, ← List.filterMap_append]
    rfl

theorem kind_eq_unknown_iff {question : Question} :
    question.kind = .unknown ↔ ∃ tag, question.body = .unknown tag := by
  rw [Question.kind]
  cases question.body with
  | unknown tag => simp [Body.kind]
  | numerical answers ranged => cases ranged <;> simp [Body.kind]
  | _ => simp [Body.kind]

/-- The marker of a topic is stored without a fault. -/
theorem mark_ok (hs : s.Accepting) (p : Progress σ) (emit : Bool) (topic : String) :
    ∃ p', p.mark s emit topic = .ok p' ∧ Extends [] p p' := by
  unfold mark
  split
  · have hmarker : (Question.categoryMarker topic).kind ≠ .unknown := nofun
    obtain ⟨held, hadd⟩ := hs.add p.sink hmarker
    dsimp only
    rw [hadd]
    refine ⟨_, rfl, ?_, by simp, by simp⟩
    simp only [imported, List.filter_append, List.filterMap_nil]
    rfl
  · exact ⟨p, rfl, by simp, by simp, by simp⟩

/-- A question that is stored is imported. -/
theorem store_ok (hs : s.Accepting) (p : Progress σ) (label : QuestionLabel) {question : Question}
    (hkind : question.kind ≠ .unknown) (hmarker : question.kind ≠ .category) :
    ∃ p', p.store s label question = .ok p' ∧ p'.imported = p.imported ++ [question] ∧
      p'.skipped = p.skipped ∧ p'.errors = p.errors := by
  obtain ⟨held, hadd⟩ := hs.add p.sink hkind
  unfold store
  rw [hadd]
  refine ⟨_, rfl, ?_, rfl, rfl⟩
  simp [imported, hmarker]

/-- A step goes on with one conversion. -/
theorem step_ok (hs : s.Accepting) (emit : Bool) (p : Progress σ) (hv : v.Proper) :
    ∃ p', p.step s emit v = .ok p' ∧ Extends [v] p p' := by
  obtain ⟨label, topic, notices, outcome⟩ := v
  cases outcome with
  | error f =>
      refine ⟨_, rfl, ?_, ?_, rfl⟩
      · exact (List.append_nil _).symm
      · exact (List.append_nil _).symm
  | ok question =>
      by_cases hkind : question.kind = .unknown
      · obtain ⟨tag, hbody⟩ := kind_eq_unknown_iff.mp hkind
        refine ⟨(p.tell label notices).skip label question tag, ?_, ?_, ?_, ?_⟩
        · simp only [step, hbody]
        · simp [Conversion.imported?, hkind, imported, skip, tell]
        · simp [Conversion.skipped?, hkind, skip, tell]
        · simp [Conversion.rejected?, skip, tell]
      · obtain ⟨p', hmark, hextends⟩ := mark_ok hs (p.tell label notices) emit topic
        obtain ⟨p'', hstore, himported, hskipped, herrors⟩ :=
          store_ok hs p' label hkind (hv question rfl)
        refine ⟨p'', ?_, ?_, ?_, ?_⟩
        · have hbody := mt kind_eq_unknown_iff.mpr hkind
          unfold step
          dsimp only
          split
          next tag h => exact absurd ⟨tag, h⟩ hbody
          next => rw [hmark]; exact hstore
        · rw [himported, hextends.imported]
          simp [Conversion.imported?, hkind, imported, tell]
        · rw [hskipped, hextends.skipped]
          simp [Conversion.skipped?, hkind, tell]
        · rw [herrors, hextends.errors]
          simp [Conversion.rejected?, tell]

/-- A run goes on with all conversions. -/
theorem steps_ok (hs : s.Accepting) (emit : Bool) (hvs : ∀ v ∈ vs, v.Proper) (p : Progress σ) :
    ∃ p', steps s emit vs p = .ok p' ∧ Extends vs p p' := by
  induction vs generalizing p with
  | nil => exact ⟨p, rfl, by simp, by simp, by simp⟩
  | cons v vs ih =>
      obtain ⟨p', hstep, hextends⟩ := step_ok hs emit p (hvs v (.head _))
      obtain ⟨p'', hsteps, hextends'⟩ := ih (fun v hv => hvs v (.tail _ hv)) p'
      refine ⟨p'', ?_, hextends.trans hextends'⟩
      rw [steps, hstep]
      exact hsteps

end Progress

/-! ## Runs -/

theorem convertNode_ok {node : Node} {position : Nat} {v : Conversion}
    (h : convertNode c node position = .ok v) : v.Proper := by
  unfold convertNode at h
  split at h
  · cases h
  next q hread =>
    dsimp only at h
    split at h
    next question hquestion =>
      rw [← Except.ok.inj h]
      intro question' h'
      rw [← Except.ok.inj h']
      exact kind_ne_category hread hquestion
    next =>
      rw [← Except.ok.inj h]
      exact fun _ h => nomatch h
    next => cases h

/-- What a run makes of a document. The question nodes are converted in order; each is
imported, skipped or rejected, in its turn, and none is lost. -/
structure Accounted (c : Config) (root : Node) (p : Progress σ) : Prop where
  conversions : ∃ vs, convertNodes c root.questions = .ok vs ∧
    p.imported = vs.filterMap Conversion.imported? ∧
    p.skipped = vs.filterMap Conversion.skipped? ∧
    p.errors = vs.filterMap Conversion.rejected?
  count : p.imported.length + p.skipped.length + p.errors.length = root.questions.length

/-- A run over a document goes through if none of its question nodes breaks. Otherwise
the first that does ends the run. -/
inductive RunsThrough (c : Config) (root : Node) : Except ImportStop (Progress σ) → Prop
  | complete {p : Progress σ}
      (hwhole : ∀ (i : Nat) node, root.questions[i]? = some node →
        ¬ Breaks c node ((i + 1 : Nat) : Int))
      (haccounted : Accounted c root p) : RunsThrough c root (.ok p)
  | broken {i : Nat} {node : Node} {b : Breach} (hnode : root.questions[i]? = some node)
      (hfirst : ∀ j < i, ∀ node', root.questions[j]? = some node' →
        ¬ Breaks c node' ((j + 1 : Nat) : Int))
      (hbreaks : Breaks c node ((i + 1 : Nat) : Int))
      (hbreach : convertNode c node (i + 1) = .error b) :
      RunsThrough c root (.error (.broken b))

/-- Each conversion is imported, skipped or rejected. -/
theorem length_filterMap_conversions (vs : List Conversion) :
    (vs.filterMap Conversion.imported?).length + (vs.filterMap Conversion.skipped?).length +
      (vs.filterMap Conversion.rejected?).length = vs.length := by
  induction vs with
  | nil => rfl
  | cons v vs ih =>
      obtain ⟨label, topic, notices, outcome⟩ := v
      cases outcome with
      | error f =>
          simp only [List.filterMap_cons, Conversion.imported?, Conversion.skipped?,
            Conversion.rejected?, List.length_cons]
          omega
      | ok question =>
          by_cases hkind : question.kind = .unknown
          · simp only [List.filterMap_cons, Conversion.imported?, Conversion.skipped?,
              Conversion.rejected?, hkind, if_true, List.length_cons]
            omega
          · simp only [List.filterMap_cons, Conversion.imported?, Conversion.skipped?,
              Conversion.rejected?, hkind, if_false, List.length_cons]
            omega

theorem not_breaks_iff {node : Node} {position : Nat} :
    ¬ Breaks c node position ↔ ∃ v, convertNode c node position = .ok v := by
  rw [← convertNode_error_iff, exists_error_iff, not_not]

/-- Nodes are not converted if one of them breaks; the first one that does decides. -/
theorem convertNodes_error {nodes : List Node} {b : Breach} (h : convertNodes c nodes = .error b) :
    ∃ i node, nodes[i]? = some node ∧ convertNode c node (i + 1) = .error b ∧
      ∀ j < i, ∀ node', nodes[j]? = some node' → ¬ Breaks c node' ((j + 1 : Nat) : Int) := by
  obtain ⟨before, ⟨node, i⟩, after, hsplit, hbefore, hbreach⟩ := Traversal.mapM_eq_error_iff.mp h
  have hget (j : Nat) :
      (before ++ (node, i) :: after)[j]? = nodes[j]?.map fun node => (node, j) := by
    rw [← hsplit, List.getElem?_zipIdx]
    simp
  obtain ⟨node', hnode, he⟩ : ∃ node', nodes[before.length]? = some node' ∧
      (node', before.length) = (node, i) := by
    simpa [eq_comm] using hget before.length
  cases he
  refine ⟨before.length, node, hnode, hbreach, fun j hj node' hnode' => not_breaks_iff.mpr ?_⟩
  have hmem : (node', j) ∈ before := by
    have := hget j
    rw [hnode', List.getElem?_append_left hj] at this
    exact List.mem_of_getElem? this
  exact hbefore _ hmem

theorem convertNodes_ok {nodes : List Node} {vs : List Conversion}
    (h : convertNodes c nodes = .ok vs) :
    vs.length = nodes.length ∧ (∀ v ∈ vs, v.Proper) ∧
      ∀ (i : Nat) node, nodes[i]? = some node → ¬ Breaks c node ((i + 1 : Nat) : Int) := by
  refine ⟨?_, fun v hv => ?_, fun i node hnode => not_breaks_iff.mpr ?_⟩
  · rw [← (Traversal.mapM_eq_ok_iff.mp h).length_eq, List.length_zipIdx]
  · obtain ⟨⟨node, i⟩, -, hnode⟩ := Traversal.exists_of_mem_mapM h hv
    exact convertNode_ok hnode
  · exact Traversal.mapM_isOk_iff.mp ⟨vs, h⟩ (node, i) (List.mem_zipIdx_iff_getElem?.mpr hnode)

/-- A sink that takes all questions of known kinds does not end a run. -/
theorem runsThrough_importDocument (hs : s.Accepting) (held : σ) (d : Diagnostics) (root : Node) :
    RunsThrough c root (importDocument c s held d root) := by
  unfold importDocument
  cases hconvert : convertNodes c root.questions with
  | error b =>
      obtain ⟨i, node, hnode, hbreach, hfirst⟩ := convertNodes_error hconvert
      exact .broken hnode hfirst ((convertNode_error_iff c node _).mp ⟨b, hbreach⟩) hbreach
  | ok vs =>
      obtain ⟨hlength, hproper, hwhole⟩ := convertNodes_ok hconvert
      obtain ⟨p, hsteps, himported, hskipped, herrors⟩ :=
        Progress.steps_ok hs c.emitCategories hproper { sink := held, diagnostics := d }
      dsimp only
      rw [hsteps]
      refine .complete hwhole ⟨⟨vs, hconvert, himported, hskipped, herrors⟩, ?_⟩
      rw [himported, hskipped, herrors, ← hlength]
      exact length_filterMap_conversions vs

/-- **One question ends a run only by a breach.** With no sink or a bank in memory, a run
goes through and accounts for each question node, unless a node breaks. Then the first
node that breaks ends the run. -/
theorem importDocument_runsThrough (c : Config) (d : Diagnostics) (held : List Record)
    (root : Node) :
    RunsThrough c root (importDocument c Sink.none () d root) ∧
      RunsThrough c root (importDocument c Sink.memory held d root) :=
  ⟨runsThrough_importDocument accepting_none () d root,
    runsThrough_importDocument accepting_memory held d root⟩

/-! ## An infinite score -/

/-- A question with an outcome that scores infinity. -/
def infiniteNode : Node :=
  { name := "QUESTION"
    attributes := [("ID", "1"), ("DESCRIPTION", "First")]
    children := [
      { name := "ANSWER", attributes := [("QTYPE", "ESSAY")] },
      { name := "OUTCOME", attributes := [("ID", "right"), ("SCORE", "inf")] }] }

/-- A document with such a question before another one. -/
def infiniteDocument : Node :=
  { name := "QML"
    children := [
      infiniteNode,
      { name := "QUESTION"
        attributes := [("ID", "2"), ("DESCRIPTION", "Second")]
        children := [{ name := "ANSWER", attributes := [("QTYPE", "ESSAY")] }] }] }

/-- A score is read as infinity, and no question of the document is imported. -/
theorem not_forall_importDocument :
    ¬ ∀ (c : Config) (root : Node), ∃ p,
      importDocument c Sink.none () { sourceName := "" } root = .ok p := by
  intro h
  obtain ⟨p, hp⟩ := h {} infiniteDocument
  have hrun := runsThrough_importDocument (c := {}) accepting_none () { sourceName := "" }
    infiniteDocument
  rw [hp] at hrun
  cases hrun with
  | complete hwhole =>
      have hinfinity : NamesInfinity "inf" := ⟨false, by decide +kernel⟩
      have hscore : InfiniteScore
          { name := "OUTCOME", attributes := [("ID", "right"), ("SCORE", "inf")] } :=
        .inl hinfinity
      exact hwhole 0 infiniteNode rfl (.score (List.mem_singleton.mpr rfl) hscore)

end QuestionBank
