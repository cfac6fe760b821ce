import QuestionBank.Proofs.Import.Batch

/-!
# Accounts of an import

An import keeps five accounts: the questions that it stored, those that it skipped, those
that were rejected, what it told the user, and the diagnostics. Each question node is
entered in one of the first three, in the order of the document. The sink holds what was
stored, and the diagnostics count what the lists hold. A sink and diagnostics that several
imports share hold what all of them stored and counted.
-/

namespace QuestionBank

open QuestionBank.Document

/-! ## Counts -/

/-- Diagnostics that went on from others, with the number of questions imported since, and
the numbers of issues of each kind. -/
structure Diagnostics.Adds (d : Diagnostics) (imported failed unsupported notices : Nat)
    (d' : Diagnostics) : Prop where
  imported : d'.imported = d.imported + imported
  failed : d'.count .failed = d.count .failed + failed
  unsupported : d'.count .unsupported = d.count .unsupported + unsupported
  notices : d'.count .notice = d.count .notice + notices

namespace Diagnostics

variable {d d' d'' : Diagnostics} {i f u n i' f' u' n' : Nat}

theorem Adds.refl (d : Diagnostics) : d.Adds 0 0 0 0 d := by
  constructor <;> simp

theorem Adds.trans (h : d.Adds i f u n d') (h' : d'.Adds i' f' u' n' d'') :
    d.Adds (i + i') (f + f') (u + u') (n + n') d'' := by
  constructor
  · rw [h'.imported, h.imported]
    push_cast
    omega
  · rw [h'.failed, h.failed, Nat.add_assoc]
  · rw [h'.unsupported, h.unsupported, Nat.add_assoc]
  · rw [h'.notices, h.notices, Nat.add_assoc]

/-- The summary of diagnostics shows what was added. -/
theorem Adds.summary (h : d.Adds i f u n d') :
    d'.summary = .obj [("imported", .int (d.imported + i)),
      ("failed", .int (d.count .failed + f : Nat)),
      ("unsupported", .int (d.count .unsupported + u : Nat)),
      ("notice", .int (d.count .notice + n : Nat))] := by
  simp only [Diagnostics.summary, List.map_cons, List.map_nil, h.imported, h.failed,
    h.unsupported, h.notices, IssueKind.name]

/-- An issue counts for its kind and for no other. -/
theorem adds_add (d : Diagnostics) (issue : QuestionIssue) :
    d.Adds 0 (if issue.kind = .failed then 1 else 0) (if issue.kind = .unsupported then 1 else 0)
      (if issue.kind = .notice then 1 else 0) (d.add issue) := by
  have hcount (kind : IssueKind) : (d.add issue).count kind =
      d.count kind + if issue.kind = kind then 1 else 0 := by
    simp [count, add, List.countP_append, List.countP_cons]
  exact ⟨(Int.add_zero _).symm, hcount _, hcount _, hcount _⟩

theorem adds_failed (d : Diagnostics) {issue : QuestionIssue} (h : issue.kind = .failed) :
    d.Adds 0 1 0 0 (d.add issue) := by
  simpa [h] using adds_add d issue

theorem adds_unsupported (d : Diagnostics) {issue : QuestionIssue}
    (h : issue.kind = .unsupported) : d.Adds 0 0 1 0 (d.add issue) := by
  simpa [h] using adds_add d issue

theorem adds_notice (d : Diagnostics) {issue : QuestionIssue} (h : issue.kind = .notice) :
    d.Adds 0 0 0 1 (d.add issue) := by
  simpa [h] using adds_add d issue

theorem adds_addImported (d : Diagnostics) : d.Adds 1 0 0 0 (d.addImported 1) :=
  ⟨rfl, rfl, rfl, rfl⟩

theorem adds_foldl_addNotice (q : QuestionLabel) (notices : List String) (d : Diagnostics) :
    d.Adds 0 0 0 notices.length (notices.foldl (fun d s => d.addNotice q s) d) := by
  induction notices generalizing d with
  | nil => exact .refl d
  | cons s notices ih =>
      have hfirst : d.Adds 0 0 0 1 (d.addNotice q s) := adds_notice d rfl
      have h := hfirst.trans (ih (d.addNotice q s))
      rw [Nat.add_comm 1] at h
      exact h

end Diagnostics

/-! ## Sinks -/

variable {σ : Type} {c : Config} {s : Sink σ}

/-- A sink holds the records that it took, in the order in which they came; `stored` shows
them. -/
def Sink.Keeps (s : Sink σ) (stored : σ → List Record) : Prop :=
  ∀ held r held', s.add held r = .ok held' → stored held' = stored held ++ [r]

/-- A sink that takes every category marker, and takes any other question of a known kind or
refuses it as not valid. -/
structure Sink.Orderly (s : Sink σ) : Prop where
  marker : ∀ held topic, ∃ held', s.add held (Question.categoryMarker topic).toRecord = .ok held'
  question : ∀ held (question : Question), question.kind ≠ .unknown →
    (∃ held', s.add held question.toRecord = .ok held') ∨
      ∃ violation, s.add held question.toRecord = .error (.invalid violation)

theorem keeps_memory : Sink.memory.Keeps id := by
  intro held r held' hadd
  unfold Sink.memory at hadd
  dsimp only at hadd
  split at hadd
  · cases hadd
  · cases hadd
    rfl

/-- A sink that takes every question of a known kind is orderly. -/
theorem Sink.Accepting.orderly (hs : s.Accepting) : s.Orderly := by
  constructor
  · intro held topic
    have hmarker : (Question.categoryMarker topic).kind ≠ .unknown := nofun
    exact hs.add held hmarker
  · intro held question hkind
    exact .inl (hs.add held hkind)

/-! ## What becomes of a question node -/

/-- What a question node ends as. -/
inductive Fate where
  | imported (question : Question)
  | skipped (question : Question)
  | rejected (rejection : Rejection)

namespace Fate

/-- The question that is imported. -/
def imported? : Fate → Option Question
  | imported question => some question
  | _ => none

/-- The question that is skipped. -/
def skipped? : Fate → Option Question
  | skipped question => some question
  | _ => none

/-- The rejection that is recorded. -/
def rejected? : Fate → Option Rejection
  | rejected rejection => some rejection
  | _ => none

end Fate

/-- How a conversion ends. A question of a known kind is imported if the sink takes it and
rejected if the sink refuses it; one of an unknown kind is skipped. -/
inductive Conversion.EndsAs (s : Sink σ) (v : Conversion) : Fate → Prop
  | imported {question : Question} {held held' : σ} (h : v.outcome = .ok question)
      (hkind : question.kind ≠ .unknown) (hadd : s.add held question.toRecord = .ok held') :
      EndsAs s v (.imported question)
  | refused {question : Question} {held : σ} {violation : Violation}
      (h : v.outcome = .ok question) (hkind : question.kind ≠ .unknown)
      (hadd : s.add held question.toRecord = .error (.invalid violation)) :
      EndsAs s v (.rejected (.refused violation))
  | skipped {question : Question} (h : v.outcome = .ok question)
      (hkind : question.kind = .unknown) : EndsAs s v (.skipped question)
  | failed {f : Failure} (h : v.outcome = .error f) : EndsAs s v (.rejected (.failed f))

/-- The accounts of an import after question nodes that ended as `fates`. The import began
with a sink in the state `held` and with the diagnostics `d`. -/
structure Progress.Accounts (s : Sink σ) (held : σ) (d : Diagnostics) (fates : List Fate)
    (p : Progress σ) : Prop where
  imported : p.imported = fates.filterMap Fate.imported?
  skipped : p.skipped = fates.filterMap Fate.skipped?
  errors : p.errors = fates.filterMap Fate.rejected?
  stored : ∀ stored, s.Keeps stored →
    stored p.sink = stored held ++ p.questions.map Question.toRecord
  told : p.skipped.length ≤ p.notices.length
  counts : d.Adds p.imported.length p.errors.length p.skipped.length
    (p.notices.length - p.skipped.length) p.diagnostics

namespace Progress

variable {held : σ} {d : Diagnostics} {fates : List Fate} {p p' : Progress σ} {v : Conversion}
  {label : QuestionLabel} {question : Question}

/-! ## What a step can do -/

theorem kind_ne_unknown (h : ∀ tag, question.body ≠ .unknown tag) : question.kind ≠ .unknown := by
  intro hunknown
  obtain ⟨tag, htag⟩ := kind_eq_unknown_iff.mp hunknown
  exact h tag htag

/-- A topic is marked by storing its marker, or not at all. -/
theorem mark_cases {emit : Bool} {topic : String} (h : p.mark s emit topic = .ok p') :
    p' = p ∨ ∃ held', s.add p.sink (Question.categoryMarker topic).toRecord = .ok held' ∧
      p' = { p with
        sink := held', topic, questions := p.questions ++ [Question.categoryMarker topic] } := by
  unfold mark at h
  split at h
  · obtain ⟨held', hadd, rfl⟩ := Traversal.map_eq_ok_iff.mp h
    exact .inr ⟨held', hadd, rfl⟩
  · cases h
    exact .inl rfl

/-- A question is stored, or the refusal of the sink is recorded. -/
theorem store_cases (h : p.store s label question = .ok p') :
    (∃ held', s.add p.sink question.toRecord = .ok held' ∧
      p' = { p with
        sink := held'
        questions := p.questions ++ [question]
        diagnostics := p.diagnostics.addImported 1 }) ∨
    ∃ violation, s.add p.sink question.toRecord = .error (.invalid violation) ∧
      p' = p.refuse label violation := by
  unfold store at h
  split at h
  next held' hadd =>
    cases h
    exact .inl ⟨held', hadd, rfl⟩
  next violation hadd =>
    cases h
    exact .inr ⟨violation, hadd, rfl⟩
  next => cases h

/-- A step tells the user what the conversion had to say. Then it records a failure, skips a
question, or marks the topic and stores a question. -/
theorem step_cases {emit : Bool} (h : p.step s emit v = .ok p') :
    (∃ f, v.outcome = .error f ∧ p' = (p.tell v.label v.notices).fail v.label f) ∨
    (∃ question tag, v.outcome = .ok question ∧ question.body = .unknown tag ∧
      p' = (p.tell v.label v.notices).skip v.label question tag) ∨
    ∃ question marked, v.outcome = .ok question ∧ question.kind ≠ .unknown ∧
      (p.tell v.label v.notices).mark s emit v.topic = .ok marked ∧
      marked.store s v.label question = .ok p' := by
  unfold step at h
  dsimp only at h
  split at h
  next f hf =>
    cases h
    exact .inl ⟨f, hf, rfl⟩
  next question hq =>
    split at h
    next tag htag =>
      cases h
      exact .inr (.inl ⟨question, tag, hq, htag, rfl⟩)
    next hknown =>
      have hkind : question.kind ≠ .unknown := kind_ne_unknown hknown
      cases hmark : (p.tell v.label v.notices).mark s emit v.topic with
      | error fault =>
          rw [hmark] at h
          cases h
      | ok marked =>
          rw [hmark] at h
          exact .inr (.inr ⟨question, marked, hq, hkind, rfl, h⟩)

/-! ## What a step keeps -/

theorem filterMap_concat_none {α β : Type} {f : α → Option β} {a : α} (h : f a = none)
    (l : List α) : (l ++ [a]).filterMap f = l.filterMap f := by
  rw [List.filterMap_append, List.filterMap_cons_none h, List.filterMap_nil, List.append_nil]

theorem filterMap_concat_some {α β : Type} {f : α → Option β} {a : α} {b : β} (h : f a = some b)
    (l : List α) : (l ++ [a]).filterMap f = l.filterMap f ++ [b] := by
  rw [List.filterMap_append, List.filterMap_cons_some h, List.filterMap_nil]

theorem Accounts.tell (h : p.Accounts s held d fates) (label : QuestionLabel)
    (notices : List String) :
    (p.tell label notices).Accounts s held d fates := by
  refine ⟨h.imported, h.skipped, h.errors, h.stored, ?_, ?_⟩
  · have htold : p.skipped.length ≤ p.notices.length + notices.length :=
      h.told.trans (Nat.le_add_right _ _)
    simpa [Progress.tell] using htold
  · have hcounts := h.counts.trans (Diagnostics.adds_foldl_addNotice label notices _)
    rw [← Nat.sub_add_comm h.told, ← List.length_append] at hcounts
    exact hcounts

/-- A rejection is entered among the errors and counted as a failure. -/
theorem Accounts.reject (h : p.Accounts s held d fates) (rejection : Rejection)
    {d' : Diagnostics} (hd : p.diagnostics.Adds 0 1 0 0 d') :
    Accounts s held d (fates ++ [.rejected rejection])
      { p with errors := p.errors ++ [rejection], diagnostics := d' } := by
  refine ⟨?_, ?_, ?_, h.stored, h.told, ?_⟩
  · rw [filterMap_concat_none rfl]
    exact h.imported
  · rw [filterMap_concat_none rfl]
    exact h.skipped
  · rw [filterMap_concat_some (f := Fate.rejected?) rfl, ← h.errors]
  · rw [List.length_append]
    exact h.counts.trans hd

theorem Accounts.skip (h : p.Accounts s held d fates) (tag : String) :
    (p.skip label question tag).Accounts s held d (fates ++ [.skipped question]) := by
  refine ⟨?_, ?_, ?_, h.stored, ?_, ?_⟩
  · rw [filterMap_concat_none rfl]
    exact h.imported
  · rw [filterMap_concat_some (f := Fate.skipped?) rfl, ← h.skipped]
    rfl
  · rw [filterMap_concat_none rfl]
    exact h.errors
  · simpa [Progress.skip] using h.told
  · -- What is told of a skipped question counts as unsupported and not as a notice.
    have hskipped : p.diagnostics.Adds 0 0 1 0 (p.skip label question tag).diagnostics :=
      Diagnostics.adds_unsupported _ rfl
    have hnotices : (p.skip label question tag).notices.length -
        (p.skip label question tag).skipped.length = p.notices.length - p.skipped.length := by
      simp [Progress.skip]
    rw [hnotices, Progress.skip, List.length_append]
    exact h.counts.trans hskipped

theorem Accounts.mark {emit : Bool} {topic : String} (h : p.Accounts s held d fates)
    (hmark : p.mark s emit topic = .ok p') : p'.Accounts s held d fates := by
  rcases mark_cases hmark with rfl | ⟨held', hadd, rfl⟩
  · exact h
  · -- A marker is stored but is no imported question.
    have himported : Progress.imported { p with
        sink := held', topic, questions := p.questions ++ [Question.categoryMarker topic] } =
          p.imported := by
      simp only [Progress.imported, List.filter_append]
      exact List.append_nil _
    refine ⟨himported.trans h.imported, h.skipped, h.errors, ?_, h.told, ?_⟩
    · intro stored hkeeps
      rw [hkeeps _ _ _ hadd, h.stored stored hkeeps]
      simp
    · rw [himported]
      exact h.counts

theorem Accounts.store (h : p.Accounts s held d fates) (hv : v.outcome = .ok question)
    (hkind : question.kind ≠ .unknown) (hmarker : question.kind ≠ .category)
    (hstore : p.store s label question = .ok p') :
    ∃ fate, v.EndsAs s fate ∧ p'.Accounts s held d (fates ++ [fate]) := by
  rcases store_cases hstore with ⟨held', hadd, rfl⟩ | ⟨violation, hadd, rfl⟩
  · refine ⟨_, .imported hv hkind hadd, ?_⟩
    have himported : Progress.imported { p with
        sink := held'
        questions := p.questions ++ [question]
        diagnostics := p.diagnostics.addImported 1 } = p.imported ++ [question] := by
      simp [Progress.imported, hmarker]
    refine ⟨?_, ?_, ?_, ?_, h.told, ?_⟩
    · rw [himported, h.imported, filterMap_concat_some (f := Fate.imported?) rfl]
    · rw [filterMap_concat_none rfl]
      exact h.skipped
    · rw [filterMap_concat_none rfl]
      exact h.errors
    · intro stored hkeeps
      rw [hkeeps _ _ _ hadd, h.stored stored hkeeps]
      simp
    · have hcounts := h.counts.trans (Diagnostics.adds_addImported _)
      rw [himported, List.length_append]
      exact hcounts
  · exact ⟨_, .refused hv hkind hadd, h.reject _ (Diagnostics.adds_failed _ rfl)⟩

/-- A step enters its conversion in one account. -/
theorem Accounts.step {emit : Bool} (h : p.Accounts s held d fates)
    (hmarker : ∀ question, v.outcome = .ok question → question.kind ≠ .category)
    (hstep : p.step s emit v = .ok p') :
    ∃ fate, v.EndsAs s fate ∧ p'.Accounts s held d (fates ++ [fate]) := by
  have htold := h.tell v.label v.notices
  rcases step_cases hstep with
    ⟨f, hf, rfl⟩ | ⟨question, tag, hq, htag, rfl⟩ | ⟨question, marked, hq, hkind, hmark, hstore⟩
  · exact ⟨_, .failed hf, htold.reject _ (Diagnostics.adds_failed _ rfl)⟩
  · exact ⟨_, .skipped hq (kind_eq_unknown_iff.mpr ⟨tag, htag⟩), htold.skip tag⟩
  · exact (htold.mark hmark).store hq hkind (hmarker question hq) hstore

/-- A run enters each conversion in one account, one after the other. -/
theorem Accounts.steps {emit : Bool} {vs : List Conversion} (h : p.Accounts s held d fates)
    (hmarker : ∀ v ∈ vs, ∀ question, v.outcome = .ok question → question.kind ≠ .category)
    (hsteps : steps s emit vs p = .ok p') :
    ∃ more, List.Forall₂ (fun v fate => v.EndsAs s fate) vs more ∧
      p'.Accounts s held d (fates ++ more) := by
  induction vs generalizing p fates with
  | nil =>
      cases hsteps
      exact ⟨[], .nil, (List.append_nil fates).symm ▸ h⟩
  | cons v vs ih =>
      obtain ⟨hv, hvs⟩ := List.forall_mem_cons.mp hmarker
      rw [Progress.steps] at hsteps
      cases hstep : p.step s emit v with
      | error fault =>
          rw [hstep] at hsteps
          cases hsteps
      | ok p₁ =>
          rw [hstep] at hsteps
          obtain ⟨fate, hfate, h₁⟩ := h.step hv hstep
          obtain ⟨more, hmore, h'⟩ := ih h₁ hvs hsteps
          refine ⟨fate :: more, .cons hfate hmore, ?_⟩
          rwa [List.append_assoc] at h'

end Progress

/-! ## Imports -/

/-- What an import accounts for. Each question node, in the order of the document, is
converted and ends as one fate; the accounts hold these fates, and the summary of the
diagnostics shows by how much they grew. -/
structure ImportAccounts (c : Config) (s : Sink σ) (root : Node) (held : σ) (d : Diagnostics)
    (p : Progress σ) : Prop where
  fates : ∃ fates, List.Forall₂ (fun entry fate => ∃ v,
      convertNode c entry.1 (entry.2 + 1) = .ok v ∧ v.EndsAs s fate)
        root.questions.zipIdx fates ∧
    p.Accounts s held d fates
  summary : p.diagnostics.summary = .obj [("imported", .int (d.imported + p.imported.length)),
    ("failed", .int (d.count .failed + p.errors.length : Nat)),
    ("unsupported", .int (d.count .unsupported + p.skipped.length : Nat)),
    ("notice", .int (d.count .notice + (p.notices.length - p.skipped.length) : Nat))]

theorem importAccounts {held : σ} {d : Diagnostics} {root : Node} {p : Progress σ}
    (h : importDocument c s held d root = .ok p) : ImportAccounts c s root held d p := by
  unfold importDocument at h
  split at h
  · cases h
  next vs hvs =>
    split at h
    · cases h
    next p' hsteps =>
      cases h
      have hconverted := Traversal.mapM_eq_ok_iff.mp hvs
      have hmarker : ∀ v ∈ vs, ∀ question, v.outcome = .ok question →
          question.kind ≠ .category := by
        intro v hv question hquestion
        obtain ⟨entry, -, hentry⟩ := Traversal.exists_of_mem_mapM hvs hv
        exact convertNode_ok hentry question hquestion
      -- The accounts are empty at first, whatever the sink and the diagnostics hold already.
      have hstart : Progress.Accounts s held d [] { sink := held, diagnostics := d } := by
        refine ⟨rfl, rfl, rfl, ?_, Nat.le_refl _, .refl d⟩
        intro stored _
        exact (List.append_nil _).symm
      obtain ⟨fates, hfates, haccounts⟩ := hstart.steps hmarker hsteps
      exact ⟨⟨fates, Traversal.forall₂_comp hconverted hfates, haccounts⟩, haccounts.counts.summary⟩

/-! ## Orderly sinks -/

namespace Progress

variable {v : Conversion} {question : Question}

theorem mark_isOk (hs : s.Orderly) (p : Progress σ) (emit : Bool) (topic : String) :
    ∃ p', p.mark s emit topic = .ok p' := by
  unfold mark
  split
  · exact Traversal.map_isOk_iff.mpr (hs.marker p.sink topic)
  · exact ⟨p, rfl⟩

theorem store_isOk (hs : s.Orderly) (p : Progress σ) (label : QuestionLabel)
    (hkind : question.kind ≠ .unknown) : ∃ p', p.store s label question = .ok p' := by
  unfold store
  rcases hs.question p.sink question hkind with ⟨held', hadd⟩ | ⟨violation, hadd⟩
  · rw [hadd]
    exact ⟨_, rfl⟩
  · rw [hadd]
    exact ⟨_, rfl⟩

theorem step_isOk (hs : s.Orderly) (p : Progress σ) (emit : Bool) (v : Conversion) :
    ∃ p', p.step s emit v = .ok p' := by
  unfold step
  dsimp only
  split
  next => exact ⟨_, rfl⟩
  next question _ =>
    split
    next => exact ⟨_, rfl⟩
    next hknown =>
      obtain ⟨marked, hmark⟩ := mark_isOk hs (p.tell v.label v.notices) emit v.topic
      rw [hmark]
      exact store_isOk hs marked v.label (kind_ne_unknown hknown)

theorem steps_isOk (hs : s.Orderly) (emit : Bool) (vs : List Conversion) (p : Progress σ) :
    ∃ p', steps s emit vs p = .ok p' := by
  induction vs generalizing p with
  | nil => exact ⟨p, rfl⟩
  | cons v vs ih =>
      obtain ⟨p', hstep⟩ := step_isOk hs p emit v
      rw [steps, hstep]
      exact ih p'

end Progress

/-- An orderly sink does not end an import. -/
theorem importDocument_of_orderly (hs : s.Orderly) (c : Config) (held : σ) (d : Diagnostics)
    (root : Node) : (∃ p, importDocument c s held d root = .ok p) ∨
      ∃ b, importDocument c s held d root = .error (.broken b) := by
  unfold importDocument
  split
  next b _ => exact .inr ⟨b, rfl⟩
  next vs _ =>
    obtain ⟨p, hsteps⟩ :=
      Progress.steps_isOk hs c.emitCategories vs { sink := held, diagnostics := d }
    rw [hsteps]
    exact .inl ⟨p, rfl⟩

/-! ## Imports in turn -/

/-- Imports of documents, each with its configuration, one after the other into one sink and
one collection of diagnostics. An import that ends in a breach has stored nothing yet and
leaves both as they are. -/
inductive ImportedInTurn (s : Sink σ) :
    List (Config × Node) → σ → Diagnostics → List (Progress σ) → σ → Diagnostics → Prop
  | done (held : σ) (d : Diagnostics) : ImportedInTurn s [] held d [] held d
  | returned {c : Config} {root : Node} {jobs : List (Config × Node)} {held held' : σ}
      {d d' : Diagnostics} {p : Progress σ} {ps : List (Progress σ)}
      (h : importDocument c s held d root = .ok p)
      (hrest : ImportedInTurn s jobs p.sink p.diagnostics ps held' d') :
      ImportedInTurn s ((c, root) :: jobs) held d (p :: ps) held' d'
  | broken {c : Config} {root : Node} {jobs : List (Config × Node)} {held held' : σ}
      {d d' : Diagnostics} {b : Breach} {ps : List (Progress σ)}
      (h : importDocument c s held d root = .error (.broken b))
      (hrest : ImportedInTurn s jobs held d ps held' d') :
      ImportedInTurn s ((c, root) :: jobs) held d ps held' d'

variable {jobs : List (Config × Node)} {held held' : σ} {d d' : Diagnostics}
  {ps : List (Progress σ)}

/-- Documents can be imported in turn into an orderly sink. -/
theorem importedInTurn_of_orderly (hs : s.Orderly) (jobs : List (Config × Node)) (held : σ)
    (d : Diagnostics) : ∃ ps held' d', ImportedInTurn s jobs held d ps held' d' := by
  induction jobs generalizing held d with
  | nil => exact ⟨[], held, d, .done held d⟩
  | cons job jobs ih =>
      obtain ⟨c, root⟩ := job
      rcases importDocument_of_orderly hs c held d root with ⟨p, hp⟩ | ⟨b, hb⟩
      · obtain ⟨ps, held', d', hrest⟩ := ih p.sink p.diagnostics
        exact ⟨p :: ps, held', d', .returned hp hrest⟩
      · obtain ⟨ps, held', d', hrest⟩ := ih held d
        exact ⟨ps, held', d', .broken hb hrest⟩

/-- A shared sink holds what the imports stored, one after the other. -/
theorem ImportedInTurn.stored (h : ImportedInTurn s jobs held d ps held' d')
    {stored : σ → List Record} (hkeeps : s.Keeps stored) :
    stored held' = stored held ++ (ps.flatMap Progress.questions).map Question.toRecord := by
  induction h with
  | done => exact (List.append_nil _).symm
  | returned h _ ih =>
      obtain ⟨_, -, haccounts⟩ := (importAccounts h).fates
      rw [ih, haccounts.stored stored hkeeps, List.flatMap_cons, List.map_append,
        List.append_assoc]
  | broken _ _ ih => exact ih

/-- Shared diagnostics hold the sums of what the imports counted. -/
theorem ImportedInTurn.adds (h : ImportedInTurn s jobs held d ps held' d') :
    d.Adds (ps.map fun p => p.imported.length).sum (ps.map fun p => p.errors.length).sum
      (ps.map fun p => p.skipped.length).sum
      (ps.map fun p => p.notices.length - p.skipped.length).sum d' := by
  induction h with
  | done held d => exact .refl d
  | returned h _ ih =>
      obtain ⟨_, -, haccounts⟩ := (importAccounts h).fates
      simp only [List.map_cons, List.sum_cons]
      exact haccounts.counts.trans ih
  | broken _ _ ih => exact ih

/-- **Imports keep their accounts.** Whatever the sink, an import that returns has entered each
question node in one account and counted it in the diagnostics, and the sink holds what was
stored. Imports that share a sink and diagnostics leave there what all of them stored, and
the sums of what they counted. With a sink that takes markers, and takes any other question
or refuses it as not valid, each import returns or breaks before it stores anything. -/
theorem imports_accounted (s : Sink σ) :
    (∀ c held d root p, importDocument c s held d root = .ok p →
      ImportAccounts c s root held d p) ∧
    (∀ jobs held d ps held' d', ImportedInTurn s jobs held d ps held' d' →
      (∀ stored, s.Keeps stored →
        stored held' = stored held ++ (ps.flatMap Progress.questions).map Question.toRecord) ∧
      d.Adds (ps.map fun p => p.imported.length).sum (ps.map fun p => p.errors.length).sum
        (ps.map fun p => p.skipped.length).sum
        (ps.map fun p => p.notices.length - p.skipped.length).sum d') ∧
    (s.Orderly → ∀ jobs held d, ∃ ps held' d', ImportedInTurn s jobs held d ps held' d') := by
  refine ⟨?_, ?_, ?_⟩
  · intro c held d root p h
    exact importAccounts h
  · intro jobs held d ps held' d' h
    exact ⟨fun stored hkeeps => h.stored hkeeps, h.adds⟩
  · intro hs jobs held d
    exact importedInTurn_of_orderly hs jobs held d

/-- A document with a question that is imported, one of an unknown kind and one that cannot
be scored. -/
def mixedDocument : Node :=
  { name := "QML"
    children := [
      { name := "QUESTION"
        attributes := [("ID", "1"), ("DESCRIPTION", "First"), ("TOPIC", "Trees")]
        children := [{ name := "ANSWER", attributes := [("QTYPE", "ESSAY")] }] },
      { name := "QUESTION"
        attributes := [("ID", "2"), ("DESCRIPTION", "Second")]
        children := [{ name := "ANSWER", attributes := [("QTYPE", "HOTSPOT")] }] },
      { name := "QUESTION"
        attributes := [("ID", "3"), ("DESCRIPTION", "Third")]
        children := [{ name := "ANSWER", attributes := [("QTYPE", "NUM")] }] }] }

/-- The document is imported into a bank in memory, once by itself and then twice in turn. -/
theorem imports_accounted_mixed :
    (∃ p, importDocument {} Sink.memory [] {} mixedDocument = .ok p ∧
      ImportAccounts {} Sink.memory mixedDocument [] {} p ∧
      p.imported.length = 1 ∧ p.skipped.length = 1 ∧ p.errors.length = 1) ∧
    ∃ ps held d, ImportedInTurn Sink.memory [({}, mixedDocument), ({}, mixedDocument)] [] {}
        ps held d ∧
      held = (ps.flatMap Progress.questions).map Question.toRecord := by
  obtain ⟨hreturned, hturn, horderly⟩ := imports_accounted Sink.memory
  constructor
  · have hrun : (match importDocument {} Sink.memory [] {} mixedDocument with
        | .ok p => p.imported.length == 1 && p.skipped.length == 1 && p.errors.length == 1
        | .error _ => false) = true := by decide +kernel
    split at hrun
    next p hp =>
      simp only [Bool.and_eq_true, beq_iff_eq] at hrun
      obtain ⟨⟨himported, hskipped⟩, herrors⟩ := hrun
      exact ⟨p, hp, hreturned _ _ _ _ _ hp, himported, hskipped, herrors⟩
    next => cases hrun
  · obtain ⟨ps, held, d, h⟩ := horderly accepting_memory.orderly
      [({}, mixedDocument), ({}, mixedDocument)] [] {}
    exact ⟨ps, held, d, h, (hturn _ _ _ _ _ _ h).1 id keeps_memory⟩

end QuestionBank
