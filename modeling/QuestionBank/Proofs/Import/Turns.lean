import QuestionBank.Proofs.Import.Accounting

/-!
# The turns of an import

An import takes the question nodes of a document in turn. In its turn a node may store the
marker of its topic, and behind it the question that it is converted to; what is stored is
entered in a log together with the node. Only a refusal of the sink leaves a marker without
the question that it was stored for.
-/

namespace QuestionBank

open QuestionBank.Document QuestionBank.Text

variable {σ : Type}

/-! ## Turns -/

/-- The turn of a question node: the state of the import before it and after it. Nodes are
counted from 1. -/
structure Turn (σ : Type) where
  node : Node
  position : Nat
  before : Progress σ
  after : Progress σ

/-- The topic that a node names. -/
def topicOf (node : Node) : String := strip (node.get "TOPIC")

namespace Turn

/-- What is stored in a turn. -/
def stored (t : Turn σ) : List Question := t.after.questions.drop t.before.questions.length

/-- A turn opens a topic if it stores a marker. -/
def opens (t : Turn σ) : Bool := t.stored.any fun question => question.kind == .category

/-- A turn takes a question if it stores one that is no marker. -/
def takes (t : Turn σ) : Bool := t.stored.any fun question => question.kind != .category

end Turn

/-- The turns of nodes that are taken with their indices. They end with the node that
breaks, or whose marker or question the sink refuses in another way than as not valid. -/
def turnsFrom (c : Config) (s : Sink σ) : List (Node × Nat) → Progress σ → List (Turn σ)
  | [], _ => []
  | (node, i) :: nodes, p =>
    match convertNode c node (i + 1) with
    | .error _ => []
    | .ok v =>
      match p.step s c.emitCategories v with
      | .error _ => []
      | .ok p' => ⟨node, i + 1, p, p'⟩ :: turnsFrom c s nodes p'

/-- The turns of an import. -/
def importTurns (c : Config) (s : Sink σ) (held : σ) (d : Diagnostics) (root : Node) :
    List (Turn σ) :=
  turnsFrom c s root.questions.zipIdx { sink := held, diagnostics := d }

/-- What is stored in turns, each with its node. -/
def logOf (turns : List (Turn σ)) : List (Node × Question) :=
  turns.flatMap fun t => t.stored.map fun question => (t.node, question)

/-- The log of an import. -/
def importLog (c : Config) (s : Sink σ) (held : σ) (d : Diagnostics) (root : Node) :
    List (Node × Question) :=
  logOf (importTurns c s held d root)

/-! ## What a turn can do -/

variable {c : Config} {s : Sink σ} {held : σ} {d : Diagnostics} {root : Node}

/-- The node of a turn is converted to a question. -/
def Turn.Yields (c : Config) (t : Turn σ) (question : Question) : Prop :=
  question.kind ≠ .category ∧
    ∃ v, convertNode c t.node t.position = .ok v ∧ v.outcome = .ok question

/-- A turn of a node whose topic calls for a marker. -/
structure Turn.Calls (c : Config) (t : Turn σ) : Prop where
  emit : c.emitCategories = true
  ne_empty : topicOf t.node ≠ ""
  ne_topic : topicOf t.node ≠ t.before.topic

/-- What a turn can do: nothing at all, or store what the node is converted to, with the
marker of its topic in front if the topic calls for one. The sink may refuse the question
when the marker is stored already. -/
inductive Turn.Course (c : Config) (s : Sink σ) (t : Turn σ) : Prop
  | idle (htopic : t.after.topic = t.before.topic)
      (hquestions : t.after.questions = t.before.questions)
  | taken {question : Question} (hyields : t.Yields c question) (hcalls : ¬ t.Calls c)
      (htopic : t.after.topic = t.before.topic)
      (hquestions : t.after.questions = t.before.questions ++ [question])
  | marked {question : Question} {held : σ} {violation : Violation}
      (hyields : t.Yields c question) (hcalls : t.Calls c) (hkind : question.kind ≠ .unknown)
      (hrefused : s.add held question.toRecord = .error (.invalid violation))
      (htopic : t.after.topic = topicOf t.node)
      (hquestions : t.after.questions =
        t.before.questions ++ [Question.categoryMarker (topicOf t.node)])
  | filed {question : Question} (hyields : t.Yields c question) (hcalls : t.Calls c)
      (htopic : t.after.topic = topicOf t.node)
      (hquestions : t.after.questions =
        t.before.questions ++ [Question.categoryMarker (topicOf t.node), question])

theorem convertNode_topic {node : Node} {position : Nat} {v : Conversion}
    (h : convertNode c node position = .ok v) : v.topic = topicOf node := by
  unfold convertNode at h
  split at h
  · cases h
  · dsimp only at h
    split at h
    · cases h
      rfl
    · cases h
      rfl
    · cases h

/-- A topic is marked just when it calls for a marker. -/
theorem Progress.mark_eq {p p' : Progress σ} {emit : Bool} {topic : String}
    (h : p.mark s emit topic = .ok p') :
    (¬ (emit = true ∧ topic ≠ "" ∧ topic ≠ p.topic) ∧ p' = p) ∨
      (emit = true ∧ topic ≠ "" ∧ topic ≠ p.topic) ∧ p'.topic = topic ∧
        p'.questions = p.questions ++ [Question.categoryMarker topic] := by
  unfold mark at h
  split at h
  next hcalls =>
    obtain ⟨held', -, rfl⟩ := Traversal.map_eq_ok_iff.mp h
    exact .inr ⟨by simpa [and_assoc] using hcalls, rfl, rfl⟩
  next hcalls =>
    cases h
    exact .inl ⟨by simpa [and_assoc] using hcalls, rfl⟩

/-- A step of an import is a turn. -/
theorem course_of_step {node : Node} {position : Nat} {p p' : Progress σ} {v : Conversion}
    (hv : convertNode c node position = .ok v) (h : p.step s c.emitCategories v = .ok p') :
    Turn.Course c s ⟨node, position, p, p'⟩ := by
  rcases Progress.step_cases h with
    ⟨f, -, rfl⟩ | ⟨question, tag, -, -, rfl⟩ | ⟨question, marked, hq, hkind, hmark, hstore⟩
  · exact .idle rfl rfl
  · exact .idle rfl rfl
  · rw [convertNode_topic hv] at hmark
    have hyields : Turn.Yields c ⟨node, position, p, p'⟩ question :=
      ⟨convertNode_ok hv question hq, v, hv, hq⟩
    rcases Progress.mark_eq hmark with ⟨hcalls, rfl⟩ | ⟨⟨hemit, hne, hdiffers⟩, htopic, hquestions⟩
    · rcases Progress.store_cases hstore with ⟨held', -, rfl⟩ | ⟨violation, -, rfl⟩
      · exact .taken hyields (fun h => hcalls ⟨h.emit, h.ne_empty, h.ne_topic⟩) rfl rfl
      · exact .idle rfl rfl
    · rcases Progress.store_cases hstore with ⟨held', -, rfl⟩ | ⟨violation, hrefused, rfl⟩
      · refine .filed hyields ⟨hemit, hne, hdiffers⟩ htopic ?_
        show marked.questions ++ [question] = _
        rw [hquestions, List.append_assoc]
        rfl
      · exact .marked hyields ⟨hemit, hne, hdiffers⟩ hkind hrefused htopic hquestions

namespace Turn

variable {t : Turn σ}

theorem questions_after (h : t.Course c s) :
    t.after.questions = t.before.questions ++ t.stored := by
  have hprefix : t.before.questions <+: t.after.questions := by
    cases h with
    | idle _ hquestions => exact hquestions ▸ List.prefix_rfl
    | taken _ _ _ hquestions => exact ⟨_, hquestions.symm⟩
    | marked _ _ _ _ _ hquestions => exact ⟨_, hquestions.symm⟩
    | filed _ _ _ hquestions => exact ⟨_, hquestions.symm⟩
  exact (List.prefix_iff_eq_append.mp hprefix).symm

theorem stored_eq {added : List Question}
    (h : t.after.questions = t.before.questions ++ added) : t.stored = added := by
  rw [stored, h, List.drop_left]

/-- A turn stores nothing, a question, the marker of its topic, or both. -/
theorem stored_cases (h : t.Course c s) :
    t.stored = [] ∨ (∃ question, t.Yields c question ∧ t.stored = [question]) ∨
      t.stored = [Question.categoryMarker (topicOf t.node)] ∨
      ∃ question, t.Yields c question ∧
        t.stored = [Question.categoryMarker (topicOf t.node), question] := by
  cases h with
  | idle _ hquestions => exact .inl (stored_eq (by rw [hquestions, List.append_nil]))
  | taken hyields _ _ hquestions => exact .inr (.inl ⟨_, hyields, stored_eq hquestions⟩)
  | marked _ _ _ _ _ hquestions => exact .inr (.inr (.inl (stored_eq hquestions)))
  | filed hyields _ _ hquestions => exact .inr (.inr (.inr ⟨_, hyields, stored_eq hquestions⟩))

end Turn

/-! ## Turns one after the other -/

/-- Turns that go on from one another, from a first state to a last one. -/
inductive Chained (c : Config) (s : Sink σ) : Progress σ → List (Turn σ) → Progress σ → Prop
  | nil (p : Progress σ) : Chained c s p [] p
  | cons {t : Turn σ} {turns : List (Turn σ)} {p : Progress σ} (ht : t.Course c s)
      (hrest : Chained c s t.after turns p) : Chained c s t.before (t :: turns) p

theorem chained_of_steps {nodes : List (Node × Nat)} {vs : List Conversion} {p p' : Progress σ}
    (hvs : List.Forall₂ (fun entry v => convertNode c entry.1 (entry.2 + 1) = .ok v) nodes vs)
    (hsteps : Progress.steps s c.emitCategories vs p = .ok p') :
    Chained c s p (turnsFrom c s nodes p) p' ∧
      (turnsFrom c s nodes p).map (fun t => (t.node, t.position)) =
        nodes.map fun entry => (entry.1, entry.2 + 1) := by
  induction hvs generalizing p with
  | nil =>
      cases hsteps
      exact ⟨.nil _, rfl⟩
  | @cons entry v nodes vs hv hvs ih =>
      obtain ⟨node, i⟩ := entry
      rw [Progress.steps] at hsteps
      cases hstep : p.step s c.emitCategories v with
      | error fault =>
          rw [hstep] at hsteps
          cases hsteps
      | ok p₁ =>
          rw [hstep] at hsteps
          obtain ⟨hchained, hnodes⟩ := ih hsteps
          have hturns : turnsFrom c s ((node, i) :: nodes) p =
              ⟨node, i + 1, p, p₁⟩ :: turnsFrom c s nodes p₁ := by
            rw [turnsFrom, hv]
            dsimp only
            rw [hstep]
          rw [hturns]
          constructor
          · exact Chained.cons (t := ⟨node, i + 1, p, p₁⟩) (course_of_step hv hstep) hchained
          · rw [List.map_cons, hnodes, List.map_cons]

/-- An import that returns takes each question node in turn, in the order of the document. -/
theorem chained_importTurns {p : Progress σ} (h : importDocument c s held d root = .ok p) :
    Chained c s { sink := held, diagnostics := d } (importTurns c s held d root) p ∧
      (importTurns c s held d root).map (fun t => (t.node, t.position)) =
        root.questions.zipIdx.map fun entry => (entry.1, entry.2 + 1) := by
  unfold importDocument at h
  split at h
  · cases h
  next vs hvs =>
    split at h
    · cases h
    next p' hsteps =>
      cases h
      exact chained_of_steps (Traversal.mapM_eq_ok_iff.mp hvs) hsteps

/-! ## Logs -/

@[simp] theorem logOf_nil : logOf ([] : List (Turn σ)) = [] := rfl

@[simp] theorem logOf_cons (t : Turn σ) (turns : List (Turn σ)) :
    logOf (t :: turns) = t.stored.map (fun question => (t.node, question)) ++ logOf turns := rfl

@[simp] theorem logOf_append (turns turns' : List (Turn σ)) :
    logOf (turns ++ turns') = logOf turns ++ logOf turns' :=
  List.flatMap_append

/-- An entry of a log is stored by one of the turns. What is logged before it is stored by the
turns before, or first in the same turn; and so is what is logged behind it. -/
theorem exists_turn_of_logOf_eq_append {turns : List (Turn σ)} {node : Node} {question : Question}
    {before after : List (Node × Question)}
    (h : logOf turns = before ++ (node, question) :: after) :
    ∃ earlier t later first rest, turns = earlier ++ t :: later ∧ t.node = node ∧
      t.stored = first ++ question :: rest ∧
      before = logOf earlier ++ first.map (fun question => (t.node, question)) ∧
      after = rest.map (fun question => (t.node, question)) ++ logOf later := by
  induction turns generalizing before with
  | nil => simp at h
  | cons t turns ih =>
      have hlater {u : List (Node × Question)}
          (hu : before = t.stored.map (fun question => (t.node, question)) ++ u)
          (hlog : logOf turns = u ++ (node, question) :: after) :
          ∃ earlier t' later first rest, t :: turns = earlier ++ t' :: later ∧ t'.node = node ∧
            t'.stored = first ++ question :: rest ∧
            before = logOf earlier ++ first.map (fun question => (t'.node, question)) ∧
            after = rest.map (fun question => (t'.node, question)) ++ logOf later := by
        obtain ⟨earlier, t', later, first, rest, rfl, hnode, hstored, rfl, hafter⟩ := ih hlog
        refine ⟨t :: earlier, t', later, first, rest, rfl, hnode, hstored, ?_, hafter⟩
        rw [hu, logOf_cons, List.append_assoc]
      rw [logOf_cons] at h
      rcases List.append_eq_append_iff.mp h with ⟨u, hu, hsplit⟩ | ⟨u, hu, hsplit⟩
      · exact hlater hu hsplit
      · cases u with
        | nil => exact hlater (u := []) (by simpa using hu.symm) hsplit.symm
        | cons entry u =>
            obtain ⟨rfl, rfl⟩ := List.cons.inj hsplit
            obtain ⟨first, rest, hstored, rfl, hsame⟩ := List.map_eq_append_iff.mp hu
            obtain ⟨question', later, rfl, hentry, rfl⟩ := List.map_eq_cons_iff.mp hsame
            cases hentry
            exact ⟨[], t, turns, first, later, rfl, rfl, hstored, rfl, rfl⟩

namespace Chained

variable {p p' : Progress σ} {turns : List (Turn σ)}

/-- The turns up to one of them lead to the state before it. -/
theorem of_append {earlier later : List (Turn σ)} {t : Turn σ}
    (h : Chained c s p (earlier ++ t :: later) p') :
    Chained c s p earlier t.before ∧ t.Course c s := by
  induction earlier generalizing p with
  | nil =>
      cases h with
      | cons ht _ => exact ⟨.nil _, ht⟩
  | cons t' earlier ih =>
      cases h with
      | cons ht' hrest =>
          obtain ⟨hearlier, ht⟩ := ih hrest
          exact ⟨.cons ht' hearlier, ht⟩

/-- What is stored is what the log holds. -/
theorem questions (h : Chained c s p turns p') :
    p'.questions = p.questions ++ (logOf turns).map Prod.snd := by
  induction h with
  | nil p => simp
  | @cons t turns p' ht _ ih =>
      rw [ih, Turn.questions_after ht, List.append_assoc]
      simp [Function.comp_def]

theorem course (h : Chained c s p turns p') : ∀ t ∈ turns, t.Course c s := by
  induction h with
  | nil => simp
  | cons ht _ ih => exact List.forall_mem_cons.mpr ⟨ht, ih⟩

end Chained

end QuestionBank
