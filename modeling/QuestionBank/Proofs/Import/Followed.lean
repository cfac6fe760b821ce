import QuestionBank.Proofs.Bank.Adding
import QuestionBank.Proofs.Import.Topics
import QuestionBank.Proofs.Question.Valid

/-!
# Markers and the questions behind them

A marker is stored before the question that calls for it. If the sink takes the question
too, it stands right behind the marker. If the sink refuses it, the marker stays, and what
is stored next decides whether a question of its topic stands behind it.
-/

namespace QuestionBank

open QuestionBank.Document QuestionBank.Schema QuestionBank.Text

variable {σ : Type} {c : Config} {s : Sink σ}

/-! ## Logs without dangling markers -/

/-- Right behind each marker stands a question whose node names the topic of the marker. -/
def Followed (log : List (Node × Question)) : Prop :=
  ∀ before node marker after, log = before ++ (node, marker) :: after →
    marker.kind = .category →
      ∃ node' question rest, after = (node', question) :: rest ∧ question.kind ≠ .category ∧
        marker = Question.categoryMarker (topicOf node')

/-- The first of the turns in which anything is stored takes a question of the topic, and opens
no topic. -/
def Resumes (topic : String) (turns : List (Turn σ)) : Prop :=
  ∃ idle t later, turns = idle ++ t :: later ∧ (∀ u ∈ idle, u.stored = []) ∧
    t.opens = false ∧ t.takes = true ∧ topicOf t.node = topic

/-- The first entry of a log is stored by the first turn that stores anything. -/
theorem exists_turn_of_logOf_eq_cons {turns : List (Turn σ)} {entry : Node × Question}
    {rest : List (Node × Question)} (h : logOf turns = entry :: rest) :
    ∃ idle t later more, turns = idle ++ t :: later ∧ (∀ u ∈ idle, u.stored = []) ∧
      t.node = entry.1 ∧ t.stored = entry.2 :: more := by
  induction turns with
  | nil => cases h
  | cons t turns ih =>
      cases hstored : t.stored with
      | nil =>
          rw [logOf_cons, hstored] at h
          obtain ⟨idle, t', later, more, rfl, hidle, hnode, hmore⟩ := ih h
          exact ⟨t :: idle, t', later, more, rfl, List.forall_mem_cons.mpr ⟨hstored, hidle⟩,
            hnode, hmore⟩
      | cons question more =>
          rw [logOf_cons, hstored] at h
          obtain ⟨rfl, -⟩ := List.cons.inj h
          exact ⟨[], t, turns, more, rfl, by simp, rfl, hstored⟩

theorem opens_of_question {t : Turn σ} {question : Question} (hkind : question.kind ≠ .category)
    (hstored : t.stored = [question]) : t.opens = false ∧ t.takes = true := by
  simp [Turn.opens, Turn.takes, hstored, hkind]

theorem opens_of_marker {t : Turn σ} {topic : String}
    (hstored : t.stored = [Question.categoryMarker topic]) :
    t.opens = true ∧ t.takes = false := by
  rw [Turn.opens, Turn.takes, hstored]
  exact ⟨rfl, rfl⟩

/-- The only marker of a turn is what the turn stores first. -/
theorem first_of_marker {m marker : Question} {questions before after : List Question}
    (hmarker : marker.kind = .category) (hquestions : ∀ question ∈ questions,
      question.kind ≠ .category) (h : m :: questions = before ++ marker :: after) :
    m = marker ∧ questions = after := by
  cases before with
  | nil => exact List.cons.inj h
  | cons d before =>
      have hmem : marker ∈ questions := by
        rw [(List.cons.inj h).2]
        simp
      exact absurd hmarker (hquestions marker hmem)

/-- If the topic is taken up again, a question of it stands behind what is stored. -/
theorem Resumes.exists_logOf_eq {topic : String} {turns : List (Turn σ)}
    (hturns : ∀ t ∈ turns, t.Course c s) (h : Resumes topic turns) :
    ∃ node question rest, logOf turns = (node, question) :: rest ∧ question.kind ≠ .category ∧
      topicOf node = topic := by
  obtain ⟨idle, t, later, rfl, hidle, hopens, htakes, htopic⟩ := h
  have hlog : logOf idle = [] := by
    rw [logOf, List.flatMap_eq_nil_iff]
    intro u hu
    rw [hidle u hu]
    rfl
  obtain ⟨question, hkind, hstored⟩ :
      ∃ question, question.kind ≠ .category ∧ t.stored = [question] := by
    rcases Turn.stored_cases (hturns t (by simp)) with
      hstored | ⟨question, hyields, hstored⟩ | hstored | ⟨question, -, hstored⟩
    · simp [Turn.takes, hstored] at htakes
    · exact ⟨question, hyields.1, hstored⟩
    · rw [(opens_of_marker hstored).1] at hopens
      cases hopens
    · rw [Turn.opens, hstored] at hopens
      cases hopens
  refine ⟨t.node, question, logOf later, ?_, hkind, htopic⟩
  rw [logOf_append, hlog, logOf_cons, hstored]
  rfl

/-- If a question stands behind what is stored, a topic is taken up again. -/
theorem resumes_of_logOf_eq {turns : List (Turn σ)} (hturns : ∀ t ∈ turns, t.Course c s)
    {node : Node} {question : Question} {rest : List (Node × Question)}
    (h : logOf turns = (node, question) :: rest) (hkind : question.kind ≠ .category) :
    Resumes (topicOf node) turns := by
  obtain ⟨idle, t, later, more, rfl, hidle, rfl, hstored⟩ := exists_turn_of_logOf_eq_cons h
  have hmarker (topic : String) : question ≠ Question.categoryMarker topic := by
    rintro rfl
    exact hkind rfl
  have hquestion : t.stored = [question] := by
    rcases Turn.stored_cases (hturns t (by simp)) with
      hstored' | ⟨question', -, hstored'⟩ | hstored' | ⟨question', -, hstored'⟩
    · rw [hstored] at hstored'
      cases hstored'
    · rw [hstored] at hstored'
      obtain ⟨rfl, -⟩ := List.cons.inj hstored'
      rw [hstored, hstored']
    · rw [hstored] at hstored'
      exact absurd (List.cons.inj hstored').1 (hmarker _)
    · rw [hstored] at hstored'
      exact absurd (List.cons.inj hstored').1 (hmarker _)
  obtain ⟨hopens, htakes⟩ := opens_of_question hkind hquestion
  exact ⟨idle, t, later, rfl, hidle, hopens, htakes, rfl⟩

/-- A marker is followed by a question of its topic just when the sink takes the question that
the marker was stored for, or when the topic is taken up again. -/
theorem followed_logOf_iff {turns : List (Turn σ)} (hturns : ∀ t ∈ turns, t.Course c s) :
    Followed (logOf turns) ↔ ∀ earlier t later, turns = earlier ++ t :: later →
      t.opens = true → t.takes = true ∨ Resumes (topicOf t.node) later := by
  constructor
  · rintro h earlier t later rfl hopens
    have hlater : ∀ u ∈ later, u.Course c s := fun u hu => hturns u (by simp [hu])
    rcases Turn.stored_cases (hturns t (by simp)) with
      hstored | ⟨question, hyields, hstored⟩ | hstored | ⟨question, hyields, hstored⟩
    · simp [Turn.opens, hstored] at hopens
    · rw [(opens_of_question hyields.1 hstored).1] at hopens
      cases hopens
    · -- Only the marker is stored, so that a later turn stores what is behind it.
      have hlog : logOf (earlier ++ t :: later) =
          logOf earlier ++ (t.node, Question.categoryMarker (topicOf t.node)) :: logOf later := by
        rw [logOf_append, logOf_cons, hstored]
        rfl
      obtain ⟨node, question, rest, hrest, hkind, hmarker⟩ := h _ _ _ _ hlog rfl
      have htopic : topicOf t.node = topicOf node := by
        by_contra hne
        exact categoryMarker_name_ne (strip_topicOf _) (strip_topicOf _) hne
          (congrArg Question.name hmarker)
      rw [htopic]
      exact .inr (resumes_of_logOf_eq hlater hrest hkind)
    · refine .inl ?_
      simp [Turn.takes, hstored, hyields.1]
  · intro h before node marker after hlog hkind
    obtain ⟨earlier, t, later, qs, rest, rfl, rfl, hstored, -, rfl⟩ :=
      exists_turn_of_logOf_eq_append hlog
    have hlater : ∀ u ∈ later, u.Course c s := fun u hu => hturns u (by simp [hu])
    rcases Turn.stored_cases (hturns t (by simp)) with
      hstored' | ⟨question, hyields, hstored'⟩ | hstored' | ⟨question, hyields, hstored'⟩
    · rw [hstored'] at hstored
      simp at hstored
    · have hmem : marker ∈ [question] := by
        rw [← hstored', hstored]
        simp
      rw [List.mem_singleton.mp hmem] at hkind
      exact absurd hkind hyields.1
    · obtain ⟨hopens, htakes⟩ := opens_of_marker hstored'
      obtain ⟨rfl, rfl⟩ := first_of_marker hkind (by simp) (hstored'.symm.trans hstored)
      rcases h earlier t later rfl hopens with htaken | hresumes
      · rw [htakes] at htaken
        cases htaken
      · obtain ⟨node, question, more, hlogged, hquestion, htopic⟩ := hresumes.exists_logOf_eq hlater
        exact ⟨node, question, more, hlogged, hquestion, by rw [htopic]⟩
    · obtain ⟨rfl, rfl⟩ := first_of_marker hkind (by simpa using hyields.1)
        (hstored'.symm.trans hstored)
      exact ⟨t.node, question, logOf later, rfl, hyields.1, rfl⟩

/-! ## Imports -/

/-- A sink that refuses no question of a known kind as not valid. -/
def Sink.Tolerant (s : Sink σ) : Prop :=
  ∀ held (question : Question) violation, question.kind ≠ .unknown →
    s.add held question.toRecord ≠ .error (.invalid violation)

theorem Sink.Accepting.tolerant (hs : s.Accepting) : s.Tolerant := by
  intro held question violation hkind hrefused
  obtain ⟨held', hadd⟩ := hs.add held hkind
  rw [hadd] at hrefused
  cases hrefused

/-- The record of a question of a known kind passes the check that is not strict. -/
theorem violation?_toRecord_of_not_strict {question : Question} (hkind : question.kind ≠ .unknown) :
    violation? false question.toRecord.storedMembers = none := by
  have hmissing : (requiredNames.filter fun name =>
      (question.toRecord.storedMembers.lookup name).isNone) = [] := rfl
  have hversion : question.toRecord.storedMembers.lookup "schema_version" = some (.int 1) := rfl
  have htag : question.toRecord.storedMembers.lookup "kind" = some (.str question.kind.tag) := rfl
  have hunknown : Kind.unknown.tag = question.kind.tag ↔ question.kind = .unknown := by
    cases question.kind <;> decide
  simp [violation?, hmissing, hversion, htag, hunknown, hkind, Scalar.equals]

/-- A bank in a file refuses a record as not valid just when the check finds a violation. -/
theorem file_add_invalid_iff {path : String} {strict : Bool} {bank : FileBank} {r : Record} :
    (∃ violation, (Sink.file path strict).add bank r = .error (.invalid violation)) ↔
      violation? strict r.storedMembers ≠ none := by
  constructor
  · rintro ⟨violation, hrefused⟩ hvalid
    by_cases hwritable : r.toJson.isWritable = true
    · rw [file_add_of_storable ⟨hvalid, hwritable⟩] at hrefused
      cases hrefused
    · rw [file_add_of_not_writable hvalid (by simpa using hwritable)] at hrefused
      cases hrefused
  · intro hinvalid
    obtain ⟨violation, hviolation⟩ := Option.ne_none_iff_exists'.mp hinvalid
    exact ⟨violation, file_add_of_violation hviolation⟩

theorem tolerant_file (path : String) : (Sink.file path false).Tolerant := by
  intro bank question violation hkind hrefused
  exact file_add_invalid_iff.mp ⟨violation, hrefused⟩ (violation?_toRecord_of_not_strict hkind)

/-- A strict bank refuses just the questions that are not sound, and those with a pair without
an answer. -/
theorem strict_file_refuses_iff {path : String} {bank : FileBank} {question : Question} :
    (∃ violation, (Sink.file path true).add bank question.toRecord = .error (.invalid violation)) ↔
      ¬ (question.Sound ∧ ¬ question.HasEmptyAnswer) := by
  obtain ⟨-, hinvalid⟩ := validate_toRecord_iff question
  rw [file_add_invalid_iff, ← hinvalid]
  exact (validate_obj true question.toRecord.storedMembers).2.symm

/-- A sink that refuses no question of a run lets no marker dangle. -/
theorem followed_of_not_refused {turns : List (Turn σ)} (hturns : ∀ t ∈ turns, t.Course c s)
    (hs : ∀ t ∈ turns, ∀ question held violation, t.Yields c question →
      question.kind ≠ .unknown → s.add held question.toRecord ≠ .error (.invalid violation)) :
    Followed (logOf turns) := by
  rw [followed_logOf_iff hturns]
  rintro earlier t later rfl hopens
  have hmem : t ∈ earlier ++ t :: later := by simp
  cases hturns t hmem with
  | idle _ hquestions =>
      rw [← List.append_nil t.before.questions] at hquestions
      simp [Turn.opens, Turn.stored_eq hquestions] at hopens
  | taken hyields _ _ hquestions =>
      exact .inl (opens_of_question hyields.1 (Turn.stored_eq hquestions)).2
  | marked hyields _ hkind hrefused => exact absurd hrefused (hs t hmem _ _ _ hyields hkind)
  | filed hyields _ _ hquestions =>
      refine .inl ?_
      simp [Turn.takes, Turn.stored_eq hquestions, hyields.1]

/-- **Markers are followed by their questions unless a question is refused.** An import that
returns has a question of its topic right behind each marker of the log just when the sink takes
the question that calls for the marker, or when what is stored next is a question of the topic.
So it is for every sink that refuses no question of the document as not valid, and for every
document with no sink, a bank in memory or a bank in a file that is not strict. A strict bank
refuses the questions that are not sound and those with a pair without an answer. -/
theorem importLog_followed {held : σ} {d : Diagnostics} {root : Node} {p : Progress σ}
    (h : importDocument c s held d root = .ok p) :
    (importLog c s held d root).map Prod.snd = p.questions ∧
    (Followed (importLog c s held d root) ↔
      ∀ earlier t later, importTurns c s held d root = earlier ++ t :: later →
        t.opens = true → t.takes = true ∨ Resumes (topicOf t.node) later) ∧
    ((∀ t ∈ importTurns c s held d root, ∀ question held violation, t.Yields c question →
        question.kind ≠ .unknown → s.add held question.toRecord ≠ .error (.invalid violation)) →
      Followed (importLog c s held d root)) ∧
    Sink.none.Tolerant ∧ Sink.memory.Tolerant ∧ (∀ path, (Sink.file path false).Tolerant) ∧
    ∀ path bank (question : Question), (∃ violation,
        (Sink.file path true).add bank question.toRecord = .error (.invalid violation)) ↔
      ¬ (question.Sound ∧ ¬ question.HasEmptyAnswer) := by
  obtain ⟨hchained, -⟩ := chained_importTurns h
  have hturns := hchained.course
  refine ⟨?_, followed_logOf_iff hturns, followed_of_not_refused hturns,
    accepting_none.tolerant, accepting_memory.tolerant, tolerant_file, ?_⟩
  · rw [hchained.questions]
    rfl
  · intro path bank question
    exact strict_file_refuses_iff

/-- A document with a question of matching pairs, one of which has no answer. -/
def pairsDocument : Node :=
  { name := "QML"
    children := [{
      name := "QUESTION"
      attributes := [("ID", "9"), ("TOPIC", "Maps")]
      children := [
        { name := "ANSWER"
          attributes := [("QTYPE", "MATCH")]
          children := [
            { name := "CHOICE"
              children := [
                { name := "CONTENT", text := "left" },
                { name := "OPTION", text := "right" },
                { name := "OPTION" }] }] },
        { name := "OUTCOME"
          attributes := [("ID", "1"), ("SCORE", "1")]
          children := [{ name := "CONDITION", text := "\"0\" MATCHES \"right\"" }] }] }] }

/-- A bank that is not strict takes the question, so that it stands behind its marker. -/
theorem importLog_followed_pairs :
    ∃ p, importDocument {} (Sink.file "bank" false) ⟨⟨[]⟩, 0⟩ {} pairsDocument = .ok p ∧
      p.questions.map Question.kind = [.category, .matching] ∧
      Followed (importLog {} (Sink.file "bank" false) ⟨⟨[]⟩, 0⟩ {} pairsDocument) := by
  have hrun : (match importDocument {} (Sink.file "bank" false) ⟨⟨[]⟩, 0⟩ {} pairsDocument with
      | .ok p => decide (p.questions.map Question.kind = [.category, .matching])
      | .error _ => false) = true := by decide +kernel
  split at hrun
  next p hp =>
    refine ⟨p, hp, of_decide_eq_true hrun, (importLog_followed hp).2.2.1 ?_⟩
    intro t _ question bank violation _ hkind
    exact tolerant_file "bank" bank question violation hkind
  next => cases hrun

/-- A strict bank refuses the question and keeps its marker. -/
theorem not_forall_importLog_followed :
    ¬ ∀ (c : Config) (path : String) (strict : Bool) (bank : FileBank) (d : Diagnostics)
        (root : Node) (p : Progress FileBank),
      importDocument c (Sink.file path strict) bank d root = .ok p →
        Followed (importLog c (Sink.file path strict) bank d root) := by
  intro h
  have hrun : (match importDocument {} (Sink.file "bank" true) ⟨⟨[]⟩, 0⟩ {} pairsDocument with
      | .ok _ => true
      | .error _ => false) = true := by decide +kernel
  have hlog : (importLog {} (Sink.file "bank" true) ⟨⟨[]⟩, 0⟩ {} pairsDocument).map Prod.snd =
      [Question.categoryMarker "Maps"] := by decide +kernel
  split at hrun
  next p hp =>
    obtain ⟨⟨node, marker⟩, hentry, rfl⟩ := List.map_eq_singleton_iff.mp hlog
    obtain ⟨_, _, _, hbehind, -⟩ := h {} "bank" true ⟨⟨[]⟩, 0⟩ {} pairsDocument p hp [] node _ []
      hentry rfl
    cases hbehind
  next => cases hrun

end QuestionBank
