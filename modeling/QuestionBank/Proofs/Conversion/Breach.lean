import QuestionBank.Import.Run
import QuestionBank.Proofs.Conversion.Multianswer
import QuestionBank.Proofs.Scoring.Shares

/-!
# What ends a run

A question node ends the whole run if a text of it is refused, a score is infinite, or a
block of it has a weight of too many digits. Nothing else does: with scores that are
read, no arithmetic overflows, and all other faults are failures of the one question.
-/

namespace QuestionBank

open QuestionBank.Scoring QuestionBank.Text

/-- A question that is no marker and of a known kind. -/
def Question.Regular (question : Question) : Prop :=
  question.kind ≠ .category ∧ question.kind ≠ .unknown

/-- A draft that is finished without a breach, whatever the header. -/
def Finishes (draft : Draft) : Prop := ∀ header, Unbroken Question.Regular (draft header)

/-- A short-answer question whose blanks are scored together, so that its name may come
from them. -/
structure NamedByBlanks (q : SourceQuestion) : Prop where
  kind : q.kind = .shortAnswer
  set : ∃ set, aggregate (some q.id) q.outcomes = .ok set ∧ set.stems ≠ [] ∧ set.mode = .combined
  description : q.description = genericDescription
  blanks : q.fragmentsText ≠ ""

/-- What a question node holds that ends the run. The parts of the node come first: a
text that is refused, or an infinite score. The others are found in a question that has
been read: its own text is refused, at once or when the cleaned text is read again for a
name; its name comes from blanks that are refused; and with embedded answers, a weight or
a numeral in the text has too many digits. -/
inductive Breaks (c : Config) (node : Document.Node) (position : Int) : Prop
  | part {t : RawText} (ht : t ∈ questionTexts c node) (hrefused : ¬ Cleanable c t)
  | score {outcome : Document.Node} (ho : outcome ∈ node.childrenNamed "OUTCOME")
      (hinfinite : InfiniteScore outcome)
  | content {q : SourceQuestion} {draft : Draft} {t : RawText}
      (hread : SourceQuestion.read c node position = .ok q) (hdraft : q.draft c = .ok draft)
      (ht : t ∈ contentTexts c q.content?) (hrefused : ¬ Cleanable c t)
  | shown {q : SourceQuestion} {draft : Draft} {text : String} {format : TextFormat}
      (hread : SourceQuestion.read c node position = .ok q) (hdraft : q.draft c = .ok draft)
      (htext : q.shownText c = .ok (text, format))
      (hrefused : ¬ Cleanable c (c.answerProfile, text))
  | name {q : SourceQuestion} {header : Header}
      (hread : SourceQuestion.read c node position = .ok q) (hnamed : NamedByBlanks q)
      (hheader : q.header c = .ok header)
      (hrefused : ¬ Cleanable c (c.answerProfile, q.fragmentsText))
  | weight {q : SourceQuestion} {kind : Cloze.Kind} {r : MatchResult} {b : Breach}
      (hread : SourceQuestion.read c node position = .ok q) (hpassed : Passed q kind r)
      (hlong : encodeAnswer q kind r = .error (.broken b))
  | numeral {q : SourceQuestion} {kind : Cloze.Kind} {r : MatchResult} {parts : List String}
      {header : Header} {b : Breach}
      (hread : SourceQuestion.read c node position = .ok q) (hpassed : Passed q kind r)
      (hparts : encodeAnswer q kind r = .ok parts) (hheader : q.header c = .ok header)
      (hlong : Cloze.extract (joinStripped [header.text, joinStripped parts]) =
        .error (.broken b))

variable {c : Config} {node : Document.Node} {position : Int} {q : SourceQuestion}
  {kind : Cloze.Kind} {r : MatchResult} {question : Question}

/-! ## Headers -/

theorem shownText_isOk_iff :
    (∃ p, q.shownText c = .ok p) ↔ ∀ t ∈ contentTexts c q.content?, Cleanable c t := by
  rw [← contentOf_isOk_iff, SourceQuestion.shownText]
  cases q.content? with
  | none => simp [Config.contentOf]
  | some content => rfl

theorem header_isOk_iff :
    (∃ header, q.header c = .ok header) ↔
      ∃ text format, q.shownText c = .ok (text, format) ∧ Cleanable c (c.answerProfile, text) := by
  unfold SourceQuestion.header
  cases q.shownText c with
  | error b => simp
  | ok p =>
      obtain ⟨text, format⟩ := p
      simp [Traversal.map_isOk_iff, plain_isOk_iff]

theorem exists_error_iff {ε α : Type} {x : Except ε α} :
    (∃ e, x = .error e) ↔ ¬ ∃ a, x = .ok a := by
  cases x <;> simp

/-! ## Drafts -/

theorem regular_numerical (header : Header) (answers : List NumericAnswer) (ranged : Bool) :
    Question.Regular ⟨header, .numerical answers ranged⟩ := by
  cases ranged <;> exact ⟨nofun, nofun⟩

theorem unbroken_multichoiceDraft (q : SourceQuestion) :
    Unbroken Finishes (multichoiceDraft q) := by
  unfold multichoiceDraft
  split
  · exact .failed _
  · dsimp only
    split
    · exact .failed _
    · exact .ok fun header => .ok ⟨nofun, nofun⟩

theorem unbroken_trueFalseDraft (q : SourceQuestion) : Unbroken Finishes (trueFalseDraft q) := by
  unfold trueFalseDraft
  dsimp only
  split
  · exact .failed _
  · split
    · exact .ok fun header => .ok ⟨nofun, nofun⟩
    · exact .failed _

theorem unbroken_matchingDraft (q : SourceQuestion) : Unbroken Finishes (matchingDraft q) := by
  unfold matchingDraft
  split
  · exact .failed _
  · split
    · exact .failed _
    · dsimp only
      split
      · exact .failed _
      · exact .ok fun header => .ok ⟨nofun, nofun⟩

theorem selectionDraft_cases (hkind : q.kind = .selection) :
    (∃ r, Passed q .multichoice r) ∨ Unbroken Finishes (selectionDraft q) := by
  unfold selectionDraft
  split
  · exact .inr (.failed _)
  next hchoices =>
    split
    · exact .inr (.failed _)
    next set hset => exact .inl ⟨_, .selection hkind (by simpa using hchoices) hset⟩

theorem inRange_of_drawnFrom (hscores : ∀ o ∈ q.outcomes, InRange o.score) {set : OutcomeSet}
    (hset : aggregate (some q.id) q.outcomes = .ok set) :
    (∀ o, set.right = some o → InRange o.score) ∧ ∀ rule ∈ set.stems, rule.InRange := by
  obtain ⟨hright, hstems⟩ := aggregate_drawnFrom hset
  exact ⟨fun o ho => hscores o (hright o ho),
    fun rule hrule a ha => hscores _ (hstems rule hrule a ha)⟩

theorem one_lt_length {α : Type} {l : List α} (hnone : l ≠ []) (hmany : ∀ a, l ≠ [a]) :
    1 < l.length := by
  match l, hnone, hmany with
  | [a], _, hmany => exact absurd rfl (hmany a)
  | _ :: _ :: _, _, _ => simp

theorem numericalDraft_cases (hscores : ∀ o ∈ q.outcomes, InRange o.score)
    (hkind : q.kind = .numerical) :
    (∃ r, Passed q .numerical r) ∨ Unbroken Finishes (numericalDraft q) := by
  unfold numericalDraft
  split
  · exact .inr (.failed _)
  next set hset =>
    obtain ⟨hright, hrules⟩ := inRange_of_drawnFrom hscores hset
    split
    · exact .inr (.failed _)
    next rule hone =>
      have hrule := hrules rule (by simp [hone])
      exact .inr ((unbroken_numericAnswers (some q.id) set hrule).map
        fun _ _ header => .ok (regular_numerical _ _ _))
    next hnone hmany =>
      have hlength := one_lt_length hnone hmany
      have hfound := unbroken_mapM fun rule hrule =>
        unbroken_numericMatches q hright (hrules rule hrule)
      cases h : set.stems.mapM (numericMatches q set) with
      | error e =>
          rw [h] at hfound
          exact .inr hfound.of_error
      | ok found => exact .inl ⟨_, .numerical hkind hset hlength h⟩

/-! ## Short answers -/

theorem shortHeader_isOk_iff (header : Header) :
    (∃ h, shortHeader c q header = .ok h) ↔
      (q.description = genericDescription → q.fragmentsText ≠ "" →
        Cleanable c (c.answerProfile, q.fragmentsText)) := by
  unfold shortHeader
  dsimp only
  split
  next hgeneric =>
    simp only [Bool.and_eq_true, beq_iff_eq, Bool.not_eq_true', String.isEmpty_eq_false_iff]
      at hgeneric
    rw [Traversal.map_isOk_iff, plain_isOk_iff]
    exact ⟨fun h _ _ => h, fun h => h hgeneric.1 hgeneric.2⟩
  next hgeneric =>
    refine iff_of_true ⟨_, rfl⟩ fun hdescription hblanks => absurd ?_ hgeneric
    simp [hdescription, hblanks]

/-- Blanks that are scored together end up in one body, whatever becomes of the header. -/
theorem shortAnswerDraft_combined (c : Config) {set : OutcomeSet}
    (hset : aggregate (some q.id) q.outcomes = .ok set) (hstems : set.stems ≠ [])
    (hmode : set.mode = .combined) :
    ∃ complete : Header → Question, (∀ header, (complete header).Regular) ∧
      shortAnswerDraft c q = .ok fun header =>
        orBreak ((shortHeader c q header).map complete) := by
  unfold shortAnswerDraft
  rw [hset]
  dsimp only
  rw [hmode]
  match set.stems, hstems with
  | [rule], _ =>
      refine ⟨_, fun header => ?_, rfl⟩
      exact ⟨nofun, nofun⟩
  | _ :: _ :: _, _ =>
      refine ⟨_, fun header => ?_, rfl⟩
      exact ⟨nofun, nofun⟩

theorem orBreak_eq_broken {α : Type} {x : Except Breach α} {b : Breach} :
    orBreak x = .error (.broken b) ↔ x = .error b := by
  cases x <;> simp [orBreak]

theorem orBreak_eq_ok {α : Type} {x : Except Breach α} {a : α} :
    orBreak x = .ok a ↔ x = .ok a := by
  cases x <;> simp [orBreak]

/-- A draft that is named by its blanks breaks if they are refused. -/
theorem draft_named (c : Config) (h : NamedByBlanks q) :
    ∃ draft, q.draft c = .ok draft ∧
      (∀ header, (∃ b, draft header = .error (.broken b)) ↔
        ¬ Cleanable c (c.answerProfile, q.fragmentsText)) ∧
      ∀ header question, draft header = .ok question → question.Regular := by
  obtain ⟨set, hset, hstems, hmode⟩ := h.set
  obtain ⟨complete, hregular, hdraft⟩ := shortAnswerDraft_combined c hset hstems hmode
  refine ⟨_, by rw [SourceQuestion.draft, h.kind]; exact hdraft, fun header => ?_, ?_⟩
  · simp only [orBreak_eq_broken, Traversal.map_eq_error_iff]
    rw [exists_error_iff, shortHeader_isOk_iff]
    exact not_congr ⟨fun hclean => hclean h.description h.blanks, fun hclean _ _ => hclean⟩
  · intro header question hquestion
    obtain ⟨_, -, rfl⟩ := Traversal.map_eq_ok_iff.mp (orBreak_eq_ok.mp hquestion)
    exact hregular _

theorem shortAnswerDraft_cases (c : Config) (hkind : q.kind = .shortAnswer) :
    (∃ r, Passed q .shortAnswer r) ∨ NamedByBlanks q ∨
      Unbroken Finishes (shortAnswerDraft c q) := by
  cases hset : aggregate (some q.id) q.outcomes with
  | error f =>
      rw [shortAnswerDraft, hset]
      exact .inr (.inr (.failed f))
  | ok set =>
      by_cases hstems : set.stems = []
      · rw [shortAnswerDraft, hset]
        dsimp only
        rw [hstems]
        exact .inr (.inr (.failed _))
      cases hmode : set.mode with
      | perStem => exact .inl ⟨_, .shortAnswer hkind hset hstems hmode⟩
      | combined =>
          refine .inr (or_iff_not_imp_left.mpr fun hnamed => ?_)
          obtain ⟨complete, hregular, hdraft⟩ := shortAnswerDraft_combined c hset hstems hmode
          rw [hdraft]
          refine .ok fun header => ?_
          obtain ⟨h, hheader⟩ := (shortHeader_isOk_iff header).mpr fun hdescription hblanks =>
            absurd ⟨hkind, ⟨set, hset, hstems, hmode⟩, hdescription, hblanks⟩ hnamed
          rw [hheader]
          exact .ok (hregular h)

/-! ## All kinds -/

/-- A question passes its matches on, is named by its blanks, or is finished without a
breach. -/
theorem draft_cases (c : Config) (hscores : ∀ o ∈ q.outcomes, InRange o.score) :
    (∃ kind r, Passed q kind r) ∨ NamedByBlanks q ∨ Unbroken Finishes (q.draft c) := by
  unfold SourceQuestion.draft
  split
  next => exact .inr (.inr (unbroken_multichoiceDraft q))
  next => exact .inr (.inr (unbroken_trueFalseDraft q))
  next hkind => exact (shortAnswerDraft_cases c hkind).imp_left fun h => ⟨_, h⟩
  next hkind =>
    exact (numericalDraft_cases hscores hkind).imp (fun h => ⟨_, h⟩) .inr
  next => exact .inr (.inr (.ok fun header => .ok ⟨nofun, nofun⟩))
  next => exact .inr (.inr (unbroken_matchingDraft q))
  next hkind => exact (selectionDraft_cases hkind).imp (fun h => ⟨_, h⟩) .inr
  next => exact .inr (.inr (.failed _))

/-! ## Nodes -/

theorem multianswerDraft_eq_ok {draft : Draft} (h : multianswerDraft q kind r = .ok draft) :
    ∃ parts, encodeAnswer q kind r = .ok parts ∧ ∀ (header : Header) (b : Breach),
      draft header = .error (.broken b) ↔
        Cloze.extract (joinStripped [header.text, joinStripped parts]) = .error (.broken b) := by
  obtain ⟨parts, hparts, rfl⟩ := Traversal.map_eq_ok_iff.mp h
  exact ⟨parts, hparts, fun header b => Traversal.map_eq_error_iff⟩

theorem convertOrKeep_broken {b : Breach} :
    (convertOrKeep c q).2 = .error (.broken b) ↔
      q.draft c = .error (.broken b) ∨
        ∃ draft, q.draft c = .ok draft ∧ q.finish c draft = .error (.broken b) := by
  unfold convertOrKeep
  split
  next hkind => simp [SourceQuestion.draft, hkind, SourceQuestion.failed]
  next =>
    unfold SourceQuestion.convert
    cases q.draft c <;> simp

theorem convertNode_error {position : Nat} :
    (∃ b, convertNode c node position = .error b) ↔
      (¬ ∃ q, SourceQuestion.read c node position = .ok q) ∨
        ∃ q, SourceQuestion.read c node position = .ok q ∧
          ∃ b, (convertOrKeep c q).2 = .error (.broken b) := by
  unfold convertNode
  cases SourceQuestion.read c node position with
  | error b => simp
  | ok q =>
      match h : convertOrKeep c q with
      | (notices, .ok question) => simp [h]
      | (notices, .error (.failed f)) => simp [h]
      | (notices, .error (.broken b)) => simp [h]

/-- A draft that breaks at once has a weight that is too long. -/
theorem breaks_of_draft (hread : SourceQuestion.read c node position = .ok q) {b : Breach}
    (h : q.draft c = .error (.broken b)) : Breaks c node position := by
  rcases draft_cases c (inRange_of_read hread) with ⟨kind, r, hpassed⟩ | hnamed | hunbroken
  · rw [draft_passed c hpassed] at h
    exact .weight hread hpassed (Traversal.map_eq_error_iff.mp h)
  · obtain ⟨draft, hdraft, -⟩ := draft_named c hnamed
    rw [hdraft] at h
    cases h
  · exact absurd h (hunbroken.ne_broken b)

/-- A draft that breaks with its header has blanks that are refused or a numeral that is
too long. -/
theorem breaks_of_draft_header (hread : SourceQuestion.read c node position = .ok q)
    {draft : Draft} (hdraft : q.draft c = .ok draft) {header : Header}
    (hheader : q.header c = .ok header) {b : Breach} (h : draft header = .error (.broken b)) :
    Breaks c node position := by
  rcases draft_cases c (inRange_of_read hread) with ⟨kind, r, hpassed⟩ | hnamed | hunbroken
  · rw [draft_passed c hpassed] at hdraft
    obtain ⟨parts, hparts, hiff⟩ := multianswerDraft_eq_ok hdraft
    exact .numeral hread hpassed hparts hheader ((hiff header b).mp h)
  · obtain ⟨draft', hdraft', hiff, -⟩ := draft_named c hnamed
    rw [hdraft'] at hdraft
    cases hdraft
    exact .name hread hnamed hheader ((hiff header).mp ⟨b, h⟩)
  · rw [hdraft] at hunbroken
    exact absurd h ((hunbroken.of_ok header).ne_broken b)

/-- A header that is refused comes of a text that is. -/
theorem breaks_of_header (hread : SourceQuestion.read c node position = .ok q) {draft : Draft}
    (hdraft : q.draft c = .ok draft) (hheader : ¬ ∃ header, q.header c = .ok header) :
    Breaks c node position := by
  by_cases hshown : ∃ p, q.shownText c = .ok p
  · obtain ⟨⟨text, format⟩, htext⟩ := hshown
    exact .shown hread hdraft htext fun hclean =>
      hheader (header_isOk_iff.mpr ⟨text, format, htext, hclean⟩)
  · rw [shownText_isOk_iff] at hshown
    push Not at hshown
    obtain ⟨t, ht, hrefused⟩ := hshown
    exact .content hread hdraft ht hrefused

/-- A header that does not come to be ends the run. -/
theorem finish_of_header {draft : Draft} (h : ¬ ∃ header, q.header c = .ok header) :
    ∃ b, q.finish c draft = .error (.broken b) := by
  unfold SourceQuestion.finish
  cases hheader : q.header c with
  | error b => exact ⟨b, rfl⟩
  | ok header => exact absurd ⟨header, hheader⟩ h

theorem finish_eq {draft : Draft} {header : Header} (h : q.header c = .ok header) :
    q.finish c draft = draft header := by
  rw [SourceQuestion.finish, h]

/-- A node that cannot be read has a text that is refused, or an infinite score. -/
theorem breaks_of_unread (h : ¬ ∃ q, SourceQuestion.read c node position = .ok q) :
    Breaks c node position := by
  rw [read_isOk_iff] at h
  by_cases htexts : ∀ t ∈ questionTexts c node, Cleanable c t
  · have hscores : ¬ ∀ o ∈ node.childrenNamed "OUTCOME", ¬ InfiniteScore o :=
      fun hscores => h ⟨htexts, hscores⟩
    push Not at hscores
    obtain ⟨outcome, ho, hinfinite⟩ := hscores
    exact .score ho hinfinite
  · push Not at htexts
    obtain ⟨t, ht, hrefused⟩ := htexts
    exact .part ht hrefused

theorem breaks_of_broken (hread : SourceQuestion.read c node position = .ok q) {b : Breach}
    (h : (convertOrKeep c q).2 = .error (.broken b)) : Breaks c node position := by
  rcases convertOrKeep_broken.mp h with hdraft | ⟨draft, hdraft, hfinish⟩
  · exact breaks_of_draft hread hdraft
  · by_cases hheader : ∃ header, q.header c = .ok header
    · obtain ⟨header, hheader⟩ := hheader
      rw [finish_eq hheader] at hfinish
      exact breaks_of_draft_header hread hdraft hheader hfinish
    · exact breaks_of_header hread hdraft hheader

/-- The run ends at a node that breaks. -/
theorem error_of_breaks {position : Nat} (h : Breaks c node position) :
    ∃ b, convertNode c node position = .error b := by
  have hfinished {q : SourceQuestion} {draft : Draft}
      (hread : SourceQuestion.read c node position = .ok q) (hdraft : q.draft c = .ok draft)
      (h : ∃ b, q.finish c draft = .error (.broken b)) :
      ∃ q, SourceQuestion.read c node position = .ok q ∧
        ∃ b, (convertOrKeep c q).2 = .error (.broken b) := by
    obtain ⟨b, h⟩ := h
    exact ⟨q, hread, b, convertOrKeep_broken.mpr (.inr ⟨draft, hdraft, h⟩)⟩
  rw [convertNode_error]
  cases h with
  | part ht hrefused =>
      exact .inl fun hread => hrefused ((read_isOk_iff.mp hread).1 _ ht)
  | score ho hinfinite =>
      exact .inl fun hread => (read_isOk_iff.mp hread).2 _ ho hinfinite
  | content hread hdraft ht hrefused =>
      refine .inr (hfinished hread hdraft (finish_of_header fun hheader => ?_))
      obtain ⟨text, format, htext, -⟩ := header_isOk_iff.mp hheader
      exact hrefused (shownText_isOk_iff.mp ⟨_, htext⟩ _ ht)
  | shown hread hdraft htext hrefused =>
      refine .inr (hfinished hread hdraft (finish_of_header fun hheader => ?_))
      obtain ⟨text', format', htext', hclean⟩ := header_isOk_iff.mp hheader
      rw [htext] at htext'
      cases htext'
      exact hrefused hclean
  | name hread hnamed hheader hrefused =>
      obtain ⟨draft, hdraft, hiff, -⟩ := draft_named c hnamed
      refine .inr (hfinished hread hdraft ?_)
      rw [finish_eq hheader]
      exact (hiff _).mpr hrefused
  | @weight q kind r b hread hpassed hlong =>
      refine .inr ⟨q, hread, b, convertOrKeep_broken.mpr (.inl ?_)⟩
      rw [draft_passed c hpassed]
      exact Traversal.map_eq_error_iff.mpr hlong
  | @numeral q kind r parts header b hread hpassed hparts hheader hlong =>
      obtain ⟨draft, hdraft⟩ : ∃ draft, multianswerDraft q kind r = .ok draft :=
        Traversal.map_isOk_iff.mpr ⟨parts, hparts⟩
      obtain ⟨parts', hparts', hiff⟩ := multianswerDraft_eq_ok hdraft
      rw [hparts] at hparts'
      cases hparts'
      refine .inr (hfinished hread ((draft_passed c hpassed).trans hdraft) ⟨b, ?_⟩)
      rw [finish_eq hheader]
      exact (hiff header b).mpr hlong

/-- **The run ends at a question node just when the node breaks.** -/
theorem convertNode_error_iff (c : Config) (node : Document.Node) (position : Nat) :
    (∃ b, convertNode c node position = .error b) ↔ Breaks c node position := by
  constructor
  · intro h
    rcases convertNode_error.mp h with hread | ⟨q, hread, b, hbroken⟩
    · exact breaks_of_unread hread
    · exact breaks_of_broken hread hbroken
  · exact error_of_breaks

/-! ## Questions that come of it -/

theorem regular_of_draft (c : Config) (hscores : ∀ o ∈ q.outcomes, InRange o.score) {draft : Draft}
    (hdraft : q.draft c = .ok draft) {header : Header} (h : draft header = .ok question) :
    question.Regular := by
  rcases draft_cases c hscores with ⟨kind, r, hpassed⟩ | hnamed | hunbroken
  · rw [draft_passed c hpassed] at hdraft
    obtain ⟨parts, -, rfl⟩ := Traversal.map_eq_ok_iff.mp hdraft
    obtain ⟨embedded, -, rfl⟩ := Traversal.map_eq_ok_iff.mp h
    exact ⟨nofun, nofun⟩
  · obtain ⟨draft', hdraft', -, hregular⟩ := draft_named c hnamed
    rw [hdraft'] at hdraft
    cases hdraft
    exact hregular header question h
  · rw [hdraft] at hunbroken
    have hfinished := hunbroken.of_ok header
    rw [h] at hfinished
    exact hfinished.of_ok

/-- No question is converted to a marker of a category. -/
theorem kind_ne_category (hread : SourceQuestion.read c node position = .ok q)
    (h : (convertOrKeep c q).2 = .ok question) : question.kind ≠ .category := by
  unfold convertOrKeep at h
  split at h
  · rw [← Except.ok.inj h]
    exact nofun
  · unfold SourceQuestion.convert at h
    split at h
    · cases h
    next draft hdraft =>
      unfold SourceQuestion.finish at h
      dsimp only at h
      split at h
      · cases h
      next header _ => exact (regular_of_draft c (inRange_of_read hread) hdraft h).1

end QuestionBank
