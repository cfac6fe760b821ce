import QuestionBank.Proofs.Conversion.Breach
import QuestionBank.Proofs.Conversion.Multianswer
import QuestionBank.Proofs.Question.Valid
import QuestionBank.Proofs.Scoring.Bounds

/-!
# Converted questions are valid

Whatever a question node holds, the question that it is converted to is sound: it has a
name, the answers that its kind needs, and numbers within bounds. So its record is valid,
unless a pair of a matching question is without an answer.
-/

namespace QuestionBank

open QuestionBank.Schema QuestionBank.Scoring QuestionBank.Text QuestionBank.Number
open QuestionBank.Cloze

variable {c : Config} {node : Document.Node} {position : Int} {q : SourceQuestion}
  {kind : Cloze.Kind} {r : MatchResult} {draft : Draft} {header : Header} {question : Question}

/-! ## Names -/

theorem deriveName_ne_empty (description plainText : String) {fallback : String}
    (h : fallback ≠ "") : deriveName description plainText fallback ≠ "" := by
  unfold deriveName
  split
  next hdescription => simpa using hdescription
  split
  · exact h
  split
  next hplain _ => simpa using hplain
  · simp

theorem fallbackName_ne_empty (q : SourceQuestion) : q.fallbackName ≠ "" := by
  unfold SourceQuestion.fallbackName
  split
  · simp
  next hid => simpa using hid

/-- Every header has a name. -/
theorem name_ne_empty (h : q.header c = .ok header) : header.name ≠ "" := by
  unfold SourceQuestion.header at h
  split at h
  · cases h
  · obtain ⟨plainText, -, rfl⟩ := Traversal.map_eq_ok_iff.mp h
    dsimp only
    exact deriveName_ne_empty q.description plainText (fallbackName_ne_empty q)

theorem shortHeader_name {header' : Header} (hname : header.name ≠ "")
    (h : shortHeader c q header = .ok header') : header'.name ≠ "" := by
  have hkept : (if q.content?.isNone then { header with text := q.fragmentsText }
      else header).name ≠ "" := by
    split <;> exact hname
  unfold shortHeader at h
  dsimp only at h
  split at h
  · obtain ⟨name, -, rfl⟩ := Traversal.map_eq_ok_iff.mp h
    dsimp only
    split
    · exact hkept
    next hne => simpa using hne
  · cases h
    exact hkept

/-! ## Drafts of single questions -/

/-- A draft gives sound questions only. -/
def SoundDraft (draft : Draft) : Prop :=
  ∀ header question, header.name ≠ "" → draft header = .ok question → question.Sound

theorem sound_multichoice (h : multichoiceDraft q = .ok draft) : SoundDraft draft := by
  unfold multichoiceDraft at h
  split at h
  · cases h
  next hchoices =>
    dsimp only at h
    split at h
    · cases h
    next shares hshares =>
      cases h
      obtain ⟨e, -, hfractions⟩ := Traversal.bind_eq_ok_iff.mp hshares
      obtain ⟨hlength, hbounds⟩ := fractions_inUnit hfractions
      intro header question hname hquestion
      cases hquestion
      refine ⟨hname, nofun, ?_, ?_⟩
      · have hpos : 0 < (q.choices.zip shares).length := by
          rw [List.length_zip, hlength, Nat.min_self, List.length_pos_iff]
          simpa using hchoices
        exact (not_congr List.map_eq_nil_iff).mpr (List.ne_nil_of_length_pos hpos)
      · intro a ha
        obtain ⟨⟨choice, x⟩, hx, rfl⟩ := List.mem_map.mp ha
        exact hbounds x (List.of_mem_zip hx).2

theorem sound_trueFalse (h : trueFalseDraft q = .ok draft) : SoundDraft draft := by
  unfold trueFalseDraft at h
  dsimp only at h
  split at h
  · cases h
  · split at h
    · cases h
      intro header question hname hquestion
      cases hquestion
      exact ⟨hname, nofun, trivial, trivial⟩
    · cases h

theorem sound_essay (hc : 1 ≤ c.fieldLines) : SoundDraft (essayDraft c q) := by
  intro header question hname hquestion
  cases hquestion
  exact ⟨hname, nofun, trivial, hc⟩

theorem sound_matching (h : matchingDraft q = .ok draft) : SoundDraft draft := by
  unfold matchingDraft at h
  split at h
  · cases h
  · split at h
    · cases h
    · dsimp only at h
      split at h
      · cases h
      next pairs hpairs =>
        cases h
        intro header question hname hquestion
        cases hquestion
        refine ⟨hname, nofun, ?_, trivial⟩
        exact List.append_ne_nil_of_left_ne_nil hpairs _

theorem inUnit_wrongAnswers (set : OutcomeSet) : ∀ a ∈ wrongAnswers set, a.fraction.InUnit := by
  unfold wrongAnswers
  split
  · intro a ha
    rw [List.mem_singleton.mp ha]
    exact inUnit_zero
  · exact List.forall_mem_nil _

/-- Blanks that are scored together give a sound body. -/
theorem sound_combined {set : OutcomeSet} (hset : aggregate (some q.id) q.outcomes = .ok set)
    (hmode : set.mode = .combined) (h : shortAnswerDraft c q = .ok draft) : SoundDraft draft := by
  have hsingle (rule : StemRule) (hrule : rule ∈ set.stems) :
      (singleBlank set rule).Filled ∧ (singleBlank set rule).InBounds := by
    constructor
    · have halternatives := aggregate_alternated hset rule hrule
      apply List.append_ne_nil_of_left_ne_nil
      simpa using halternatives
    · intro a ha
      rcases List.mem_append.mp ha with ha | ha
      · obtain ⟨alternative, -, rfl⟩ := List.mem_map.mp ha
        exact inUnit_one
      · exact inUnit_wrongAnswers set a ha
  simp only [shortAnswerDraft, hset, hmode] at h
  split at h
  · cases h
  next hperStem _ => cases hperStem
  next rule hone _ =>
    cases h
    intro header question hname hquestion
    obtain ⟨header', hheader, rfl⟩ := Traversal.map_eq_ok_iff.mp (orBreak_eq_ok.mp hquestion)
    obtain ⟨hfilled, hbounds⟩ := hsingle rule (by simp [hone])
    exact ⟨shortHeader_name hname hheader, by rintro ⟨⟩, hfilled, hbounds⟩
  next hnone hmany =>
    cases h
    intro header question hname hquestion
    obtain ⟨header', hheader, rfl⟩ := Traversal.map_eq_ok_iff.mp (orBreak_eq_ok.mp hquestion)
    have hname' : header'.name ≠ "" := shortHeader_name hname hheader
    refine ⟨hname', by rintro ⟨⟩, List.cons_ne_nil _ _, ?_, ?_⟩
    · exact List.forall_mem_cons.mpr ⟨inUnit_one, inUnit_wrongAnswers set⟩
    · exact one_lt_length hnone hmany

/-- Numbers for a single stem give a sound body. -/
theorem sound_numerical {set : OutcomeSet} {rule : StemRule}
    (hscores : ∀ o ∈ q.outcomes, InRange o.score)
    (hset : aggregate (some q.id) q.outcomes = .ok set) (hone : set.stems = [rule])
    (h : numericalDraft q = .ok draft) : SoundDraft draft := by
  have hrule : rule ∈ set.stems := by simp [hone]
  have hinRange := (inRange_of_drawnFrom hscores hset).2 rule hrule
  have halternatives := aggregate_alternated hset rule hrule
  simp only [numericalDraft, hset, hone] at h
  obtain ⟨⟨answers, ranged⟩, hanswers, rfl⟩ := Traversal.map_eq_ok_iff.mp h
  obtain ⟨hfilled, hbounds⟩ := numericAnswers_ok hinRange halternatives hanswers
  intro header question hname hquestion
  cases hquestion
  exact ⟨hname, (regular_numerical _ answers ranged).2, hfilled, hbounds⟩

/-! ## Embedded questions -/

/-- The answers of numeric stems name tolerances that are not negative. -/
def TolerantAnswers (kind : Cloze.Kind) (found : List Match) : Prop :=
  kind = .numerical → ∀ m ∈ found, ∃ v x, NumberText m.answer v x ∧ x.NotNegative

/-- A text names one tolerance at most. -/
theorem numberText_unique {s v v' : String} {x x' : Binary64} (h : NumberText s v x)
    (h' : NumberText s v' x') : x = x' := by
  obtain ⟨t, hwritten, hx⟩ := writtenNumber_numericText h
  obtain ⟨t', hwritten', hx'⟩ := writtenNumber_numericText h'
  have hparts := hwritten.numericParts?.symm.trans hwritten'.numericParts?
  rw [hx, hx'] at hparts
  exact (Prod.mk.inj (Option.some.inj hparts)).2

theorem credit_pos {found : List Match} (h : ∃ m ∈ found, 0 < m.score) : 0 < credit found := by
  obtain ⟨m, hm, hpos⟩ := h
  have hmem : m.score ∈ (found.filter fun m => 0 < m.score).map Match.score :=
    List.mem_map_of_mem (List.mem_filter.mpr ⟨hm, decide_eq_true hpos⟩)
  have hnonneg : ∀ score ∈ (found.filter fun m => 0 < m.score).map Match.score, 0 ≤ score := by
    intro score hscore
    obtain ⟨m', hm', rfl⟩ := List.mem_map.mp hscore
    exact (of_decide_eq_true (List.mem_filter.mp hm').2).le
  exact hpos.trans_le (List.single_le_sum hnonneg _ hmem)

/-- Matches in the order of their block are the same matches. -/
theorem mem_correctFirst {found : List Match} {m : Match} :
    (m ∈ (found.filter fun m => 0 < m.score) ++ found.filter fun m => ¬ 0 < m.score) ↔
      m ∈ found := by
  simp only [List.mem_append, List.mem_filter, decide_eq_true_eq, ← and_or_left, em, and_true]

/-- What the block of a stem stands for is sound. -/
theorem sound_of_encodes {found : List Match} {residual : List String} {residualFeedback : String}
    {sub : Subquestion} (h : Encodes kind found residual residualFeedback sub)
    (hcorrect : ∃ m ∈ found, 0 < m.score) (htolerant : TolerantAnswers kind found)
    (hposition : 1 ≤ sub.position) : sub.Sound := by
  obtain ⟨own, hown, hanswers⟩ := h.answers
  constructor
  · exact hposition
  · have hweight := credit_pos hcorrect
    rw [← h.weight_eq] at hweight
    exact Int.natCast_pos.mp hweight
  · obtain ⟨m, hm, -⟩ := hcorrect
    obtain ⟨a, ha, -⟩ := Traversal.exists_of_mem_left hown (mem_correctFirst.mpr hm)
    rw [hanswers]
    exact List.append_ne_nil_of_left_ne_nil (List.ne_nil_of_mem ha) _
  · intro a ha x hx
    rw [hanswers] at ha
    -- A tolerance is named by a match; answers for residual texts have none.
    rcases List.mem_append.mp ha with ha | ha
    · obtain ⟨m, hm, hof⟩ := Traversal.exists_of_mem_left hown.flip ha
      by_cases hkind : kind = .numerical
      · obtain ⟨x', htext, hx'⟩ := hof.number hkind
        rw [hx'] at hx
        cases hx
        obtain ⟨v, y, htext', hy⟩ := htolerant hkind m (mem_correctFirst.mp hm)
        rw [numberText_unique htext htext']
        exact hy
      · rw [(hof.text hkind).2] at hx
        cases hx
    · split at ha
      · cases ha
      · obtain ⟨s, -, rfl⟩ := List.mem_map.mp ha
        cases hx

theorem tolerantAnswers_of_passed (hscores : ∀ o ∈ q.outcomes, InRange o.score)
    (h : Passed q kind r) : TolerantAnswers kind r.found := by
  intro hkind m hm
  cases h with
  | selection => cases hkind
  | shortAnswer => cases hkind
  | @numerical set found _ hset _ hfound =>
      obtain ⟨ms, hms, hm⟩ := List.mem_flatten.mp hm
      obtain ⟨rule, hrule, hmatches⟩ := Traversal.exists_of_mem_mapM hfound hms
      obtain ⟨answers, ranged, hanswers, hpairs⟩ := numericMatches_eq_ok hmatches
      obtain ⟨a, ha, hmatch⟩ := Traversal.exists_of_mem_left hpairs.flip hm
      obtain ⟨score, -, rfl⟩ := Traversal.map_eq_ok_iff.mp hmatch
      have hbounds := (numericAnswers_ok ((inRange_of_drawnFrom hscores hset).2 rule hrule)
        (aggregate_alternated hset rule hrule) hanswers).2 a ha
      obtain ⟨x, hx⟩ := Option.isSome_iff_exists.mp (readBinary64?_formatNumber a.tolerance)
      exact ⟨_, x, .tolerance (readBinary64?_formatNumber a.value) hx,
        notNegative_formatNumber hbounds.2 hx⟩

/-- Where there are matches, there are stems. -/
theorem embeddedStems_ne_nil_of_found (h : r.found ≠ []) : embeddedStems q kind r ≠ [] := by
  obtain ⟨m, hm⟩ := List.exists_mem_of_ne_nil _ h
  have hstem : m.stem ∈ r.stemIds := by
    apply mem_stemIds_iff.mpr
    apply List.ne_nil_of_mem (a := m)
    exact List.mem_filter.mpr ⟨hm, beq_self_eq_true _⟩
  by_cases hkey : m.stem ∈ q.choices.map Choice.key
  · obtain ⟨choice, hchoice, -⟩ := List.mem_map.mp hkey
    exact List.ne_nil_of_mem (List.mem_append_left _ (List.mem_map_of_mem hchoice))
  · have hloose : m.stem ∈ looseStems q r := List.mem_filter.mpr ⟨hstem, by simpa using hkey⟩
    exact List.ne_nil_of_mem (List.mem_append_right _ (List.mem_map_of_mem hloose))

/-- What is passed on has a stem at least. -/
theorem embeddedStems_ne_nil (hscores : ∀ o ∈ q.outcomes, InRange o.score)
    (h : Passed q kind r) : embeddedStems q kind r ≠ [] := by
  cases h with
  | selection _ hchoices _ =>
      apply List.append_ne_nil_of_left_ne_nil
      simpa using hchoices
  | @shortAnswer set _ hset hstems _ =>
      apply embeddedStems_ne_nil_of_found
      obtain ⟨rule, hrule⟩ := List.exists_mem_of_ne_nil _ hstems
      obtain ⟨a, ha⟩ := List.exists_mem_of_ne_nil _ (aggregate_alternated hset rule hrule)
      exact List.ne_nil_of_mem (List.mem_flatMap.mpr ⟨rule, hrule, List.mem_map_of_mem ha⟩)
  | @numerical set found _ hset hstems hfound =>
      apply embeddedStems_ne_nil_of_found
      obtain ⟨rule, hrule⟩ := List.exists_mem_of_length_pos (Nat.zero_lt_of_lt hstems)
      rw [Traversal.mapM_eq_ok_iff] at hfound
      obtain ⟨ms, hms, hmatches⟩ := Traversal.exists_of_mem_left hfound hrule
      obtain ⟨answers, ranged, hanswers, hpairs⟩ := numericMatches_eq_ok hmatches
      have hne := (numericAnswers_ok ((inRange_of_drawnFrom hscores hset).2 rule hrule)
        (aggregate_alternated hset rule hrule) hanswers).1
      obtain ⟨a, ha⟩ := List.exists_mem_of_ne_nil _ hne
      obtain ⟨m, hm, -⟩ := Traversal.exists_of_mem_left hpairs ha
      exact List.ne_nil_of_mem (List.mem_flatten.mpr ⟨ms, hms, hm⟩)

theorem mem_found_of_mem_embeddedStems {stem : EmbeddedStem}
    (hstem : stem ∈ embeddedStems q kind r) {m : Match} (hm : m ∈ stem.found) : m ∈ r.found := by
  rcases List.mem_append.mp hstem with hstem | hstem
  · obtain ⟨choice, -, rfl⟩ := List.mem_map.mp hstem
    exact (List.mem_filter.mp hm).1
  · obtain ⟨id, -, rfl⟩ := List.mem_map.mp hstem
    exact (List.mem_filter.mp hm).1

/-- A question that is put together from answered stems is in bounds. -/
theorem inBounds_of_assembled {residualFeedback : String} {stems : List EmbeddedStem}
    (hne : stems ≠ [])
    (hstems : ∀ stem ∈ stems, stem.Answered ∧ TolerantAnswers kind stem.found)
    (h : Assembled kind residualFeedback stems question) : question.body.InBounds := by
  obtain ⟨-, embedded, hbody, -, -, -, -, hencodes, hpositions⟩ := h.parts
  rw [hbody]
  constructor
  · intro hnil
    rw [hnil] at hencodes
    exact hne (List.forall₂_nil_right_iff.mp hencodes)
  · intro sub hsub
    obtain ⟨stem, hstem, hsound⟩ := Traversal.exists_of_mem_left hencodes.flip hsub
    obtain ⟨hanswered, htolerant⟩ := hstems stem hstem
    have hposition : sub.position ∈ List.range' 1 stems.length :=
      hpositions ▸ List.mem_map_of_mem hsub
    exact sound_of_encodes hsound hanswered htolerant (List.mem_range'_1.mp hposition).1

/-- Questions with embedded answers are sound. -/
theorem sound_of_passed (hread : SourceQuestion.read c node position = .ok q)
    (hpassed : Passed q kind r) (hname : header.name ≠ "") (htext : Quiet header.text.toList)
    (hsegments : ∀ segment ∈ q.segments, Quiet segment.text.toList)
    (hdraft : multianswerDraft q kind r = .ok draft) (h : draft header = .ok question) :
    question.Sound := by
  have hscores := inRange_of_read hread
  -- The text of the question and the blocks of its stems are read back together: since the text
  -- holds no beginning of a block, what is read are the stems and nothing else.
  obtain ⟨parts, hparts, rfl⟩ := Traversal.map_eq_ok_iff.mp hdraft
  obtain ⟨embedded, hextract, rfl⟩ := Traversal.map_eq_ok_iff.mp h
  obtain ⟨hwoven, hstems⟩ := encodeAnswer_eq_ok (coherent_of_read hread) hparts hsegments
  have hjoined := woven_joinStripped (.cons htext.woven (.cons hwoven .nil))
  rw [List.flatten_cons, List.flatten_singleton, List.nil_append] at hjoined
  have hnumber := numberAnswers_of_passed hpassed
  obtain ⟨embedded', hextract', hassembled⟩ := extract_woven
    (fun stem hstem => ⟨hstems stem hstem, numberAnswers_of_mem_embeddedStems hnumber hstem⟩)
    hjoined header
  obtain rfl := Except.ok.inj (hextract.symm.trans hextract')
  have htolerant := tolerantAnswers_of_passed hscores hpassed
  have hbounds := inBounds_of_assembled (embeddedStems_ne_nil hscores hpassed)
    (fun stem hstem => ⟨(hstems stem hstem).1, fun hkind m hm =>
      htolerant hkind m (mem_found_of_mem_embeddedStems hstem hm)⟩) hassembled
  exact ⟨hname, nofun, trivial, hbounds⟩

/-! ## All kinds -/

theorem shortAnswerDraft_sound (hkind : q.kind = .shortAnswer)
    (h : shortAnswerDraft c q = .ok draft) : (∃ r, Passed q .shortAnswer r) ∨ SoundDraft draft := by
  cases hset : aggregate (some q.id) q.outcomes with
  | error e =>
      rw [shortAnswerDraft, hset] at h
      cases h
  | ok set =>
      cases hmode : set.mode with
      | combined => exact .inr (sound_combined hset hmode h)
      | perStem =>
          refine .inl ⟨_, .shortAnswer hkind hset ?_ hmode⟩
          intro hnil
          simp [shortAnswerDraft, hset, hnil] at h

theorem numericalDraft_sound (hscores : ∀ o ∈ q.outcomes, InRange o.score)
    (hkind : q.kind = .numerical) (h : numericalDraft q = .ok draft) :
    (∃ r, Passed q .numerical r) ∨ SoundDraft draft := by
  have hdraft := h
  unfold numericalDraft at h
  split at h
  · cases h
  next set hset =>
    split at h
    · cases h
    next rule hone => exact .inr (sound_numerical hscores hset hone hdraft)
    next hnone hmany =>
      split at h
      · cases h
      next found hfound =>
        exact .inl ⟨_, .numerical hkind hset (one_lt_length hnone hmany) hfound⟩

theorem selectionDraft_passed (hkind : q.kind = .selection) (h : selectionDraft q = .ok draft) :
    ∃ r, Passed q .multichoice r := by
  unfold selectionDraft at h
  split at h
  · cases h
  next hchoices =>
    split at h
    · cases h
    next set hset => exact ⟨_, .selection hkind (by simpa using hchoices) hset⟩

/-- A draft gives sound questions only, unless matches are passed on to be embedded. -/
theorem draft_sound (hc : 1 ≤ c.fieldLines) (hscores : ∀ o ∈ q.outcomes, InRange o.score)
    (h : q.draft c = .ok draft) : (∃ kind r, Passed q kind r) ∨ SoundDraft draft := by
  unfold SourceQuestion.draft at h
  split at h
  next => exact .inr (sound_multichoice h)
  next => exact .inr (sound_trueFalse h)
  next hkind => exact (shortAnswerDraft_sound hkind h).imp_left fun hpassed => ⟨_, hpassed⟩
  next hkind => exact (numericalDraft_sound hscores hkind h).imp_left fun hpassed => ⟨_, hpassed⟩
  next =>
    cases h
    exact .inr (sound_essay hc)
  next => exact .inr (sound_matching h)
  next hkind => exact .inl ⟨_, selectionDraft_passed hkind h⟩
  next => cases h

/-- **Every converted question is sound.** -/
theorem sound_of_convert (hc : 1 ≤ c.fieldLines)
    (hread : SourceQuestion.read c node position = .ok q)
    (htext : ∀ header, q.header c = .ok header → Quiet header.text.toList)
    (hsegments : ∀ segment ∈ q.segments, Quiet segment.text.toList)
    (h : (q.convert c).2 = .ok question) : question.Sound := by
  obtain ⟨draft, header, hdraft, hheader, hquestion⟩ := convert_eq_ok h
  have hname := name_ne_empty hheader
  rcases draft_sound hc (inRange_of_read hread) hdraft with ⟨kind, r, hpassed⟩ | hsound
  · -- Whatever its kind was, its draft is the one for embedded answers.
    rw [draft_passed c hpassed] at hdraft
    exact sound_of_passed hread hpassed hname (htext header hheader) hsegments hdraft hquestion
  · exact hsound header question hname hquestion

theorem fieldLines_of_checked (h : c.checked = .ok c) : 1 ≤ c.fieldLines := by
  unfold Config.checked at h
  split at h
  · cases h
  split at h
  · cases h
  split at h
  · cases h
  next hlines => omega

/-- **The record of a converted question is valid, but for pairs without an answer.** In texts
that hold no beginning of a block, a strict check accepts the record unless a pair of a matching
question is without an answer, and then it does not. -/
theorem converted_valid (hc : c.checked = .ok c)
    (hread : SourceQuestion.read c node position = .ok q)
    (htext : ∀ header, q.header c = .ok header → Quiet header.text.toList)
    (hsegments : ∀ segment ∈ q.segments, Quiet segment.text.toList)
    (h : (q.convert c).2 = .ok question) :
    (validate true question.toRecord.toJson = .ok () ↔ ¬ question.HasEmptyAnswer) ∧
      ((∃ violation, validate true question.toRecord.toJson = .error (.invalid violation)) ↔
        question.HasEmptyAnswer) := by
  have hsound := sound_of_convert (fieldLines_of_checked hc) hread htext hsegments h
  obtain ⟨haccepted, hrefused⟩ := validate_toRecord_iff question
  constructor
  · exact haccepted.trans (and_iff_right hsound)
  · rw [hrefused, not_and, not_not]
    exact ⟨fun hanswer => hanswer hsound, fun hanswer _ => hanswer⟩

/-! ## A range and an empty option -/

/-- A question whose answer lies between one and two. -/
def rangeNode : Document.Node :=
  { name := "QUESTION"
    attributes := [("ID", "8"), ("DESCRIPTION", "Between")]
    children := [
      { name := "ANSWER", attributes := [("QTYPE", "NUM")], children := [{ name := "CHOICE" }] },
      { name := "OUTCOME"
        attributes := [("ID", "right"), ("SCORE", "1")]
        children := [{ name := "CONDITION", text := "\"0\" >= \"1\" AND \"0\" <= \"2\"" }] }] }

/-- The question that is read from it. -/
def rangeQuestion : SourceQuestion :=
  { node := rangeNode
    position := 1
    tag := "NUM"
    outcomes := [⟨"right", 1, "\"0\" >= \"1\" AND \"0\" <= \"2\"", ""⟩]
    choices := [⟨0, "", []⟩]
    segments := [.blank ⟨0, "", []⟩] }

/-- A matching question with an empty option. -/
def emptyOptionNode : Document.Node :=
  { name := "QUESTION"
    attributes := [("ID", "9")]
    children := [
      { name := "ANSWER"
        attributes := [("QTYPE", "MATCH")]
        children := [
          { name := "CHOICE"
            children := [
              { name := "CONTENT", text := "left" },
              { name := "OPTION", text := "right" },
              { name := "OPTION" }] }] },
      { name := "OUTCOME"
        attributes := [("ID", "1"), ("SCORE", "1")]
        children := [{ name := "CONDITION", text := "\"0\" MATCHES \"right\"" }] }] }

/-- The question that is read from it. -/
def emptyOptionQuestion : SourceQuestion :=
  { node := emptyOptionNode
    position := 1
    tag := "MATCH"
    outcomes := [⟨"1", 1, "\"0\" MATCHES \"right\"", ""⟩]
    choices := [⟨0, "left", ["right", ""]⟩]
    segments := [.blank ⟨0, "left", ["right", ""]⟩] }

theorem read_rangeNode : SourceQuestion.read blanksConfig rangeNode 1 = .ok rangeQuestion :=
  read_eq_ok rangeQuestion (by decide +kernel) (by decide +kernel) (by decide +kernel) rfl

theorem read_emptyOptionNode :
    SourceQuestion.read blanksConfig emptyOptionNode 1 = .ok emptyOptionQuestion :=
  read_eq_ok emptyOptionQuestion (by decide +kernel) (by decide +kernel) (by decide +kernel) rfl

/-- The record of the range is valid. The empty option is left over, so that it is a pair
without an answer, and its record is not. -/
theorem converted_valid_range_emptyOption :
    (∃ question, (rangeQuestion.convert blanksConfig).2 = .ok question ∧
      validate true question.toRecord.toJson = .ok ()) ∧
    ∃ question, (emptyOptionQuestion.convert blanksConfig).2 = .ok question ∧
      ∃ violation, validate true question.toRecord.toJson = .error (.invalid violation) := by
  have hchecked : blanksConfig.checked = .ok blanksConfig := by decide +kernel
  have hrange : (rangeQuestion.convert blanksConfig).2 =
      .ok ⟨⟨"Between", "_____", .html, "", "8"⟩,
        .numerical [⟨.finite false 1023 (1 <<< 51), .finite false 1022 0, .one, ""⟩] true⟩ := by
    decide +kernel
  have hpairs : (emptyOptionQuestion.convert blanksConfig).2 =
      .ok ⟨⟨"9", "", .html, "", "9"⟩,
        .matching [⟨"left", "right"⟩, ⟨"", ""⟩] false "Correct" "Incorrect"⟩ := by
    decide +kernel
  have hrangeHeader : rangeQuestion.header blanksConfig =
      .ok ⟨"Between", "Between", .html, "", "8"⟩ := by decide +kernel
  have hpairsHeader : emptyOptionQuestion.header blanksConfig = .ok ⟨"9", "", .html, "", "9"⟩ := by
    decide +kernel
  constructor
  · refine ⟨_, hrange, (converted_valid hchecked read_rangeNode ?_ (by decide +kernel) hrange).1.mpr
      nofun⟩
    intro header hheader
    cases hrangeHeader.symm.trans hheader
    decide +kernel
  · refine ⟨_, hpairs, (converted_valid hchecked read_emptyOptionNode ?_ (by decide +kernel)
      hpairs).2.mpr ⟨⟨"", ""⟩, by simp, rfl⟩⟩
    intro header hheader
    cases hpairsHeader.symm.trans hheader
    decide +kernel

end QuestionBank
