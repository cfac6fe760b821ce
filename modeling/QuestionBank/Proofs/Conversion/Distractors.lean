import QuestionBank.Proofs.Conversion.Multianswer
import QuestionBank.Proofs.Text.Strip

/-!
# Which options are offered as wrong

The block of a pull-down list offers the matches of its stem, and as wrong ones its own options and
those that are left over in the question. Its own options are left out if they are written like
a match, letter case left aside. But a match takes every option of the same words, whatever blanks
are between them. So an option is offered as wrong though it is a correct match just when it is
written in another way than all matches; none is where the matches are written with single
spaces and the options are cleaned as plain text.
-/

namespace QuestionBank

open QuestionBank.Scoring QuestionBank.Text QuestionBank.Cloze

/-! ## Options that are taken -/

/-- A match takes a text of the same words, in the same letter case if that counts. -/
def Scoring.Match.Takes (m : Match) (s : String) : Prop :=
  normalized m.caseSensitive m.answer = normalized m.caseSensitive s

instance (m : Match) (s : String) : Decidable (m.Takes s) := inferInstanceAs (Decidable (_ = _))

theorem Scoring.Match.consumes_iff {m : Match} {choice : Choice} :
    m.consumes choice = true ↔ m.Takes choice.content := beq_iff_eq

/-- What is left over is what no match takes. -/
theorem mem_residualTexts_iff {set : OutcomeSet} {pool : List Choice} {s : String} :
    s ∈ (synthesizeMatches set pool).residualTexts ↔
      s ∈ pool.map Choice.content ∧ ∀ m ∈ (synthesizeMatches set pool).found, ¬ m.Takes s := by
  have hleft (choice : Choice) :
      (!(synthesizeMatches set pool).found.any (·.consumes choice)) = true ↔
        ∀ m ∈ (synthesizeMatches set pool).found, ¬ m.Takes choice.content := by
    rw [Bool.not_eq_true', List.any_eq_false]
    simp only [Match.consumes_iff]
  constructor
  · intro hs
    obtain ⟨choice, hchoice, rfl⟩ := List.mem_map.mp hs
    obtain ⟨hmem, hnone⟩ := List.mem_filter.mp hchoice
    exact ⟨List.mem_map_of_mem hmem, (hleft choice).mp hnone⟩
  · rintro ⟨hs, hnone⟩
    obtain ⟨choice, hmem, rfl⟩ := List.mem_map.mp hs
    exact List.mem_map_of_mem (List.mem_filter.mpr ⟨hmem, (hleft choice).mpr hnone⟩)

/-- Two texts are of the same words, letter case left aside. -/
def Alike (s t : String) : Prop := fold (squeeze s) = fold (squeeze t)

instance (s t : String) : Decidable (Alike s t) := inferInstanceAs (Decidable (_ = _))

/-- A match takes only texts of its own words. -/
theorem Scoring.Match.Takes.alike {m : Match} {s : String} (h : m.Takes s) : Alike m.answer s := by
  unfold Match.Takes normalized at h
  unfold Alike
  split at h
  · rw [h]
  · exact h

/-- A match of a text that is written with single spaces is written like it, letter case left
aside, if it has single spaces too. -/
theorem Scoring.Match.Takes.fold_eq {m : Match} {s : String} (h : m.Takes s)
    (hm : squeeze m.answer = m.answer) (hs : squeeze s = s) : fold m.answer = fold s := by
  have halike := h.alike
  rwa [Alike, hm, hs] at halike

/-! ## Options that are offered -/

/-- The first text that is not empty of those that are written alike, letter case left aside. -/
def Leads (own : List String) (s : String) : Prop :=
  own.find? (fun t => !t.isEmpty && fold t == fold s) = some s

instance (own : List String) (s : String) : Decidable (Leads own s) :=
  inferInstanceAs (Decidable (_ = _))

/-- Of the texts that are written alike, the first one is kept, unless it is claimed. -/
theorem mem_unclaimed_iff {taken l : List String} {s : String} :
    s ∈ unclaimed taken l ↔ fold s ∉ taken ∧ Leads l s := by
  unfold Leads
  induction l generalizing taken with
  | nil => simp [unclaimed]
  | cons t l ih =>
      rw [unclaimed, List.find?_cons]
      by_cases halike : fold t = fold s
      · cases hempty : t.isEmpty with
        | true => simp [ih]
        | false =>
            by_cases htaken : fold s ∈ taken
            · simp [ih, halike, htaken]
            · simp [ih, halike, htaken, eq_comm]
      · have hne : s ≠ t := fun h => halike (congrArg fold h.symm)
        have hbeq : (fold t == fold s) = false := beq_false_of_ne halike
        split
        · simp [ih, hbeq]
        · simp [ih, hbeq, hne, Ne.symm halike]

theorem Leads.mem {own : List String} {s : String} (h : Leads own s) : s ∈ own :=
  List.mem_of_find?_eq_some h

/-- The own options that are offered lead those that are written alike, and are written like no
match. -/
theorem mem_distractors_own_iff {own residual : List String} {found : List Match} {s : String} :
    s ∈ distractors own found residual ∧ s ∈ own ↔
      Leads own s ∧ ∀ m ∈ found, fold m.answer ≠ fold s := by
  have hclaimed : fold s ∉ (found.map fun m => fold m.answer) ↔
      ∀ m ∈ found, fold m.answer ≠ fold s := by simp
  rw [distractors, mem_unclaimed_iff, hclaimed]
  unfold Leads
  rw [List.find?_append]
  constructor
  · rintro ⟨⟨hfound, hleads⟩, hs⟩
    refine ⟨?_, hfound⟩
    cases hown : own.find? (fun t => !t.isEmpty && fold t == fold s) with
    | some t => rwa [hown, Option.some_or] at hleads
    | none =>
      -- the text is not empty, so its own place among the options is found
      have hs' := List.find?_eq_none.mp hown s hs
      rw [hown, Option.none_or] at hleads
      exact absurd (List.find?_some hleads) hs'
  · rintro ⟨hleads, hfound⟩
    exact ⟨⟨hfound, by rw [hleads, Option.some_or]⟩, List.mem_of_find?_eq_some hleads⟩

namespace EmbeddedStem

/-- No option of a list that is offered as wrong is taken by a correct match. -/
def Fair (stem : EmbeddedStem) (own : List String) : Prop :=
  ∀ s ∈ stem.distractors, s ∈ own → ∀ m ∈ stem.found, m.isCorrect = true → ¬ m.Takes s

/-- If a correct match takes an option, a match is written like the option. -/
def Recognizes (stem : EmbeddedStem) (own : List String) : Prop :=
  ∀ s, Leads own s → (∃ m ∈ stem.found, m.isCorrect = true ∧ m.Takes s) →
    ∃ m ∈ stem.found, fold m.answer = fold s

end EmbeddedStem

variable {c : Config} {node : Document.Node} {position : Int} {q : SourceQuestion}
  {question : Question} {kind : Cloze.Kind} {r : MatchResult} {choice : Choice}

/-- The own options are offered fairly just when those that are taken are written like matches. -/
theorem fair_blankStem_iff :
    (blankStem kind r choice).Fair choice.options ↔
      (blankStem kind r choice).Recognizes choice.options := by
  constructor
  · rintro hfair s hleads ⟨m, hm, hcorrect, htakes⟩
    by_contra hnone
    have hfound : ∀ m ∈ r.matchesFor choice.key, fold m.answer ≠ fold s :=
      fun m hm halike => hnone ⟨m, hm, halike⟩
    obtain ⟨hoffered, hown⟩ := mem_distractors_own_iff.mpr ⟨hleads, hfound⟩
    exact hfair s hoffered hown m hm hcorrect htakes
  · intro hrecognizes s hoffered hown m hm hcorrect htakes
    obtain ⟨hleads, hfound⟩ := mem_distractors_own_iff.mp ⟨hoffered, hown⟩
    obtain ⟨m', hm', halike⟩ := hrecognizes s hleads ⟨m, hm, hcorrect, htakes⟩
    exact hfound m' hm' halike

/-- Options and correct matches that are written with single spaces are offered fairly. -/
theorem fair_blankStem_of_squeezed (hown : ∀ s ∈ choice.options, squeeze s = s)
    (hfound : ∀ m ∈ (blankStem kind r choice).found, m.isCorrect = true →
      squeeze m.answer = m.answer) :
    (blankStem kind r choice).Fair choice.options := by
  rw [fair_blankStem_iff]
  rintro s hleads ⟨m, hm, hcorrect, htakes⟩
  exact ⟨m, hm, htakes.fold_eq (hfound m hm hcorrect) (hown s hleads.mem)⟩

/-! ## Options that are cleaned as plain text -/

theorem squeeze_of_plain (hprofile : c.answerProfile = .plain) {raw s : String}
    (h : c.plain raw = .ok s) : squeeze s = s := by
  obtain ⟨cleaned, hcleaned, rfl⟩ := Traversal.map_eq_ok_iff.mp h
  rw [Config.clean, hprofile] at hcleaned
  obtain ⟨ts, -, rfl⟩ := Traversal.map_eq_ok_iff.mp hcleaned
  rw [strip_squeeze, squeeze_squeeze]

/-- The options of a question are written with single spaces if they are cleaned as plain text. -/
theorem squeeze_option_of_read (hread : SourceQuestion.read c node position = .ok q)
    (hprofile : c.answerProfile = .plain) (hchoice : choice ∈ q.choices) :
    ∀ s ∈ choice.options, squeeze s = s := by
  obtain ⟨index, node, hnode⟩ := exists_readChoice_of_read hread choice hchoice
  unfold readChoice at hnode
  dsimp only at hnode
  split at hnode
  · cases hnode
  · obtain ⟨options, hoptions, rfl⟩ := Traversal.map_eq_ok_iff.mp hnode
    intro s hs
    obtain ⟨option, -, hoption⟩ := Traversal.exists_of_mem_mapM hoptions hs
    exact squeeze_of_plain hprofile hoption

/-! ## The blocks of a converted question -/

/-- The stem of a pull-down list. -/
def SourceQuestion.listStem (q : SourceQuestion) (set : OutcomeSet) (choice : Choice) :
    EmbeddedStem :=
  blankStem .multichoice (synthesizeMatches set q.optionPool) choice

/-- What is offered as wrong and is no own option is taken by no match. -/
theorem not_takes_of_mem_distractors {set : OutcomeSet} {s : String}
    (hoffered : s ∈ (q.listStem set choice).distractors) (hown : s ∉ choice.options) :
    ∀ m ∈ (q.listStem set choice).found, ¬ m.Takes s := by
  intro m hm
  have hleads := (mem_unclaimed_iff.mp hoffered).2
  have hresidual := (List.mem_append.mp hleads.mem).resolve_left hown
  exact (mem_residualTexts_iff.mp hresidual).2 m (List.mem_filter.mp hm).1

/-- The text of a converted question with pull-down lists ends with its written answer. -/
theorem selection_of_convert (hkind : q.kind = .selection) (h : (q.convert c).2 = .ok question) :
    ∃ set header parts, aggregate (some q.id) q.outcomes = .ok set ∧ q.header c = .ok header ∧
      encodeAnswer q .multichoice (synthesizeMatches set q.optionPool) = .ok parts ∧
      question.header.text = joinStripped [header.text, joinStripped parts] := by
  obtain ⟨draft, header, hdraft, hheader, hquestion⟩ := convert_eq_ok h
  rw [SourceQuestion.draft, hkind] at hdraft
  dsimp only at hdraft
  unfold selectionDraft at hdraft
  split at hdraft
  · cases hdraft
  split at hdraft
  · cases hdraft
  next set hset =>
    obtain ⟨parts, hparts, rfl⟩ := Traversal.map_eq_ok_iff.mp hdraft
    obtain ⟨embedded, -, rfl⟩ := Traversal.map_eq_ok_iff.mp hquestion
    refine ⟨set, header, parts, hset, hheader, hparts, ?_⟩
    dsimp only

/-- **Which correct options are offered as wrong.** The text of a converted question with pull-down
lists holds for each of them a block with the matches of its stem and what is offered as wrong.
Of the options of the list itself, no correct one is offered as wrong just when each leading
option that a correct match takes is written like a match, letter case left aside; so where the
options are cleaned as plain text, it is enough that the correct matches are written with single
spaces. No option of the other lists is offered as wrong that any match of the stem takes. -/
theorem convert_selection_offered (hread : SourceQuestion.read c node position = .ok q)
    (hkind : q.kind = .selection) (h : (q.convert c).2 = .ok question) :
    ∃ set header parts loose,
      aggregate (some q.id) q.outcomes = .ok set ∧ q.header c = .ok header ∧
      question.header.text = joinStripped [header.text, joinStripped (parts ++ loose)] ∧
      List.Forall₂ (fun segment part => ∀ choice ∈ segment.choice?,
        encodeStem choice.content .multichoice (q.listStem set choice).found
            (q.listStem set choice).distractors set.catchAllFeedback = .ok part ∧
          ((q.listStem set choice).Fair choice.options ↔
            (q.listStem set choice).Recognizes choice.options) ∧
          (c.answerProfile = .plain →
            (∀ m ∈ (q.listStem set choice).found, m.isCorrect = true →
              squeeze m.answer = m.answer) →
            (q.listStem set choice).Fair choice.options) ∧
          ∀ s ∈ (q.listStem set choice).distractors, s ∉ choice.options →
            ∀ m ∈ (q.listStem set choice).found, ¬ m.Takes s)
        q.segments parts := by
  obtain ⟨set, header, parts, hset, hheader, hparts, htext⟩ := selection_of_convert hkind h
  obtain ⟨placed, loose, rfl, hplaced, -⟩ := parts_of_encodeAnswer hparts
  refine ⟨set, header, placed, loose, hset, hheader, htext, ?_⟩
  have hsegments := (List.forall₂_and_left _ _).mpr ⟨fun _ hsegment => hsegment, hplaced⟩
  refine hsegments.imp ?_
  rintro segment part ⟨hsegment, hpart⟩ choice hchoice
  have hmem : choice ∈ q.choices := by
    rw [coherent_of_read hread]
    exact List.mem_filterMap.mpr ⟨segment, hsegment, hchoice⟩
  obtain rfl : segment = .blank choice := by
    cases segment with
    | fragment text => cases hchoice
    | blank choice' => exact congrArg _ (Option.some.inj hchoice)
  refine ⟨encodeStem_of_encodeSegment hpart, fair_blankStem_iff, ?_,
    fun s => not_takes_of_mem_distractors⟩
  intro hprofile hfound
  exact fair_blankStem_of_squeezed (squeeze_option_of_read hread hprofile hmem) hfound

/-! ## A city in two spellings -/

/-- Two pull-down lists; the match of the second one has two spaces in the name of a city. -/
def citiesNode : Document.Node :=
  { name := "QUESTION"
    attributes := [("ID", "1"), ("DESCRIPTION", "Cities")]
    children := [
      { name := "ANSWER"
        attributes := [("QTYPE", "SEL")]
        children := [
          { name := "CHOICE"
            children := [{ name := "OPTION", text := "La Paz" },
              { name := "OPTION", text := "Oslo" }] },
          { name := "CHOICE"
            children := [{ name := "OPTION", text := "La Paz" }] }] },
      { name := "OUTCOME"
        attributes := [("ID", "0 Oslo"), ("SCORE", "1")]
        children := [{ name := "CONDITION", text := "\"0\" MATCHES \"Oslo\"" }] },
      { name := "OUTCOME"
        attributes := [("ID", "1 La Paz"), ("SCORE", "1")]
        children := [{ name := "CONDITION", text := "\"1\" MATCHES \"La  Paz\"" }] }] }

/-- The question that is read from it. -/
def citiesQuestion : SourceQuestion :=
  { node := citiesNode
    position := 1
    tag := "SEL"
    outcomes := [⟨"0 Oslo", 1, "\"0\" MATCHES \"Oslo\"", ""⟩,
      ⟨"1 La Paz", 1, "\"1\" MATCHES \"La  Paz\"", ""⟩]
    choices := [⟨0, "", ["La Paz", "Oslo"]⟩, ⟨1, "", ["La Paz"]⟩]
    segments := [.blank ⟨0, "", ["La Paz", "Oslo"]⟩, .blank ⟨1, "", ["La Paz"]⟩] }

/-- What its outcomes accept. -/
def citiesOutcomes : OutcomeSet :=
  { mode := .perStem
    stems := [
      ⟨"0", [⟨⟨"0", .matching, "Oslo", false, true⟩, citiesQuestion.outcomes[0]⟩]⟩,
      ⟨"1", [⟨⟨"1", .matching, "La  Paz", false, true⟩, citiesQuestion.outcomes[1]⟩]⟩]
    right := none
    catchAll := none
    general := none }

/-- What it is converted to. -/
def citiesConverted : Question :=
  ⟨⟨"Cities", "Cities \x7b1:MULTICHOICE:~=Oslo~La Paz\x7d " ++
      "\x7b1:MULTICHOICE:~=La  Paz~La Paz\x7d", .html, "", "1"⟩,
    .multianswer ⟨"Cities \x7b#1\x7d \x7b#2\x7d", [
      ⟨1, .multichoice, 1, [⟨"Oslo", true, "", none⟩, ⟨"La Paz", false, "", none⟩]⟩,
      ⟨2, .multichoice, 1, [⟨"La  Paz", true, "", none⟩, ⟨"La Paz", false, "", none⟩]⟩]⟩⟩

theorem read_citiesNode : SourceQuestion.read {} citiesNode 1 = .ok citiesQuestion :=
  read_eq_ok citiesQuestion (by decide +kernel) (by decide +kernel) (by decide +kernel) rfl

theorem aggregate_citiesQuestion :
    aggregate (some citiesQuestion.id) citiesQuestion.outcomes = .ok citiesOutcomes := by
  decide +kernel

theorem convert_citiesQuestion : (citiesQuestion.convert {}).2 = .ok citiesConverted := by
  decide +kernel

/-- The first list is fair, since its match is written with single spaces; the second one is
not. -/
theorem convert_selection_offered_cities :
    SourceQuestion.read {} citiesNode 1 = .ok citiesQuestion ∧
    (citiesQuestion.convert {}).2 = .ok citiesConverted ∧
    ∃ set, aggregate (some citiesQuestion.id) citiesQuestion.outcomes = .ok set ∧
      (citiesQuestion.listStem set ⟨0, "", ["La Paz", "Oslo"]⟩).Fair ["La Paz", "Oslo"] ∧
      ¬ (citiesQuestion.listStem set ⟨1, "", ["La Paz"]⟩).Fair ["La Paz"] := by
  obtain ⟨set, header, parts, loose, hset, -, -, hparts⟩ :=
    convert_selection_offered read_citiesNode (by decide +kernel) convert_citiesQuestion
  obtain rfl : citiesOutcomes = set := Except.ok.inj (aggregate_citiesQuestion.symm.trans hset)
  obtain ⟨first, parts, hfirst, hparts, -⟩ := List.forall₂_cons_left_iff.mp hparts
  obtain ⟨second, parts, hsecond, -, -⟩ := List.forall₂_cons_left_iff.mp hparts
  refine ⟨read_citiesNode, convert_citiesQuestion, _, hset, ?_, ?_⟩
  · obtain ⟨-, -, hfair, -⟩ := hfirst ⟨0, "", ["La Paz", "Oslo"]⟩ rfl
    exact hfair rfl (by decide +kernel)
  · obtain ⟨-, hfair, -⟩ := hsecond ⟨1, "", ["La Paz"]⟩ rfl
    rw [hfair]
    intro hrecognizes
    have htaken := hrecognizes "La Paz" (by decide +kernel) (by decide +kernel)
    exact absurd htaken (by decide +kernel)

/-- **A correct option may also be offered as wrong.** Not in every converted question with
pull-down lists are all own options offered fairly: the option "La Paz" stands beside the
correct match of the same words. -/
theorem not_forall_selection_fair :
    ¬ ∀ (c : Config) (node : Document.Node) (position : Int) (q : SourceQuestion)
        (question : Question) (set : OutcomeSet),
      SourceQuestion.read c node position = .ok q → q.kind = .selection →
      (q.convert c).2 = .ok question → aggregate (some q.id) q.outcomes = .ok set →
      ∀ choice ∈ q.choices, (q.listStem set choice).Fair choice.options := by
  intro h
  have hfair := h {} citiesNode 1 citiesQuestion citiesConverted citiesOutcomes read_citiesNode
    (by decide +kernel) convert_citiesQuestion aggregate_citiesQuestion
    ⟨1, "", ["La Paz"]⟩ (by decide +kernel)
  have htaken := hfair "La Paz" (by decide +kernel) (by decide +kernel)
    ⟨"1", "La  Paz", 1, "", true, .matching⟩ (by decide +kernel) (by decide +kernel)
  exact htaken (by decide +kernel)

end QuestionBank
