import QuestionBank.Conversion.Convert
import QuestionBank.Proofs.Conversion.Embedding
import QuestionBank.Proofs.Conversion.Reading
import QuestionBank.Proofs.Number.Written
import QuestionBank.Proofs.Scoring.Sources
import Mathlib.Algebra.Order.BigOperators.Group.List
import Mathlib.Tactic.GCongr
import Mathlib.Tactic.NormNum
import Mathlib.Tactic.Positivity

/-!
# Questions with embedded answers

Pull-down lists, short answers and numbers pass their matches on to be embedded. For
all that they pass, a question is put together, or it fails because a blank or a stem is
not answered. Markup that cannot be read back never comes of it.
-/

namespace QuestionBank

open QuestionBank.Scoring QuestionBank.Text QuestionBank.Number QuestionBank.Cloze

/-- The kind and the matches that are passed on to be embedded. -/
inductive Passed (q : SourceQuestion) : Cloze.Kind → MatchResult → Prop
  | selection {set : OutcomeSet} (hkind : q.kind = .selection) (hchoices : q.choices ≠ [])
      (hset : aggregate (some q.id) q.outcomes = .ok set) :
      Passed q .multichoice (synthesizeMatches set q.optionPool)
  | shortAnswer {set : OutcomeSet} (hkind : q.kind = .shortAnswer)
      (hset : aggregate (some q.id) q.outcomes = .ok set) (hstems : set.stems ≠ [])
      (hmode : set.mode = .perStem) :
      Passed q .shortAnswer (synthesizeMatches set [])
  | numerical {set : OutcomeSet} {found : List (List Match)} (hkind : q.kind = .numerical)
      (hset : aggregate (some q.id) q.outcomes = .ok set) (hstems : 1 < set.stems.length)
      (hfound : set.stems.mapM (numericMatches q set) = .ok found) :
      Passed q .numerical { found := found.flatten }

variable {c : Config} {node : Document.Node} {position : Int} {q : SourceQuestion}
  {kind : Cloze.Kind} {r : MatchResult}

/-- What is passed on is embedded. -/
theorem draft_passed (c : Config) (h : Passed q kind r) :
    q.draft c = multianswerDraft q kind r := by
  cases h with
  | @selection set hkind hchoices hset =>
      rw [SourceQuestion.draft, hkind]
      simp [selectionDraft, hchoices, hset]
  | @shortAnswer set hkind hset hstems hmode =>
      rw [SourceQuestion.draft, hkind]
      simp only [shortAnswerDraft, hset, hmode]
  | @numerical set found hkind hset hstems hfound =>
      rw [SourceQuestion.draft, hkind]
      simp only [numericalDraft, hset]
      split
      next hnil => simp [hnil] at hstems
      next hone => simp [hone] at hstems
      next => rw [hfound]

/-! ## Matches that are passed on -/

/-- The matches of a numeric stem come from its answers, one from each. -/
theorem numericMatches_eq_ok {set : OutcomeSet} {rule : StemRule} {ms : List Match}
    (h : numericMatches q set rule = .ok ms) :
    ∃ answers ranged, numericAnswers (some q.id) rule set = .ok (answers, ranged) ∧
      List.Forall₂ (fun a m => numericMatch rule.stem (bestScore rule set) a = .ok m)
        answers ms := by
  unfold numericMatches at h
  split at h
  · cases h
  next answers ranged hanswers =>
    cases hms : answers.mapM (numericMatch rule.stem (bestScore rule set)) with
    | error b =>
        rw [hms] at h
        cases h
    | ok found =>
        rw [hms] at h
        cases h
        exact ⟨answers, ranged, hanswers, Traversal.mapM_eq_ok_iff.mp hms⟩

theorem numericMatch_of_mem {set : OutcomeSet} {found : List (List Match)}
    (hfound : set.stems.mapM (numericMatches q set) = .ok found) {m : Match}
    (hm : m ∈ found.flatten) : ∃ stem best a, numericMatch stem best a = .ok m := by
  obtain ⟨ms, hms, hm⟩ := List.mem_flatten.mp hm
  obtain ⟨rule, -, hrule⟩ := Traversal.exists_of_mem_mapM hfound hms
  obtain ⟨answers, ranged, -, hanswers⟩ := numericMatches_eq_ok hrule
  obtain ⟨a, -, ha⟩ := Traversal.exists_of_mem_left hanswers.flip hm
  exact ⟨_, _, a, ha⟩

theorem inRange_of_passed (hread : SourceQuestion.read c node position = .ok q)
    (h : Passed q kind r) : ∀ m ∈ r.found, InRange m.score := by
  intro m hm
  cases h with
  | selection _ _ hset =>
      obtain ⟨o, ho, he⟩ := score_of_mem_synthesizeMatches hset hm
      exact he ▸ inRange_of_read hread o ho
  | shortAnswer _ hset =>
      obtain ⟨o, ho, he⟩ := score_of_mem_synthesizeMatches hset hm
      exact he ▸ inRange_of_read hread o ho
  | numerical _ _ _ hfound =>
      obtain ⟨stem, best, a, ha⟩ := numericMatch_of_mem hfound hm
      obtain ⟨score, hscore, rfl⟩ := Traversal.map_eq_ok_iff.mp ha
      exact inRange_max inRange_zero (inRange_of_sharedScore hscore)

theorem numberAnswers_of_passed (h : Passed q kind r) : NumberAnswers kind r.found := by
  intro hkind m hm
  cases h with
  | selection => cases hkind
  | shortAnswer => cases hkind
  | numerical _ _ _ hfound =>
      obtain ⟨stem, best, a, ha⟩ := numericMatch_of_mem hfound hm
      obtain ⟨score, -, rfl⟩ := Traversal.map_eq_ok_iff.mp ha
      obtain ⟨x, hx⟩ := Option.isSome_iff_exists.mp (readBinary64?_formatNumber a.tolerance)
      exact ⟨_, x, .tolerance (readBinary64?_formatNumber a.value) hx⟩

/-! ## Weights -/

theorem credit_le {found : List Match} {b : Nat} (h : ∀ m ∈ found, m.score ≤ b) :
    credit found ≤ found.length * b := by
  have hsum : ∀ score ∈ (found.filter fun m => 0 < m.score).map Match.score, score ≤ (b : Int) := by
    intro score hscore
    obtain ⟨m, hm, rfl⟩ := List.mem_map.mp hscore
    exact h m (List.mem_filter.mp hm).1
  calc credit found ≤ ((found.filter fun m => 0 < m.score).map Match.score).length • (b : Int) :=
        List.sum_le_card_nsmul _ _ hsum
    _ ≤ found.length * b := by
        rw [nsmul_eq_mul, List.length_map]
        have := List.length_filter_le (fun m : Match => 0 < m.score) found
        gcongr

/-- A weight of too many digits needs more matches than can be. -/
theorem length_of_heavy {found : List Match} (h : ∀ m ∈ found, InRange m.score)
    (hheavy : ¬ credit found < 10 ^ digitLimit) : 10 ^ 3000 ≤ found.length := by
  by_contra hfew
  have hgreatest : Binary64.greatest ≤ 10 ^ (53 + Binary64.topScale) :=
    Binary64.greatest_le.trans (Nat.pow_le_pow_left (by decide) _)
  have hlimit : 3000 + (53 + Binary64.topScale) ≤ digitLimit := by
    rw [Binary64.topScale]
    decide
  have hweight : credit found < 10 ^ digitLimit :=
    calc credit found ≤ ((found.length * Binary64.greatest : Nat) : Int) := by
          exact_mod_cast credit_le fun m hm => (h m hm).le
      _ < ((10 ^ (3000 + (53 + Binary64.topScale)) : Nat) : Int) := by
          rw [Int.ofNat_lt, Nat.pow_add]
          exact Nat.mul_lt_mul_of_lt_of_le (not_le.mp hfew) hgreatest (by positivity)
      _ ≤ ((10 ^ digitLimit : Nat) : Int) :=
          Int.ofNat_le.mpr (Nat.pow_le_pow_right (by decide) hlimit)
      _ = 10 ^ digitLimit := by push_cast; rfl
  exact hheavy hweight

theorem matchesFor_length_le (stem : String) : (r.matchesFor stem).length ≤ r.found.length :=
  List.length_filter_le _ _

theorem length_of_not_light (h : ∀ m ∈ r.found, InRange m.score)
    {stem : EmbeddedStem} (hstem : stem ∈ embeddedStems q kind r) (hheavy : ¬ stem.Light) :
    10 ^ 3000 ≤ r.found.length := by
  obtain ⟨id, hid⟩ : ∃ id, stem.found = r.matchesFor id := by
    rcases List.mem_append.mp hstem with hstem | hstem
    · obtain ⟨choice, -, rfl⟩ := List.mem_map.mp hstem
      exact ⟨choice.key, rfl⟩
    · obtain ⟨id, -, rfl⟩ := List.mem_map.mp hstem
      exact ⟨id, rfl⟩
  rw [EmbeddedStem.Light, hid] at hheavy
  have hscores : ∀ m ∈ r.matchesFor id, InRange m.score :=
    fun m hm => h m (List.mem_filter.mp hm).1
  exact (length_of_heavy hscores hheavy).trans (matchesFor_length_le id)

/-! ## Putting a question together -/

/-- A question that is converted comes of its draft with its header. -/
theorem convert_eq_ok {question : Question} (h : (q.convert c).2 = .ok question) :
    ∃ draft header, q.draft c = .ok draft ∧ q.header c = .ok header ∧
      draft header = .ok question := by
  unfold SourceQuestion.convert at h
  split at h
  · cases h
  next draft hdraft =>
    unfold SourceQuestion.finish at h
    dsimp only at h
    split at h
    · cases h
    next header hheader => exact ⟨draft, header, hdraft, hheader, h⟩

/-- **Questions with embedded answers are complete or fail for a reason.** For all matches
that are passed on, and texts that do not begin a block themselves: a question with a
blank or a stem that is not answered fails as such, and any other one is put together
from its stems. Only a weight of too many digits can come in between, and that takes more
matches than any document has. -/
theorem multianswerDraft_passed (hread : SourceQuestion.read c node position = .ok q)
    (hpassed : Passed q kind r) {header : Header} (hheader : q.header c = .ok header)
    (htext : Quiet header.text.toList)
    (hsegments : ∀ segment ∈ q.segments, Quiet segment.text.toList) :
    (Unanswered q r →
      (∃ e, UnansweredFailure e ∧ (multianswerDraft q kind r).bind (q.finish c) = .error e) ∨
      10 ^ 3000 ≤ r.found.length ∧
        (multianswerDraft q kind r).bind (q.finish c) = .error (.broken .integerTooLong)) ∧
    (¬ Unanswered q r →
      (∃ question, (multianswerDraft q kind r).bind (q.finish c) = .ok question ∧
        Assembled kind r.residualFeedback (embeddedStems q kind r) question) ∨
      10 ^ 3000 ≤ r.found.length ∧
        (multianswerDraft q kind r).bind (q.finish c) = .error (.broken .integerTooLong)) := by
  have hcoherent := coherent_of_read hread
  have hscores := inRange_of_passed hread hpassed
  have hnumber := numberAnswers_of_passed hpassed
  cases hanswer : encodeAnswer q kind r with
  | error e =>
      have hresult : (multianswerDraft q kind r).bind (q.finish c) = .error e := by
        rw [multianswerDraft, hanswer]
        rfl
      rcases encodeAnswer_eq_error hcoherent hanswer with
        ⟨hunanswered, hfailure⟩ | ⟨⟨stem, hstem, hheavy⟩, rfl⟩
      · exact ⟨fun _ => .inl ⟨e, hfailure, hresult⟩, fun h => absurd hunanswered h⟩
      · have hlength := length_of_not_light hscores hstem hheavy
        exact ⟨fun _ => .inr ⟨hlength, hresult⟩, fun _ => .inr ⟨hlength, hresult⟩⟩
  | ok parts =>
      obtain ⟨hwoven, hstems⟩ := encodeAnswer_eq_ok hcoherent hanswer hsegments
      have hjoined := woven_joinStripped (.cons htext.woven (.cons hwoven .nil))
      rw [List.flatten_cons, List.flatten_singleton, List.nil_append] at hjoined
      have hall : ∀ stem ∈ embeddedStems q kind r,
          (stem.Answered ∧ stem.Light) ∧ NumberAnswers kind stem.found := fun stem hstem =>
        ⟨hstems stem hstem, numberAnswers_of_mem_embeddedStems hnumber hstem⟩
      obtain ⟨embedded, hextract, hassembled⟩ := extract_woven hall hjoined
        { header with format := if header.format = .plain then .automatic else header.format }
      refine ⟨fun h => absurd h (not_unanswered fun stem hstem => (hstems stem hstem).1),
        fun _ => .inl ⟨_, ?_, hassembled⟩⟩
      rw [multianswerDraft, hanswer]
      simp only [Except.map, Except.bind, SourceQuestion.finish, hheader, hextract]

/-! ## A question with two blanks -/

/-- Texts are taken as they are. -/
def blanksConfig : Config := { defaultProfile := .raw, answerProfile := .raw }

/-- Two pull-down lists among texts that look like the beginnings of blocks. -/
def blanksNode : Document.Node :=
  { name := "QUESTION"
    attributes := [("ID", "7"), ("DESCRIPTION", "Pick \x7b1")]
    children := [
      { name := "ANSWER"
        attributes := [("QTYPE", "SEL")]
        children := [
          { name := "CONTENT", text := "\x7b2" },
          { name := "CHOICE", children := [{ name := "CONTENT", text := "a __:" }] },
          { name := "CHOICE", children := [{ name := "OPTION", text := "~\x7d" }] }] },
      { name := "OUTCOME"
        attributes := [("ID", "1"), ("SCORE", "1")]
        children := [{ name := "CONDITION", text := "\"1\" MATCHES \"x\"" }] },
      { name := "OUTCOME"
        attributes := [("ID", "2"), ("SCORE", "2")]
        children := [{ name := "CONDITION", text := "\"0\" MATCHES \"=\"" }] }] }

/-- The question that is read. -/
def blanksQuestion : SourceQuestion :=
  { node := blanksNode
    position := 1
    tag := "SEL"
    outcomes := [⟨"1", 1, "\"1\" MATCHES \"x\"", ""⟩, ⟨"2", 2, "\"0\" MATCHES \"=\"", ""⟩]
    choices := [⟨0, "a __:", []⟩, ⟨1, "", ["~\x7d"]⟩]
    segments := [.fragment "\x7b2", .blank ⟨0, "a __:", []⟩, .blank ⟨1, "", ["~\x7d"]⟩] }

/-- What its outcomes accept. -/
def blanksOutcomes : OutcomeSet :=
  { mode := .perStem
    stems := [
      ⟨"1", [⟨⟨"1", .matching, "x", false, true⟩, ⟨"1", 1, "\"1\" MATCHES \"x\"", ""⟩⟩]⟩,
      ⟨"0", [⟨⟨"0", .matching, "=", false, true⟩, ⟨"2", 2, "\"0\" MATCHES \"=\"", ""⟩⟩]⟩]
    right := none
    catchAll := none
    general := none }

theorem read_blanksNode : SourceQuestion.read blanksConfig blanksNode 1 = .ok blanksQuestion :=
  read_eq_ok blanksQuestion (by decide +kernel) (by decide +kernel) (by decide +kernel) rfl

theorem multianswerDraft_blanks :
    SourceQuestion.read blanksConfig blanksNode 1 = .ok blanksQuestion ∧
    ∃ question,
      (multianswerDraft blanksQuestion .multichoice
        (synthesizeMatches blanksOutcomes blanksQuestion.optionPool)).bind
          (blanksQuestion.finish blanksConfig) = .ok question ∧
      Assembled .multichoice ""
        (embeddedStems blanksQuestion .multichoice
          (synthesizeMatches blanksOutcomes blanksQuestion.optionPool)) question := by
  have hset : aggregate (some blanksQuestion.id) blanksQuestion.outcomes = .ok blanksOutcomes := by
    decide +kernel
  have hheader : blanksQuestion.header blanksConfig =
      .ok ⟨"Pick \x7b1", "Pick \x7b1", .html, "", "7"⟩ := by decide +kernel
  have hanswered : ¬ Unanswered blanksQuestion
      (synthesizeMatches blanksOutcomes blanksQuestion.optionPool) := by
    unfold Unanswered
    decide +kernel
  have hkind : blanksQuestion.kind = .selection := by decide +kernel
  refine ⟨read_blanksNode, ?_⟩
  rcases (multianswerDraft_passed read_blanksNode
    (.selection hkind (by decide) hset) hheader (by decide +kernel)
    (by decide +kernel)).2 hanswered with h | ⟨hlength, -⟩
  · exact h
  · have hfew : (synthesizeMatches blanksOutcomes blanksQuestion.optionPool).found.length = 2 := by
      decide +kernel
    rw [hfew] at hlength
    have htwo : 2 < 10 ^ 3000 := lt_of_lt_of_le (by norm_num) (Nat.pow_le_pow_right (by norm_num)
      (by norm_num : 1 ≤ 3000))
    exact absurd hlength htwo.not_ge

end QuestionBank
