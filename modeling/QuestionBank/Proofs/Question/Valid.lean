import QuestionBank.Proofs.Number.Order
import QuestionBank.Proofs.Question.Record
import QuestionBank.Proofs.Schema.Rules
import QuestionBank.Question.Validation

/-!
# Valid questions

The schema of records asks little of the record of a question beyond what every question
has: a name, a kind that can be stored, answers where its kind has them, and numbers
within bounds. `Question.Sound` and `Question.HasEmptyAnswer` say so without the schema,
and a strict check of the record decides just that.
-/

namespace QuestionBank

open QuestionBank.Schema

/-! ## What is asked of a question -/

/-- An embedded question is at a place, counts, and has answers with tolerances that are not
negative. -/
@[mk_iff]
structure Cloze.Subquestion.Sound (s : Cloze.Subquestion) : Prop where
  position : 1 ≤ s.position
  weight : 1 ≤ s.weight
  answers : s.answers ≠ []
  tolerances : ∀ a ∈ s.answers, ∀ x, a.tolerance = some x → x.NotNegative

/-- A body has answers where its kind needs them. -/
def Body.Filled : Body → Prop
  | .multichoice answers .. => answers ≠ []
  | .shortAnswer answers _ => answers ≠ []
  | .shortAnswers answers .. => answers ≠ []
  | .numerical answers _ => answers ≠ []
  | .matching pairs .. => pairs ≠ []
  | _ => True

/-- The numbers of a body are within their bounds, and a text with embedded questions has one
at least. -/
def Body.InBounds : Body → Prop
  | .multichoice answers .. => ∀ a ∈ answers, a.fraction.InUnit
  | .shortAnswer answers _ => ∀ a ∈ answers, a.fraction.InUnit
  | .shortAnswers answers _ blanks => (∀ a ∈ answers, a.fraction.InUnit) ∧ 2 ≤ blanks
  | .numerical answers _ => ∀ a ∈ answers, a.fraction.InUnit ∧ a.tolerance.NotNegative
  | .essay _ fieldLines _ => 1 ≤ fieldLines
  | .multianswer embedded =>
    embedded.subquestions ≠ [] ∧ ∀ s ∈ embedded.subquestions, s.Sound
  | _ => True

/-- A question has a name, a kind that can be stored, the answers that its kind needs, and
numbers within bounds. -/
structure Question.Sound (q : Question) : Prop where
  name : q.header.name ≠ ""
  kind : q.kind ≠ .unknown
  filled : q.body.Filled
  inBounds : q.body.InBounds

/-- A matching body has a pair without an answer. -/
def Body.HasEmptyAnswer : Body → Prop
  | .matching pairs .. => ∃ p ∈ pairs, p.answer = ""
  | _ => False

/-- A question is a matching one with a pair without an answer. -/
def Question.HasEmptyAnswer (q : Question) : Prop := q.body.HasEmptyAnswer

/-! ## Values by their rules -/

attribute [local simp] ValueType.holds check_properties List.lookup_cons

theorem numberBelow_float (x : Binary64) (bound : Int) :
    numberBelow (.float x) bound = x.lt (.ofInt bound) := rfl

/-- A natural number is compared as one, so that no cast is left in what a rule asks of it. -/
theorem numberBelow_natCast (n : Nat) (bound : Int) :
    numberBelow (.int n) bound = false ↔ bound.toNat ≤ n := by
  simp only [numberBelow, decide_eq_false_iff_not]
  omega

theorem numberAbove_float (x : Binary64) (bound : Int) :
    numberAbove (.float x) bound = (Binary64.ofInt bound).lt x := rfl

theorem conforms_choiceAnswer (a : ChoiceAnswer) :
    Conforms answerRules a.toJson ↔ a.fraction.InUnit := by
  simp [answerRules, textRules, ChoiceAnswer.toJson, numberBelow_float, numberAbove_float,
    Binary64.inUnit_iff]

theorem conforms_textAnswer (a : TextAnswer) :
    Conforms answerRules a.toJson ↔ a.fraction.InUnit := by
  simp [answerRules, textRules, TextAnswer.toJson, numberBelow_float, numberAbove_float,
    Binary64.inUnit_iff]

theorem conforms_numericAnswer (a : Scoring.NumericAnswer) :
    Conforms answerRules a.toJson ↔ a.fraction.InUnit ∧ a.tolerance.NotNegative := by
  simp [answerRules, textRules, Scoring.NumericAnswer.toJson, numberBelow_float, numberAbove_float,
    Binary64.inUnit_iff, Binary64.NotNegative, and_comm]

theorem conforms_matchPair (p : MatchPair) : Conforms pairRules p.toJson ↔ p.answer ≠ "" := by
  simp [pairRules, textRules, MatchPair.toJson]

theorem conforms_embeddedAnswer (a : Cloze.Answer) :
    Conforms embeddedAnswerRules a.toJson ↔ ∀ x, a.tolerance = some x → x.NotNegative := by
  obtain ⟨text, correct, feedback, tolerance⟩ := a
  cases tolerance with
  | none =>
      simp [embeddedAnswerRules, textRules, Cloze.Answer.toJson]
  | some x =>
      simp [embeddedAnswerRules, textRules, Cloze.Answer.toJson, numberBelow_float,
        Binary64.NotNegative]

theorem conforms_embeddedKind (kind : Cloze.Kind) :
    (Rule.among (Cloze.Kind.all.map fun k => .str k.tag)).check (.str kind.tag) = [] := by
  rw [check_among]
  cases kind <;> decide

theorem conforms_subquestion (s : Cloze.Subquestion) :
    Conforms subquestionRules s.toJson ↔ s.Sound := by
  simp [subquestionRules, Cloze.Subquestion.toJson, numberBelow_natCast, conforms_embeddedKind,
    conforms_embeddedAnswer, Cloze.Subquestion.sound_iff]

theorem conforms_embedded (e : Cloze.Embedded) :
    Conforms embeddedRules e.toJson ↔ e.subquestions ≠ [] ∧ ∀ s ∈ e.subquestions, s.Sound := by
  simp [embeddedRules, textRules, Cloze.Embedded.toJson, conforms_subquestion]

/-! ## Records by their rules -/

/-- A member conforms to the rules for its name. -/
def MemberConforms (m : String × Json) : Prop :=
  ∀ rules, (m.1, rules) ∈ memberRules → Conforms rules m.2

/-- The members of an object conform one by one, if no name stands twice. -/
theorem check_memberRules {members : List (String × Json)}
    (hnames : (members.map Prod.fst).Nodup) :
    (Rule.properties memberRules).check (.obj members) = [] ↔ ∀ m ∈ members, MemberConforms m := by
  rw [check_properties]
  constructor
  · intro h m hm rules hrules
    exact h _ hrules m.2 (lookup_of_mem hnames hm)
  · rintro h ⟨name, rules⟩ hrules v hv
    obtain ⟨before, after, he, -⟩ := List.lookup_eq_some_iff.mp hv
    exact h (name, v) (by simp [he]) rules hrules

theorem memberConforms_format (format : TextFormat) :
    MemberConforms ("question_text_format", .int format.code) := by
  cases format <;> simp [MemberConforms, memberRules, check_among, Scalar.equals, TextFormat.code]

theorem headerMembers_conform {header : Header} :
    (∀ m ∈ header.members, MemberConforms m) ↔ header.name ≠ "" := by
  have hformat := memberConforms_format header.format
  simp only [Header.members, List.forall_mem_cons, hformat, true_and]
  simp [MemberConforms, memberRules, textRules]

theorem memberConforms_kind {kind : Kind} :
    MemberConforms ("kind", .str kind.tag) ↔ kind ≠ .unknown := by
  have htags : (Rule.among storedTags).check (.str kind.tag) = [] ↔ kind ≠ .unknown := by
    rw [check_among]
    cases kind <;> decide
  simp [MemberConforms, memberRules, htags]

/-- A member for which there are no rules. -/
theorem memberConforms_free {name : String} (h : name ∉ memberRules.map Prod.fst) (v : Json) :
    MemberConforms (name, v) := fun _ hrules => absurd (List.mem_map_of_mem hrules) h

theorem memberConforms_answers {α : Type} {toJson : α → Json} {P : α → Prop}
    (h : ∀ a, Conforms answerRules (toJson a) ↔ P a) (answers : List α) :
    MemberConforms ("answers", .arr (answers.map toJson)) ↔ ∀ a ∈ answers, P a := by
  simp [MemberConforms, memberRules, h]

theorem memberConforms_pairs (pairs : List MatchPair) :
    MemberConforms ("subquestions", .arr (pairs.map MatchPair.toJson)) ↔
      ∀ p ∈ pairs, p.answer ≠ "" := by
  simp [MemberConforms, memberRules, conforms_matchPair]

theorem memberConforms_embedded (e : Cloze.Embedded) :
    MemberConforms ("embedded", e.toJson) ↔
      e.subquestions ≠ [] ∧ ∀ s ∈ e.subquestions, s.Sound := by
  simp [MemberConforms, memberRules, conforms_embedded]

theorem memberConforms_bool {name : String} (h : name ∈ ["single", "correct_answer", "use_case"])
    (b : Bool) : MemberConforms (name, .bool b) := by
  simp only [List.mem_cons, List.not_mem_nil, or_false] at h
  rcases h with rfl | rfl | rfl <;> simp [MemberConforms, memberRules]

theorem memberConforms_blanks (blanks : Nat) :
    MemberConforms ("blank_count", .int blanks) ↔ 2 ≤ blanks := by
  simp [MemberConforms, memberRules, numberBelow_natCast]

theorem memberConforms_fieldLines (fieldLines : Int) :
    MemberConforms ("response_field_lines", .int fieldLines) ↔ 1 ≤ fieldLines := by
  simp [MemberConforms, memberRules, numberBelow]

/-- The members of a body conform if its numbers are within bounds and no pair is without an
answer. -/
theorem bodyMembers_conform (body : Body) :
    (∀ m ∈ body.members, MemberConforms m) ↔ body.InBounds ∧ ¬ body.HasEmptyAnswer := by
  cases body with
  | multichoice answers =>
      simp [Body.members, Body.InBounds, Body.HasEmptyAnswer, memberConforms_bool,
        memberConforms_answers conforms_choiceAnswer, memberConforms_free, memberRules]
  | trueFalse =>
      simp [Body.members, Body.InBounds, Body.HasEmptyAnswer, memberConforms_bool,
        memberConforms_free, memberRules]
  | shortAnswer answers =>
      simp [Body.members, Body.InBounds, Body.HasEmptyAnswer, memberConforms_bool,
        memberConforms_answers conforms_textAnswer]
  | shortAnswers answers =>
      simp [Body.members, Body.InBounds, Body.HasEmptyAnswer, memberConforms_bool,
        memberConforms_answers conforms_textAnswer, memberConforms_blanks]
  | numerical answers =>
      simp [Body.members, Body.InBounds, Body.HasEmptyAnswer,
        memberConforms_answers conforms_numericAnswer]
  | essay =>
      simp [Body.members, Body.InBounds, Body.HasEmptyAnswer, memberConforms_fieldLines,
        memberConforms_free, memberRules]
  | matching pairs =>
      simp [Body.members, Body.InBounds, Body.HasEmptyAnswer, memberConforms_pairs,
        memberConforms_free, memberRules]
  | multianswer embedded =>
      simp [Body.members, Body.InBounds, Body.HasEmptyAnswer, memberConforms_embedded]
  | category => simp [Body.members, Body.InBounds, Body.HasEmptyAnswer]
  | unknown =>
      simp [Body.members, Body.InBounds, Body.HasEmptyAnswer, memberConforms_free, memberRules]

/-! ## Rules for kinds -/

theorem check_required_of_lookup {name : String} {members : List (String × Json)} {v : Json}
    (h : members.lookup name = some v) : (Rule.required [name]).check (.obj members) = [] := by
  rw [check_required, List.forall_mem_singleton, h]
  rfl

theorem conforms_filled {α : Type} {name : String} {members : List (String × Json)}
    {toJson : α → Json} {items : List α}
    (h : members.lookup name = some (.arr (items.map toJson))) :
    Conforms (filledRules name) (.obj members) ↔ items ≠ [] := by
  have hrequired := check_required_of_lookup h
  rw [filledRules, conforms_cons, conforms_cons, check_properties]
  simp [hrequired, h]

theorem conforms_present {name : String} {members fields : List (String × Json)}
    (h : members.lookup name = some (.obj fields)) :
    Conforms (presentRules name) (.obj members) := by
  have hrequired := check_required_of_lookup h
  rw [presentRules, conforms_cons, conforms_cons, check_properties]
  simp [hrequired, h]

theorem mem_answerTags (kind : Kind) :
    (∃ s ∈ answerTags, s.equals (.str kind.tag) = true) ↔ kind ∈ answerKinds := by
  cases kind <;> decide

theorem mem_singleton_tag (kind kind' : Kind) :
    (∃ s ∈ [Scalar.str kind'.tag], s.equals (.str kind.tag) = true) ↔ kind = kind' := by
  cases kind <;> cases kind' <;> decide

/-- The rules for kinds ask for the member that the kind of the question needs. -/
theorem conforms_kindRules_iff (q : Question) :
    Conforms kindRules q.toRecord.toJson ↔
      (q.kind ∈ answerKinds → Conforms (filledRules "answers") q.toRecord.toJson) ∧
      (q.kind = .matching → Conforms (filledRules "subquestions") q.toRecord.toJson) ∧
      (q.kind = .multianswer → Conforms (presentRules "embedded") q.toRecord.toJson) := by
  have hcheck {tags : List Scalar} {rules : List Rule} :
      (Rule.whenMember "kind" tags rules).check q.toRecord.toJson = [] ↔
        ((∃ s ∈ tags, s.equals (.str q.kind.tag) = true) → Conforms rules q.toRecord.toJson) :=
    check_whenMember rfl
  simp only [kindRules, conforms_cons, conforms_nil, hcheck, mem_answerTags, mem_singleton_tag,
    and_true]

theorem conforms_kindRules_answers {q : Question} (hkind : q.kind ∈ answerKinds) :
    Conforms kindRules q.toRecord.toJson ↔ Conforms (filledRules "answers") q.toRecord.toJson := by
  have hmatching : q.kind ≠ .matching := fun h => absurd (h ▸ hkind) (by decide)
  have hmultianswer : q.kind ≠ .multianswer := fun h => absurd (h ▸ hkind) (by decide)
  simp only [conforms_kindRules_iff, hkind, hmatching, hmultianswer, true_imp_iff, false_imp_iff,
    and_true]

/-- What the kind of a question needs is there just when its body is filled. -/
theorem conforms_kindRules (q : Question) :
    Conforms kindRules q.toRecord.toJson ↔ q.body.Filled := by
  obtain ⟨header, body⟩ := q
  cases body with
  | multichoice answers =>
      rw [conforms_kindRules_answers (.head _)]
      apply conforms_filled
      rfl
  | shortAnswer answers =>
      rw [conforms_kindRules_answers (.tail _ (.head _))]
      apply conforms_filled
      rfl
  | shortAnswers answers =>
      rw [conforms_kindRules_answers (.tail _ (.tail _ (.head _)))]
      apply conforms_filled
      rfl
  | numerical answers ranged =>
      have hkind : Question.kind ⟨header, .numerical answers ranged⟩ ∈ answerKinds := by
        cases ranged with
        | false => exact .tail _ (.tail _ (.tail _ (.head _)))
        | true => exact .tail _ (.tail _ (.tail _ (.tail _ (.head _))))
      rw [conforms_kindRules_answers hkind]
      apply conforms_filled
      rfl
  | matching pairs shuffled correct incorrect =>
      have hfilled : Conforms (filledRules "subquestions")
          (Question.toRecord ⟨header, .matching pairs shuffled correct incorrect⟩).toJson ↔
            pairs ≠ [] := by
        apply conforms_filled
        rfl
      rw [conforms_kindRules_iff, hfilled]
      constructor
      · rintro ⟨-, hpairs, -⟩
        exact hpairs rfl
      · intro hpairs
        exact ⟨nofun, fun _ => hpairs, nofun⟩
  | multianswer embedded =>
      rw [conforms_kindRules_iff]
      refine iff_of_true ⟨nofun, nofun, fun _ => ?_⟩ trivial
      apply conforms_present
      rfl
  | trueFalse => exact iff_of_true ((conforms_kindRules_iff _).mpr ⟨nofun, nofun, nofun⟩) trivial
  | essay => exact iff_of_true ((conforms_kindRules_iff _).mpr ⟨nofun, nofun, nofun⟩) trivial
  | category => exact iff_of_true ((conforms_kindRules_iff _).mpr ⟨nofun, nofun, nofun⟩) trivial
  | unknown => exact iff_of_true ((conforms_kindRules_iff _).mpr ⟨nofun, nofun, nofun⟩) trivial

/-! ## Checking records -/

theorem storedMembers_conform (q : Question) :
    (∀ m ∈ q.toRecord.storedMembers, MemberConforms m) ↔
      q.kind ≠ .unknown ∧ q.header.name ≠ "" ∧ q.body.InBounds ∧ ¬ q.HasEmptyAnswer := by
  have hversion : MemberConforms ("schema_version", .int Record.version) := by
    simp [MemberConforms, memberRules, numberBelow, Record.version]
  have hmembers : (∀ m ∈ q.toRecord.members, MemberConforms m) ↔
      q.header.name ≠ "" ∧ q.body.InBounds ∧ ¬ q.HasEmptyAnswer := by
    rw [← headerMembers_conform, Question.HasEmptyAnswer, ← bodyMembers_conform]
    exact List.forall_mem_append
  rw [Record.storedMembers, List.forall_mem_cons, List.forall_mem_cons, hmembers]
  exact (and_iff_right hversion).trans (and_congr_left' memberConforms_kind)

theorem conforms_recordRules (q : Question) :
    Conforms recordRules q.toRecord.toJson ↔ q.Sound ∧ ¬ q.HasEmptyAnswer := by
  have hobject : (Rule.type [.object]).check q.toRecord.toJson = [] := rfl
  have hrequired : (Rule.required requiredNames).check q.toRecord.toJson = [] := rfl
  have hmembers : (Rule.properties memberRules).check q.toRecord.toJson = [] ↔ _ :=
    (check_memberRules (shaped_toRecord q).names_nodup).trans (storedMembers_conform q)
  -- Every record is an object with the required members; the members and the rules for kinds
  -- decide the rest.
  rw [recordRules, conforms_cons, conforms_cons, conforms_cons, hmembers, conforms_kindRules]
  constructor
  · rintro ⟨-, -, ⟨hkind, hname, hbounds, hanswers⟩, hfilled⟩
    exact ⟨⟨hname, hkind, hfilled, hbounds⟩, hanswers⟩
  · rintro ⟨⟨hname, hkind, hfilled, hbounds⟩, hanswers⟩
    exact ⟨hobject, hrequired, ⟨hkind, hname, hbounds, hanswers⟩, hfilled⟩

/-- Besides the schema, only the kind may be wrong with the record of a question. -/
theorem violation?_toRecord (q : Question) :
    violation? true q.toRecord.storedMembers = none ↔
      q.kind ≠ .unknown ∧ violations recordRules q.toRecord.toJson = [] := by
  have hmissing : (requiredNames.filter fun name =>
      (q.toRecord.storedMembers.lookup name).isNone) = [] := rfl
  have hversion : q.toRecord.storedMembers.lookup "schema_version" = some (.int 1) := rfl
  have htag : q.toRecord.storedMembers.lookup "kind" = some (.str q.kind.tag) := rfl
  have hunknown : Kind.unknown.tag = q.kind.tag ↔ q.kind = .unknown := by
    cases q.kind <;> decide
  have hobj : Json.obj q.toRecord.storedMembers = q.toRecord.toJson := rfl
  simp only [violation?, hmissing, hversion, htag, hobj]
  by_cases hkind : q.kind = .unknown
  · simp [hkind, Scalar.equals]
  · cases hviolations : violations recordRules q.toRecord.toJson with
    | nil => simp [hunknown, hkind, Scalar.equals]
    | cons first others => simp [hunknown, hkind, Scalar.equals]

/-- The check of an object is the search for what is wrong with its members. -/
theorem validate_obj (strict : Bool) (members : List (String × Json)) :
    (validate strict (.obj members) = .ok () ↔ violation? strict members = none) ∧
      ((∃ violation, validate strict (.obj members) = .error (.invalid violation)) ↔
        violation? strict members ≠ none) := by
  unfold validate
  cases h : violation? strict members with
  | none => simp [h]
  | some violation => simp [h]

/-- **A strict check accepts the record of a question just when the question is sound and no
pair of it is without an answer.** Any other record of a question is not valid. -/
theorem validate_toRecord_iff (q : Question) :
    (validate true q.toRecord.toJson = .ok () ↔ q.Sound ∧ ¬ q.HasEmptyAnswer) ∧
      ((∃ violation, validate true q.toRecord.toJson = .error (.invalid violation)) ↔
        ¬ (q.Sound ∧ ¬ q.HasEmptyAnswer)) := by
  have hnone : violation? true q.toRecord.storedMembers = none ↔ q.Sound ∧ ¬ q.HasEmptyAnswer := by
    rw [violation?_toRecord, violations_eq_nil_iff, conforms_recordRules]
    exact and_iff_right_of_imp fun h => h.1.kind
  obtain ⟨hok, herror⟩ := validate_obj true q.toRecord.storedMembers
  exact ⟨hok.trans hnone, herror.trans (not_congr hnone)⟩

end QuestionBank
