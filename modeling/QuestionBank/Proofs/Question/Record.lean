import QuestionBank.Proofs.Json.RoundTrip
import QuestionBank.Proofs.Traversal
import QuestionBank.Question.Load

/-!
# Records are read from their stored form

A record has the fields of its kind, each in the form that the kind gives it. Such a record is
read back from the value that it is stored as, which names nothing twice. The record of a
question is one, and no two questions have the same record.
-/

namespace QuestionBank

open QuestionBank.Json

/-! ## The form of a record -/

/-- A value is neither a list nor an object. -/
def Json.IsScalar : Json → Prop
  | .arr _ => False
  | .obj _ => False
  | _ => True

/-- An answer of an embedded question in a record. A tolerance is left out where there is none. -/
inductive StoredAnswer : Json → Prop
  | plain {text correct feedback : Json} (h : ∀ j ∈ [text, correct, feedback], j.IsScalar) :
      StoredAnswer (.obj [("text", text), ("correct", correct), ("feedback", feedback)])
  | tolerant {text correct feedback tolerance : Json}
      (h : ∀ j ∈ [text, correct, feedback, tolerance], j.IsScalar) (hne : tolerance ≠ .null) :
      StoredAnswer (.obj [("text", text), ("correct", correct), ("feedback", feedback),
        ("tolerance", tolerance)])

/-- An embedded question in a record. -/
inductive StoredSubquestion : Json → Prop
  | mk {position weight : Json} (kind : Cloze.Kind) {answers : List Json}
      (h : ∀ j ∈ [position, weight], j.IsScalar) (hanswers : ∀ a ∈ answers, StoredAnswer a) :
      StoredSubquestion (.obj [("position", position), ("kind", .str kind.tag), ("weight", weight),
        ("answers", .arr answers)])

/-- The members of an answer are the parts that answers of its field have. -/
structure StoredParts (parts : List Part) (members : List (String × Json)) : Prop where
  names : members.map Prod.fst = parts.map Part.name
  scalar : ∀ m ∈ members, m.2.IsScalar

/-- A value has the form of a field. -/
inductive FieldForm.Holds : FieldForm → Json → Prop
  | any {j : Json} (h : j.IsScalar) : Holds .any j
  | format (format : TextFormat) : Holds .format (.int format.code)
  | answers {parts : List Part} {answers : List (List (String × Json))}
      (h : ∀ a ∈ answers, StoredParts parts a) : Holds (.answers parts) (.arr (answers.map .obj))
  | embedded {text : Json} {subquestions : List Json} (htext : text.IsScalar)
      (h : ∀ s ∈ subquestions, StoredSubquestion s) :
      Holds .embedded (.obj [("text", text), ("subquestions", .arr subquestions)])

/-- A record has the fields of its kind, in order and in their forms. -/
def Record.Shaped (r : Record) : Prop :=
  List.Forall₂ (fun m f => m.1 = f.name ∧ f.form.Holds m.2) r.members r.kind.fields

/-! ## Fields read one by one -/

/-- A member whose name stands once is found. -/
theorem lookup_of_mem {l : List (String × Json)} (hnames : (l.map Prod.fst).Nodup)
    {m : String × Json} (h : m ∈ l) : l.lookup m.1 = some m.2 := by
  induction l with
  | nil => cases h
  | cons entry l ih =>
      obtain ⟨hentry, hnames⟩ := List.nodup_cons.mp hnames
      rcases List.mem_cons.mp h with rfl | h
      · exact List.lookup_cons_self
      · have hne : m.1 ≠ entry.1 := by
          rintro he
          exact hentry (he ▸ List.mem_map_of_mem h)
        rw [List.lookup_cons, beq_eq_false_iff_ne.mpr hne]
        exact ih hnames h

/-- Members and what they are the members for, by their names. -/
theorem forall₂_of_names {α : Type} {name : α → String} {members : List (String × Json)}
    {l : List α} (h : members.map Prod.fst = l.map name) :
    List.Forall₂ (fun a m => m ∈ members ∧ m.1 = name a) l members := by
  have hnames : List.Forall₂ (fun a m => Prod.fst m = name a) l members := by
    have heq : List.Forall₂ Eq (members.map Prod.fst) (l.map name) := by
      rw [List.forall₂_eq_eq_eq]
      exact h
    exact (List.forall₂_map_right_iff.mp (List.forall₂_map_left_iff.mp heq)).flip
  exact ((List.forall₂_and_left _ _).mpr ⟨fun m hm => hm, hnames.flip⟩).flip

theorem mapM_self {α ε : Type} {f : α → Except ε α} {l : List α} (h : ∀ a ∈ l, f a = .ok a) :
    l.mapM f = .ok l := by
  rw [Traversal.mapM_eq_ok_iff, List.forall₂_same]
  exact h

namespace Record

theorem answerOf_obj {parts : List Part} {members : List (String × Json)}
    (hnames : (members.map Prod.fst).Nodup) (h : members.map Prod.fst = parts.map Part.name) :
    answerOf parts (.obj members) = .ok (.obj members) := by
  have hsame := forall₂_of_names h
  have hknown : (members.all fun m => parts.any fun p => p.name == m.1) = true := by
    rw [List.all_eq_true]
    intro m hm
    have hmem : m.1 ∈ parts.map Part.name := h ▸ List.mem_map_of_mem hm
    obtain ⟨p, hp, he⟩ := List.mem_map.mp hmem
    rw [List.any_eq_true]
    exact ⟨p, hp, beq_iff_eq.mpr he⟩
  have hparts : parts.mapM (partOf members) = .ok members := by
    rw [Traversal.mapM_eq_ok_iff]
    refine hsame.imp ?_
    rintro p m ⟨hm, hname⟩
    have hlookup := lookup_of_mem hnames hm
    rw [partOf, ← hname, hlookup]
    rfl
  rw [answerOf, if_pos hknown, hparts]
  rfl

theorem embeddedAnswerOf_stored {j : Json} (h : StoredAnswer j) : embeddedAnswerOf j = .ok j := by
  cases h with
  | plain => rfl
  | @tolerant _ _ _ tolerance _ hne =>
      -- A tolerance of null would be dropped, which is why a stored one is never null.
      cases tolerance with
      | null => exact absurd rfl hne
      | _ => rfl

theorem embeddedKindOf_tag (kind : Cloze.Kind) :
    embeddedKindOf (.str kind.tag) = .ok (.str kind.tag) := by
  cases kind <;> rfl

theorem subquestionOf_stored {j : Json} (h : StoredSubquestion j) : subquestionOf j = .ok j := by
  cases h with
  | @mk position weight kind answers _ hanswers =>
      have hall : answers.mapM embeddedAnswerOf = .ok answers :=
        mapM_self fun a ha => embeddedAnswerOf_stored (hanswers a ha)
      simp [subquestionOf, member, List.lookup_cons, itemsOf, embeddedKindOf_tag, hall, bind,
        Except.bind, pure, Except.pure]

theorem embeddedOf_stored {text : Json} {subquestions : List Json}
    (h : ∀ s ∈ subquestions, StoredSubquestion s) :
    embeddedOf (.obj [("text", text), ("subquestions", .arr subquestions)]) =
      .ok (.obj [("text", text), ("subquestions", .arr subquestions)]) := by
  have hall : subquestions.mapM subquestionOf = .ok subquestions :=
    mapM_self fun s hs => subquestionOf_stored (h s hs)
  simp [embeddedOf, member, List.lookup_cons, itemsOf, hall, bind, Except.bind, pure, Except.pure]

/-- The names of the parts of answers stand once. -/
def namesOf : FieldForm → List String
  | .answers parts => parts.map Part.name
  | _ => []

/-- A value in the form of a field is read as it is. -/
theorem inForm_of_holds {form : FieldForm} {j : Json} (hnames : (namesOf form).Nodup)
    (h : form.Holds j) : inForm j form = .ok j := by
  cases h with
  | any => rfl
  | format format => cases format <;> rfl
  | @answers parts answers hanswers =>
      have hall : (answers.map Json.obj).mapM (answerOf parts) = .ok (answers.map Json.obj) := by
        apply mapM_self
        intro a ha
        obtain ⟨members, hmembers, rfl⟩ := List.mem_map.mp ha
        have hparts := (hanswers members hmembers).names
        exact answerOf_obj (hparts ▸ hnames) hparts
      simp [inForm, itemsOf, hall, bind, Except.bind, pure, Except.pure]
  | embedded _ hsubquestions => exact embeddedOf_stored hsubquestions

/-! ## Records read as a whole -/

/-- No two fields of a record have one name, and none has a name that every record has. -/
theorem fields_nodup (kind : Kind) :
    ("schema_version" :: "kind" :: kind.fields.map Field.name).Nodup := by
  cases kind <;> decide

/-- No two parts of an answer have one name. -/
theorem parts_nodup (kind : Kind) : ∀ f ∈ kind.fields, (namesOf f.form).Nodup := by
  cases kind <;> decide

theorem ofTag?_tag (kind : Kind) : Kind.ofTag? kind.tag = some kind := by
  cases kind <;> decide

theorem Shaped.names {r : Record} (h : r.Shaped) :
    r.members.map Prod.fst = r.kind.fields.map Field.name := by
  have hnames := h.imp fun _ _ hm => hm.1
  rw [← List.forall₂_eq_eq_eq, List.forall₂_map_left_iff, List.forall₂_map_right_iff]
  exact hnames

/-- The members of a record as it is stored. -/
def storedMembers (r : Record) : List (String × Json) :=
  ("schema_version", .int version) :: ("kind", .str r.kind.tag) :: r.members

theorem Shaped.names_nodup {r : Record} (h : r.Shaped) :
    (r.storedMembers.map Prod.fst).Nodup := by
  have hnodup := fields_nodup r.kind
  rw [← h.names] at hnodup
  exact hnodup

theorem fieldOf_storedMembers {r : Record} (h : r.Shaped) {m : String × Json} (hm : m ∈ r.members)
    {f : Field} (hf : f ∈ r.kind.fields) (hname : m.1 = f.name) (hform : f.form.Holds m.2) :
    fieldOf r.storedMembers f = .ok (some m) := by
  have hstored : m ∈ r.storedMembers := .tail _ (.tail _ hm)
  have hlookup := lookup_of_mem h.names_nodup hstored
  rw [fieldOf, ← hname, hlookup]
  simp [inForm_of_holds (parts_nodup r.kind f hf) hform, Except.map]

theorem ofMembers_shaped {r : Record} (h : r.Shaped) :
    ofMembers r.kind r.storedMembers = .ok r := by
  -- Each field finds the member that was stored for it, because no other has its name.
  have hfound : r.kind.fields.mapM (fieldOf r.storedMembers) = .ok (r.members.map some) := by
    rw [Traversal.mapM_eq_ok_iff, List.forall₂_map_right_iff]
    have hmembers := ((List.forall₂_and_left _ _).mpr ⟨fun m hm => hm, h⟩).flip
    refine ((List.forall₂_and_left _ _).mpr ⟨fun f hf => hf, hmembers⟩).imp ?_
    rintro f m ⟨hf, hm, hname, hform⟩
    exact fieldOf_storedMembers h hm hf hname hform
  have hall : (r.members.map some).all Option.isSome = true := by
    simp
  have hmembers : (r.members.map some).filterMap id = r.members := by
    simp
  simp only [ofMembers, hfound, bind, Except.bind]
  rw [if_pos hall, hmembers]
  rfl

/-- **A record is read back from its stored form.** -/
theorem ofJson_toJson {r : Record} (h : r.Shaped) : ofJson r.toJson = .ok r := by
  have hkind : (r.storedMembers.lookup "kind").getD .null = .str r.kind.tag := rfl
  have htag := ofTag?_tag r.kind
  have hread : ofJson (.obj r.storedMembers) = ofMembers r.kind r.storedMembers := by
    simp only [ofJson, hkind, htag]
  exact hread.trans (ofMembers_shaped h)

end Record

/-! ## Names in records -/

theorem itemsNamesOnce_iff {items : List Json} :
    ItemsNamesOnce items ↔ ∀ item ∈ items, NamesOnce item := by
  induction items with
  | nil => simp [ItemsNamesOnce]
  | cons item items ih => rw [ItemsNamesOnce, List.forall_mem_cons, ih]

theorem membersNamesOnce_iff {members : List (String × Json)} :
    MembersNamesOnce members ↔ ∀ m ∈ members, NamesOnce m.2 := by
  induction members with
  | nil => simp [MembersNamesOnce]
  | cons m members ih =>
      obtain ⟨name, j⟩ := m
      rw [MembersNamesOnce, List.forall_mem_cons, ih]

theorem Json.IsScalar.namesOnce {j : Json} (h : j.IsScalar) : NamesOnce j := by
  cases j with
  | arr items => exact h.elim
  | obj members => exact h.elim
  | _ => trivial

theorem StoredAnswer.namesOnce {j : Json} (h : StoredAnswer j) : NamesOnce j := by
  cases h with
  | plain h =>
      simp only [List.forall_mem_cons] at h
      obtain ⟨htext, hcorrect, hfeedback, -⟩ := h
      exact ⟨by simp, htext.namesOnce, hcorrect.namesOnce, hfeedback.namesOnce, trivial⟩
  | tolerant h _ =>
      simp only [List.forall_mem_cons] at h
      obtain ⟨htext, hcorrect, hfeedback, htolerance, -⟩ := h
      exact ⟨by simp, htext.namesOnce, hcorrect.namesOnce, hfeedback.namesOnce,
        htolerance.namesOnce, trivial⟩

theorem StoredSubquestion.namesOnce {j : Json} (h : StoredSubquestion j) : NamesOnce j := by
  cases h with
  | mk kind h hanswers =>
      simp only [List.forall_mem_cons] at h
      obtain ⟨hposition, hweight, -⟩ := h
      have hall := itemsNamesOnce_iff.mpr fun a ha => (hanswers a ha).namesOnce
      exact ⟨by simp, hposition.namesOnce, trivial, hweight.namesOnce, hall, trivial⟩

/-- A value in the form of a field names nothing twice. -/
theorem FieldForm.Holds.namesOnce {form : FieldForm} {j : Json}
    (hnames : (Record.namesOf form).Nodup) (h : form.Holds j) : NamesOnce j := by
  cases h with
  | any h => exact h.namesOnce
  | format format => trivial
  | @answers parts answers hanswers =>
      refine itemsNamesOnce_iff.mpr ?_
      intro a ha
      obtain ⟨members, hmembers, rfl⟩ := List.mem_map.mp ha
      obtain ⟨hparts, hscalar⟩ := hanswers members hmembers
      exact ⟨hparts ▸ hnames, membersNamesOnce_iff.mpr fun m hm => (hscalar m hm).namesOnce⟩
  | embedded htext h =>
      have hall := itemsNamesOnce_iff.mpr fun s hs => (h s hs).namesOnce
      exact ⟨by simp, htext.namesOnce, hall, trivial⟩

/-- The stored form of a record names nothing twice. -/
theorem Record.Shaped.namesOnce {r : Record} (h : r.Shaped) : NamesOnce r.toJson := by
  have hmembers : ∀ m ∈ r.members, NamesOnce m.2 := by
    intro m hm
    obtain ⟨f, hf, -, hform⟩ := Traversal.exists_of_mem_left h hm
    exact hform.namesOnce (Record.parts_nodup r.kind f hf)
  exact ⟨h.names_nodup, trivial, trivial, membersNamesOnce_iff.mpr hmembers⟩

/-! ## Records of questions -/

/-- The fields of every record hold values that are neither lists nor objects. -/
theorem shaped_any {m : String × Json} {f : Field} (hname : m.1 = f.name) (hform : f.form = .any)
    (h : m.2.IsScalar) : m.1 = f.name ∧ f.form.Holds m.2 :=
  ⟨hname, hform ▸ .any h⟩

theorem shaped_headerMembers (header : Header) :
    List.Forall₂ (fun m f => m.1 = f.name ∧ f.form.Holds m.2) header.members headerFields := by
  refine .cons (shaped_any rfl rfl trivial) (.cons (shaped_any rfl rfl trivial) ?_)
  refine .cons ⟨rfl, .format header.format⟩ (.cons (shaped_any rfl rfl trivial) ?_)
  exact .cons (shaped_any rfl rfl trivial) .nil

/-- A list of answers has the form of its field, if each answer is written with the parts. -/
theorem holds_answers {α : Type} {parts : List Part} {toMembers : α → List (String × Json)}
    (h : ∀ a, StoredParts parts (toMembers a)) (answers : List α) :
    (FieldForm.answers parts).Holds (.arr (answers.map fun a => .obj (toMembers a))) := by
  have hall : ∀ a ∈ answers.map toMembers, StoredParts parts a := by
    intro a ha
    obtain ⟨answer, -, rfl⟩ := List.mem_map.mp ha
    exact h answer
  have hmap : (answers.map fun a => Json.obj (toMembers a)) = (answers.map toMembers).map .obj := by
    simp
  rw [hmap]
  exact .answers hall

theorem holds_choiceAnswers (answers : List ChoiceAnswer) :
    (FieldForm.answers choiceParts).Holds (.arr (answers.map ChoiceAnswer.toJson)) :=
  holds_answers (fun _ => ⟨rfl, by simp [Json.IsScalar]⟩) answers

theorem holds_textAnswers (answers : List TextAnswer) :
    (FieldForm.answers textParts).Holds (.arr (answers.map TextAnswer.toJson)) :=
  holds_answers (fun _ => ⟨rfl, by simp [Json.IsScalar]⟩) answers

theorem holds_numericAnswers (answers : List Scoring.NumericAnswer) :
    (FieldForm.answers numericParts).Holds (.arr (answers.map Scoring.NumericAnswer.toJson)) :=
  holds_answers (fun _ => ⟨rfl, by simp [Json.IsScalar]⟩) answers

theorem holds_matchPairs (pairs : List MatchPair) :
    (FieldForm.answers pairParts).Holds (.arr (pairs.map MatchPair.toJson)) :=
  holds_answers (fun _ => ⟨rfl, by simp [Json.IsScalar]⟩) pairs

theorem storedAnswer_toJson (a : Cloze.Answer) : StoredAnswer a.toJson := by
  obtain ⟨text, correct, feedback, tolerance⟩ := a
  cases tolerance with
  | none => exact .plain (by simp [Json.IsScalar])
  | some x => exact .tolerant (by simp [Json.IsScalar]) nofun

theorem storedSubquestion_toJson (s : Cloze.Subquestion) : StoredSubquestion s.toJson := by
  refine .mk s.kind (by simp [Json.IsScalar]) ?_
  intro a ha
  obtain ⟨answer, -, rfl⟩ := List.mem_map.mp ha
  exact storedAnswer_toJson answer

theorem holds_embedded (e : Cloze.Embedded) : FieldForm.embedded.Holds e.toJson := by
  refine .embedded trivial ?_
  intro s hs
  obtain ⟨subquestion, -, rfl⟩ := List.mem_map.mp hs
  exact storedSubquestion_toJson subquestion

/-- Fields that all hold values that are neither lists nor objects. -/
theorem shaped_scalars {members : List (String × Json)} {fields : List Field}
    (hnames : members.map Prod.fst = fields.map Field.name)
    (hforms : ∀ f ∈ fields, f.form = .any) (h : ∀ m ∈ members, m.2.IsScalar) :
    List.Forall₂ (fun m f => m.1 = f.name ∧ f.form.Holds m.2) members fields := by
  have hsame := ((List.forall₂_and_left _ _).mpr ⟨hforms, forall₂_of_names hnames⟩).flip
  refine hsame.imp ?_
  rintro m f ⟨hform, hm, hname⟩
  exact shaped_any hname hform (h m hm)

theorem shaped_bodyMembers (body : Body) :
    List.Forall₂ (fun m f => m.1 = f.name ∧ f.form.Holds m.2) body.members body.kind.ownFields := by
  cases body with
  | multichoice answers single shuffled numbering correct part incorrect =>
      refine .cons ⟨rfl, holds_choiceAnswers answers⟩ (shaped_scalars rfl ?_ ?_)
      · simp
      · simp [Json.IsScalar]
  | trueFalse correct feedbackTrue feedbackFalse =>
      refine shaped_scalars rfl ?_ ?_
      · simp [Body.kind, Kind.ownFields]
      · simp [Body.members, Json.IsScalar]
  | shortAnswer answers caseSensitive =>
      refine .cons ⟨rfl, holds_textAnswers answers⟩ (shaped_scalars rfl ?_ ?_)
      · simp
      · simp [Json.IsScalar]
  | shortAnswers answers caseSensitive blanks =>
      refine .cons ⟨rfl, holds_textAnswers answers⟩ (shaped_scalars rfl ?_ ?_)
      · simp
      · simp [Json.IsScalar]
  | numerical answers ranged =>
      cases ranged with
      | true => exact .cons ⟨rfl, holds_numericAnswers answers⟩ .nil
      | false => exact .cons ⟨rfl, holds_numericAnswers answers⟩ .nil
  | essay responseFormat fieldLines graderInfo =>
      refine shaped_scalars rfl ?_ ?_
      · simp [Body.kind, Kind.ownFields]
      · simp [Body.members, Json.IsScalar]
  | matching pairs shuffled correct incorrect =>
      refine .cons ⟨rfl, holds_matchPairs pairs⟩ (shaped_scalars rfl ?_ ?_)
      · simp
      · simp [Json.IsScalar]
  | multianswer embedded => exact .cons ⟨rfl, holds_embedded embedded⟩ .nil
  | category => exact .nil
  | unknown tag => exact .cons (shaped_any rfl rfl trivial) .nil

/-- The record of a question has the form of its kind. -/
theorem shaped_toRecord (q : Question) : q.toRecord.Shaped :=
  List.rel_append (shaped_headerMembers q.header) (shaped_bodyMembers q.body)

/-! ## Questions told apart by their records -/

theorem code_injective : Function.Injective TextFormat.code := by
  intro format format' h
  cases format <;> cases format' <;> cases h <;> rfl

theorem Header.members_injective : Function.Injective Header.members := by
  rintro ⟨name, text, format, feedback, id⟩ ⟨name', text', format', feedback', id'⟩ h
  simp only [Header.members, List.cons.injEq, Prod.mk.injEq, true_and, Json.str.injEq,
    Json.int.injEq, Int.natCast_inj, and_true] at h
  obtain ⟨rfl, rfl, hformat, rfl, rfl⟩ := h
  rw [code_injective hformat]

theorem ChoiceAnswer.toJson_injective : Function.Injective ChoiceAnswer.toJson := by
  rintro ⟨text, fraction, feedback⟩ ⟨text', fraction', feedback'⟩ h
  simpa [ChoiceAnswer.toJson] using h

theorem TextAnswer.toJson_injective : Function.Injective TextAnswer.toJson := by
  rintro ⟨text, fraction, feedback⟩ ⟨text', fraction', feedback'⟩ h
  simpa [TextAnswer.toJson] using h

theorem Scoring.NumericAnswer.toJson_injective :
    Function.Injective Scoring.NumericAnswer.toJson := by
  intro a a' h
  cases a
  cases a'
  simpa [Scoring.NumericAnswer.toJson] using h

theorem MatchPair.toJson_injective : Function.Injective MatchPair.toJson := by
  rintro ⟨stem, answer⟩ ⟨stem', answer'⟩ h
  simpa [MatchPair.toJson] using h

theorem Cloze.Answer.toJson_injective : Function.Injective Cloze.Answer.toJson := by
  rintro ⟨text, correct, feedback, tolerance⟩ ⟨text', correct', feedback', tolerance'⟩ h
  cases tolerance <;> cases tolerance' <;> simp_all [Cloze.Answer.toJson]

theorem Cloze.Kind.tag_injective : Function.Injective Cloze.Kind.tag := by
  intro kind kind' h
  cases kind <;> cases kind' <;> first | rfl | exact absurd h (by decide)

theorem Cloze.Subquestion.toJson_injective : Function.Injective Cloze.Subquestion.toJson := by
  intro s s' h
  cases s
  cases s'
  simp only [Cloze.Subquestion.toJson, Json.obj.injEq, List.cons.injEq, Prod.mk.injEq, true_and,
    Json.int.injEq, Int.natCast_inj, Json.str.injEq, Json.arr.injEq, and_true] at h
  obtain ⟨rfl, hkind, rfl, hanswers⟩ := h
  rw [Cloze.Kind.tag_injective hkind,
    List.map_injective_iff.mpr Cloze.Answer.toJson_injective hanswers]

theorem Cloze.Embedded.toJson_injective : Function.Injective Cloze.Embedded.toJson := by
  intro e e' h
  cases e
  cases e'
  simp only [Cloze.Embedded.toJson, Json.obj.injEq, List.cons.injEq, Prod.mk.injEq, true_and,
    Json.str.injEq, Json.arr.injEq, and_true] at h
  obtain ⟨rfl, hsubquestions⟩ := h
  rw [List.map_injective_iff.mpr Cloze.Subquestion.toJson_injective hsubquestions]

/-- Bodies of one kind with the same members are the same. -/
theorem Body.members_injective : ∀ {body body' : Body}, body.kind = body'.kind →
    body.members = body'.members → body = body'
  | .multichoice .., .multichoice .., _, h => by
      simp only [Body.members, List.cons.injEq, Prod.mk.injEq, true_and, Json.arr.injEq,
        Json.bool.injEq, Json.str.injEq, and_true] at h
      obtain ⟨hanswers, rfl, rfl, rfl, rfl, rfl, rfl⟩ := h
      rw [List.map_injective_iff.mpr ChoiceAnswer.toJson_injective hanswers]
  | .trueFalse .., .trueFalse .., _, h => by
      simpa [Body.members] using h
  | .shortAnswer .., .shortAnswer .., _, h => by
      simp only [Body.members, List.cons.injEq, Prod.mk.injEq, true_and, Json.arr.injEq,
        Json.bool.injEq, and_true] at h
      obtain ⟨hanswers, rfl⟩ := h
      rw [List.map_injective_iff.mpr TextAnswer.toJson_injective hanswers]
  | .shortAnswers .., .shortAnswers .., _, h => by
      simp only [Body.members, List.cons.injEq, Prod.mk.injEq, true_and, Json.arr.injEq,
        Json.bool.injEq, Json.int.injEq, Int.natCast_inj, and_true] at h
      obtain ⟨hanswers, rfl, rfl⟩ := h
      rw [List.map_injective_iff.mpr TextAnswer.toJson_injective hanswers]
  | .numerical _ true, .numerical _ true, _, h => by
      simp only [Body.members, List.cons.injEq, Prod.mk.injEq, true_and, Json.arr.injEq,
        and_true] at h
      rw [List.map_injective_iff.mpr Scoring.NumericAnswer.toJson_injective h]
  | .numerical _ false, .numerical _ false, _, h => by
      simp only [Body.members, List.cons.injEq, Prod.mk.injEq, true_and, Json.arr.injEq,
        and_true] at h
      rw [List.map_injective_iff.mpr Scoring.NumericAnswer.toJson_injective h]
  | .essay .., .essay .., _, h => by
      simpa [Body.members] using h
  | .matching .., .matching .., _, h => by
      simp only [Body.members, List.cons.injEq, Prod.mk.injEq, true_and, Json.arr.injEq,
        Json.bool.injEq, Json.str.injEq, and_true] at h
      obtain ⟨hpairs, rfl, rfl, rfl⟩ := h
      rw [List.map_injective_iff.mpr MatchPair.toJson_injective hpairs]
  | .multianswer .., .multianswer .., _, h => by
      simp only [Body.members, List.cons.injEq, Prod.mk.injEq, true_and, and_true] at h
      rw [Cloze.Embedded.toJson_injective h]
  | .category, .category, _, _ => rfl
  | .unknown .., .unknown .., _, h => by
      simpa [Body.members] using h

/-- No two questions have the same record. -/
theorem toRecord_injective : Function.Injective Question.toRecord := by
  rintro ⟨header, body⟩ ⟨header', body'⟩ h
  obtain ⟨hkind, hmembers⟩ := Record.mk.inj h
  obtain ⟨hheader, hbody⟩ : header.members = header'.members ∧ body.members = body'.members :=
    List.append_inj hmembers rfl
  obtain rfl := Header.members_injective hheader
  obtain rfl := Body.members_injective hkind hbody
  rfl

end QuestionBank
