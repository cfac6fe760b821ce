import QuestionBank.Proofs.Question.Record
import QuestionBank.Proofs.Question.Valid

/-!
# What becomes of accepted records

A record that a strict check accepts is read as a record of the kind that it names, but for its
lists: the check asks for the share of an answer only and allows any further member, while an
item is read just when it has the parts of its list and no others. In all other respects the
schema asks for as much as reading does.
-/

namespace QuestionBank

open QuestionBank.Schema

/-! ## Items of lists -/

/-- An item of a list is an object with these parts, as far as they have no default, and with no
other members. -/
def Json.Fits (parts : List Part) : Json → Prop
  | .obj members =>
    (∀ m ∈ members, ∃ p ∈ parts, p.name = m.1) ∧
      ∀ p ∈ parts, (members.lookup p.name).isSome ∨ p.default.isSome
  | _ => False

instance (parts : List Part) : (item : Json) → Decidable (item.Fits parts)
  | .obj _ => inferInstanceAs (Decidable (_ ∧ _))
  | .null | .bool _ | .int _ | .float _ | .str _ | .arr _ => isFalse id

/-- The items of a value fit, where a field is a list of answers. -/
def FieldForm.Fits : FieldForm → Option Json → Prop
  | .answers parts, some (.arr items) => ∀ item ∈ items, item.Fits parts
  | _, _ => True

instance : (form : FieldForm) → (value : Option Json) → Decidable (form.Fits value)
  | .answers _, some (.arr _) => inferInstanceAs (Decidable (∀ item ∈ _, _))
  | .answers _, none | .answers _, some .null | .answers _, some (.bool _)
  | .answers _, some (.int _) | .answers _, some (.float _) | .answers _, some (.str _)
  | .answers _, some (.obj _) | .any, _ | .format, _ | .embedded, _ => isTrue trivial

/-- The items of all lists fit that a record of a kind has. -/
def Kind.ItemsFit (kind : Kind) (members : List (String × Json)) : Prop :=
  ∀ f ∈ kind.fields, f.form.Fits (members.lookup f.name)

instance (kind : Kind) (members : List (String × Json)) : Decidable (kind.ItemsFit members) :=
  inferInstanceAs (Decidable (∀ f ∈ _, _))

/-! ## Readings that may find a value misshapen -/

/-- A reading succeeds under a condition, and otherwise finds the value misshapen. -/
structure ReadsIf {α : Type} (P : Prop) (x : Except RecordFault α) : Prop where
  ok : P → ∃ a, x = .ok a
  error : ¬ P → x = .error .misshapen

namespace ReadsIf

variable {α β : Type} {P Q : Prop} {x : Except RecordFault α}

theorem of_ok {a : α} (h : x = .ok a) : ReadsIf True x :=
  ⟨fun _ => ⟨a, h⟩, fun hfalse => absurd trivial hfalse⟩

theorem of_error (h : x = .error .misshapen) : ReadsIf False x := ⟨False.elim, fun _ => h⟩

theorem congr (h : ReadsIf P x) (hPQ : P ↔ Q) : ReadsIf Q x := propext hPQ ▸ h

theorem map (h : ReadsIf P x) (f : α → β) : ReadsIf P (x.map f) := by
  constructor
  · intro hP
    obtain ⟨a, rfl⟩ := h.ok hP
    exact ⟨f a, rfl⟩
  · intro hP
    rw [h.error hP]
    rfl

/-- A traversal succeeds when each of its steps does. -/
theorem mapM {P : α → Prop} {f : α → Except RecordFault β} {l : List α}
    (h : ∀ a ∈ l, ReadsIf (P a) (f a)) : ReadsIf (∀ a ∈ l, P a) (l.mapM f) := by
  induction l with
  | nil => exact .congr (.of_ok rfl) (by simp)
  | cons a l ih =>
      obtain ⟨ha, hl⟩ := List.forall_mem_cons.mp h
      by_cases hP : P a
      · obtain ⟨b, hb⟩ := ha.ok hP
        rw [Traversal.mapM_cons_ok l hb]
        exact ((ih hl).map _).congr (by simp [hP])
      · rw [Traversal.mapM_cons_error l (ha.error hP)]
        exact .congr (.of_error rfl) (by simp [hP])

end ReadsIf

namespace Record

theorem readsIf_partOf (members : List (String × Json)) (p : Part) :
    ReadsIf ((members.lookup p.name).isSome ∨ p.default.isSome) (partOf members p) := by
  unfold partOf
  cases members.lookup p.name with
  | some value => exact .congr (.of_ok rfl) (by simp)
  | none =>
      cases p.default with
      | some value => exact .congr (.of_ok rfl) (by simp)
      | none => exact .congr (.of_error rfl) (by simp)

/-- An item is read just when it fits. -/
theorem readsIf_answerOf (parts : List Part) (item : Json) :
    ReadsIf (item.Fits parts) (answerOf parts item) := by
  cases item with
  | obj members =>
      rw [answerOf]
      split
      next hknown =>
        refine .congr ((ReadsIf.mapM fun p _ => readsIf_partOf members p).map Json.obj) ?_
        refine (and_iff_right ?_).symm
        simpa using hknown
      next hknown =>
        refine .congr (.of_error rfl) (iff_of_false id fun hfits => hknown ?_)
        simpa using hfits.1
  | _ => exact .of_error rfl

end Record

/-! ## Values that conform -/

/-- What an object that conforms has, and what its members conform to. -/
theorem conforms_object {names : List String} {rules : List (String × List Rule)} {j : Json}
    (h : Conforms [.type [.object], .required names, .properties rules] j) :
    ∃ members, j = .obj members ∧ (∀ name ∈ names, ∃ v, members.lookup name = some v) ∧
      ∀ entry ∈ rules, ∀ v, members.lookup entry.1 = some v → Conforms entry.2 v := by
  simp only [conforms_cons, check_type, List.mem_singleton, exists_eq_left] at h
  obtain ⟨hobject, hrequired, hmembers, -⟩ := h
  cases j with
  | obj members =>
      rw [check_required] at hrequired
      exact ⟨members, rfl, fun name hname => Option.isSome_iff_exists.mp (hrequired name hname),
        check_properties.mp hmembers⟩
  | _ => cases hobject

/-- A value that conforms where a list is wanted is one. -/
theorem conforms_array {rules : List Rule} {j : Json}
    (h : Conforms (.type [.array] :: rules) j) : ∃ items, j = .arr items := by
  simp only [conforms_cons, check_type, List.mem_singleton, exists_eq_left] at h
  cases j with
  | arr items => exact ⟨items, rfl⟩
  | _ => cases h.1

theorem eq_str_of_equals {s : String} {j : Json} (h : (Scalar.str s).equals j = true) :
    j = .str s := by
  cases j with
  | str t => exact congrArg Json.str (beq_iff_eq.mp h).symm
  | _ => cases h

namespace Record

theorem member_eq_ok {name : String} {members : List (String × Json)} {v : Json}
    (h : members.lookup name = some v) : member name (.obj members) = .ok v := by
  rw [member, h]

theorem embeddedAnswerOf_isOk {j : Json} (h : Conforms embeddedAnswerRules j) :
    ∃ r, embeddedAnswerOf j = .ok r := by
  obtain ⟨members, rfl, hnames, -⟩ := conforms_object h
  simp only [List.forall_mem_cons] at hnames
  obtain ⟨⟨text, htext⟩, ⟨correct, hcorrect⟩, -⟩ := hnames
  simp [embeddedAnswerOf, member_eq_ok htext, member_eq_ok hcorrect, bind, Except.bind, pure,
    Except.pure]

theorem embeddedKindOf_isOk {j : Json}
    (h : Conforms [.among (Cloze.Kind.all.map fun k => .str k.tag)] j) :
    embeddedKindOf j = .ok j := by
  rw [conforms_cons, check_among] at h
  obtain ⟨⟨v, hv, hequals⟩, -⟩ := h
  obtain ⟨kind, -, rfl⟩ := List.mem_map.mp hv
  rw [eq_str_of_equals hequals]
  cases kind <;> rfl

/-- Lists whose items conform are read item by item. -/
theorem mapM_itemsOf_isOk {rules : List Rule} {read : Json → Except RecordFault Json} {j : Json}
    (hread : ∀ item, Conforms rules item → ∃ r, read item = .ok r)
    (h : Conforms [.type [.array], .nonEmptyList, .items rules] j) :
    ∃ items rs, itemsOf j = .ok items ∧ items.mapM read = .ok rs := by
  obtain ⟨items, rfl⟩ := conforms_array h
  simp only [conforms_cons, check_items] at h
  obtain ⟨rs, hrs⟩ := Traversal.mapM_isOk_iff.mpr fun item hitem => hread item (h.2.2.1 item hitem)
  exact ⟨items, rs, rfl, hrs⟩

theorem subquestionOf_isOk {j : Json} (h : Conforms subquestionRules j) :
    ∃ r, subquestionOf j = .ok r := by
  obtain ⟨members, rfl, hnames, hmembers⟩ := conforms_object h
  simp only [List.forall_mem_cons] at hnames hmembers
  obtain ⟨⟨position, hposition⟩, ⟨kind, hkind⟩, ⟨weight, hweight⟩, ⟨answers, hanswers⟩, -⟩ :=
    hnames
  obtain ⟨-, hkinds, -, hlists, -⟩ := hmembers
  have hkindOf := embeddedKindOf_isOk (hkinds kind hkind)
  obtain ⟨items, rs, hitems, hrs⟩ := mapM_itemsOf_isOk (fun _ => embeddedAnswerOf_isOk)
    (hlists answers hanswers)
  simp [subquestionOf, member_eq_ok hposition, member_eq_ok hkind, member_eq_ok hweight,
    member_eq_ok hanswers, hkindOf, hitems, hrs, bind, Except.bind, pure, Except.pure]

/-- An object that conforms is read as a text with embedded questions. -/
theorem embeddedOf_isOk {members : List (String × Json)}
    (h : Conforms embeddedRules (.obj members)) : ∃ r, embeddedOf (.obj members) = .ok r := by
  rw [embeddedRules, conforms_cons, conforms_cons, conforms_cons, check_required,
    check_properties] at h
  simp only [List.forall_mem_cons, Option.isSome_iff_exists] at h
  obtain ⟨-, ⟨⟨text, htext⟩, ⟨subquestions, hsubquestions⟩, -⟩, ⟨-, hmembers, -⟩, -⟩ := h
  obtain ⟨items, rs, hitems, hrs⟩ := mapM_itemsOf_isOk (fun _ => subquestionOf_isOk)
    (hmembers subquestions hsubquestions)
  simp [embeddedOf, member_eq_ok htext, member_eq_ok hsubquestions, hitems, hrs, bind, Except.bind,
    pure, Except.pure]

/-- A value that conforms is read as the code of a format, as it is or as the integer that it
equals. -/
theorem formatOf_isOk {j : Json}
    (h : Conforms [.type [.integer], .among [.int 0, .int 1, .int 2]] j) :
    ∃ r, formatOf j = .ok r := by
  rw [conforms_cons, conforms_cons, check_among] at h
  obtain ⟨-, ⟨v, hv, hequals⟩, -⟩ := h
  have hcode : ∃ i, v = .int i ∧ (0 ≤ i && i ≤ 2) = true := by
    simp only [List.mem_cons, List.not_mem_nil, or_false] at hv
    rcases hv with rfl | rfl | rfl <;> exact ⟨_, rfl, by decide⟩
  obtain ⟨i, rfl, hi⟩ := hcode
  cases j with
  | int code =>
      obtain rfl : i = code := beq_iff_eq.mp hequals
      exact ⟨_, if_pos hi⟩
  | float x =>
      have hx : x.toInt? = some i := beq_iff_eq.mp hequals
      refine ⟨.int i, ?_⟩
      rw [formatOf]
      simp only [hx, hi, if_true]
  | _ => cases hequals

end Record

/-! ## Accepted records -/

/-- What the schema asks of the members of a record. -/
structure Accepted (members : List (String × Json)) : Prop where
  required : ∀ name ∈ requiredNames, ∃ v, members.lookup name = some v
  conforms : ∀ entry ∈ memberRules, ∀ v, members.lookup entry.1 = some v → Conforms entry.2 v
  kinds : Conforms kindRules (.obj members)

/-- A strict check applies the schema. -/
theorem accepted_of_validate {members : List (String × Json)}
    (h : validate true (.obj members) = .ok ()) : Accepted members := by
  have hviolation := (validate_obj true members).1.mp h
  have hviolations : violations recordRules (.obj members) = [] := by
    cases hv : violations recordRules (.obj members) with
    | nil => rfl
    | cons first others =>
        simp only [violation?, hv] at hviolation
        split_ifs at hviolation
  rw [violations_eq_nil_iff, recordRules, conforms_cons, conforms_cons, conforms_cons,
    check_required, check_properties] at hviolations
  obtain ⟨-, hrequired, hmembers, hkinds⟩ := hviolations
  exact ⟨fun name hname => Option.isSome_iff_exists.mp (hrequired name hname), hmembers, hkinds⟩

namespace Accepted

variable {members : List (String × Json)}

/-- An accepted record names a kind that can be stored. -/
theorem exists_kind (h : Accepted members) :
    ∃ kind : Kind, kind ≠ .unknown ∧ members.lookup "kind" = some (.str kind.tag) := by
  obtain ⟨v, hv⟩ := h.required "kind" (by decide)
  have hrules := h.conforms ("kind", [.type [.string], .among storedTags]) (.tail _ (.head _)) v hv
  rw [conforms_cons, conforms_cons, check_among] at hrules
  obtain ⟨-, ⟨tag, htag, hequals⟩, -⟩ := hrules
  obtain ⟨kind, hkind, rfl⟩ := List.mem_map.mp htag
  refine ⟨kind, by simpa using (List.mem_filter.mp hkind).2, ?_⟩
  rw [hv, eq_str_of_equals hequals]

/-- The member for a text with embedded questions is an object where the kind has one. -/
theorem exists_embedded (h : Accepted members)
    (hkind : members.lookup "kind" = some (.str Kind.multianswer.tag)) :
    ∃ fields, members.lookup "embedded" = some (.obj fields) ∧
      Conforms embeddedRules (.obj fields) := by
  have hkinds := h.kinds
  rw [kindRules, conforms_cons, conforms_cons, conforms_cons, check_whenMember hkind,
    check_whenMember hkind, check_whenMember hkind] at hkinds
  have hpresent := hkinds.2.2.1 ⟨_, .head _, by decide⟩
  rw [presentRules, conforms_cons, conforms_cons, check_required, check_properties] at hpresent
  simp only [List.forall_mem_cons, Option.isSome_iff_exists] at hpresent
  obtain ⟨⟨⟨v, hv⟩, -⟩, ⟨hobject, -⟩, -⟩ := hpresent
  have htype := hobject v hv
  simp only [conforms_cons, check_type, List.mem_singleton, exists_eq_left] at htype
  cases v with
  | obj fields =>
      have hrules : ("embedded", embeddedRules) ∈ memberRules := by simp [memberRules]
      exact ⟨fields, hv, h.conforms _ hrules _ hv⟩
  | _ => cases htype.1

end Accepted

/-! ## Fields of accepted records -/

/-- Most fields may be anything; the others are known by their names. -/
theorem Kind.form_cases {kind : Kind} {f : Field} (hf : f ∈ kind.fields) :
    f.form = .any ∨ f.name = "question_text_format" ∧ f.form = .format ∨
      (∃ parts, f.form = .answers parts) ∧ (f.name = "answers" ∨ f.name = "subquestions") ∨
      (f.name = "embedded" ∧ f.form = .embedded) ∧ kind = .multianswer := by
  revert f
  cases kind <;> simp [Kind.fields, headerFields, Kind.ownFields, answersField]

/-- Only the name of a question has no default. -/
theorem Kind.default_isSome {kind : Kind} {f : Field} (hf : f ∈ kind.fields) :
    f.default.isSome ∨ f.name = "name" := by
  revert f
  cases kind <;> simp [Kind.fields, headerFields, Kind.ownFields, answersField]

namespace Accepted

variable {members : List (String × Json)} {kind : Kind}

/-- A list of an accepted record is a list. -/
theorem exists_items (h : Accepted members) {name : String}
    (hname : name = "answers" ∨ name = "subquestions") {v : Json}
    (hv : members.lookup name = some v) : ∃ items, v = .arr items := by
  rcases hname with rfl | rfl
  · exact conforms_array
      (h.conforms ("answers", [.type [.array], .items answerRules]) (by simp [memberRules]) v hv)
  · exact conforms_array
      (h.conforms ("subquestions", [.type [.array], .items pairRules]) (by simp [memberRules]) v hv)

/-- The value of a field of an accepted record is read just when its items fit. -/
theorem readsIf_inForm (h : Accepted members)
    (hkind : members.lookup "kind" = some (.str kind.tag)) {f : Field} (hf : f ∈ kind.fields)
    {v : Json} (hv : members.lookup f.name = some v) :
    ReadsIf (f.form.Fits (some v)) (Record.inForm v f.form) := by
  have hform := Kind.form_cases hf
  obtain ⟨name, form, default⟩ := f
  dsimp only at hform hv
  rcases hform with rfl | ⟨rfl, rfl⟩ | ⟨⟨parts, rfl⟩, hname⟩ | ⟨⟨rfl, rfl⟩, rfl⟩
  · exact .of_ok rfl
  · obtain ⟨r, hr⟩ := Record.formatOf_isOk
      (h.conforms ("question_text_format", _) (by simp [memberRules]) v hv)
    exact .of_ok hr
  · obtain ⟨items, rfl⟩ := h.exists_items hname hv
    exact (ReadsIf.mapM fun item _ => Record.readsIf_answerOf parts item).map Json.arr
  · obtain ⟨fields, hfields, hconforms⟩ := h.exists_embedded hkind
    obtain rfl := Option.some.inj (hfields.symm.trans hv)
    obtain ⟨r, hr⟩ := Record.embeddedOf_isOk hconforms
    exact .of_ok hr

/-- A field of an accepted record is read just when its items fit. -/
theorem readsIf_fieldOf (h : Accepted members)
    (hkind : members.lookup "kind" = some (.str kind.tag)) {f : Field} (hf : f ∈ kind.fields) :
    ReadsIf (f.form.Fits (members.lookup f.name)) (Record.fieldOf members f) := by
  unfold Record.fieldOf
  cases hv : members.lookup f.name with
  | none => exact .congr (.of_ok rfl) (by simp [FieldForm.Fits])
  | some v => exact (h.readsIf_inForm hkind hf hv).map _

theorem isSome_of_fieldOf (h : Accepted members) {f : Field} (hf : f ∈ kind.fields)
    {found : Option (String × Json)} (hfound : Record.fieldOf members f = .ok found) :
    found.isSome := by
  unfold Record.fieldOf at hfound
  split at hfound
  · obtain ⟨value, -, rfl⟩ := Traversal.map_eq_ok_iff.mp hfound
    rfl
  next hnone =>
    cases hfound
    rcases Kind.default_isSome hf with hdefault | hname
    · simpa using hdefault
    · obtain ⟨v, hv⟩ := h.required "name" (by decide)
      rw [hname, hv] at hnone
      cases hnone

/-- An accepted record is read just when its items fit. -/
theorem readsIf_ofMembers (h : Accepted members)
    (hkind : members.lookup "kind" = some (.str kind.tag)) :
    ReadsIf (kind.ItemsFit members) (Record.ofMembers kind members) := by
  have hfields : ReadsIf (kind.ItemsFit members) (kind.fields.mapM (Record.fieldOf members)) :=
    .mapM fun f hf => h.readsIf_fieldOf hkind hf
  unfold Record.ofMembers
  constructor
  · intro hfits
    obtain ⟨found, hfound⟩ := hfields.ok hfits
    have hall : found.all Option.isSome = true := by
      rw [List.all_eq_true]
      intro value hvalue
      obtain ⟨f, hf, hread⟩ := Traversal.exists_of_mem_mapM hfound hvalue
      exact h.isSome_of_fieldOf hf hread
    rw [hfound]
    exact ⟨⟨kind, found.filterMap id⟩, if_pos hall⟩
  · intro hfits
    rw [hfields.error hfits]
    rfl

end Accepted

theorem Record.kind_of_ofMembers {kind : Kind} {members : List (String × Json)} {r : Record}
    (h : ofMembers kind members = .ok r) : r.kind = kind := by
  obtain ⟨found, -, hfound⟩ := Traversal.bind_eq_ok_iff.mp h
  split at hfound
  · cases hfound
    rfl
  · cases hfound

/-- **An accepted record is read unless an item of a list does not fit.** What a strict check
accepts names a kind that can be stored. It is read as a record of this kind if its items have
the parts of their list and no others, and otherwise it is found misshapen. -/
theorem ofStored_accepted {members : List (String × Json)}
    (h : validate true (.obj members) = .ok ()) :
    ∃ kind : Kind, kind ≠ .unknown ∧ members.lookup "kind" = some (.str kind.tag) ∧
      (kind.ItemsFit members →
        ∃ r, Record.ofStored true (.obj members) = .ok r ∧ r.kind = kind) ∧
      (¬ kind.ItemsFit members → Record.ofStored true (.obj members) = .error .misshapen) := by
  have haccepted := accepted_of_validate h
  obtain ⟨kind, hstored, hkind⟩ := haccepted.exists_kind
  have hread : Record.ofStored true (.obj members) = Record.ofMembers kind members := by
    simp only [Record.ofStored, h, Record.ofJson, hkind, Option.getD_some, Record.ofTag?_tag]
    rfl
  obtain ⟨hok, herror⟩ := haccepted.readsIf_ofMembers hkind
  rw [hread]
  refine ⟨kind, hstored, hkind, fun hfits => ?_, herror⟩
  obtain ⟨r, hr⟩ := hok hfits
  exact ⟨r, hr, Record.kind_of_ofMembers hr⟩

/-! ## A member too many -/

/-- The members of the record of a question with one choice. -/
def choiceMembers (choice : Json) : List (String × Json) :=
  [("schema_version", .int 1), ("kind", .str "multichoice"), ("name", .str "x"),
   ("answers", .arr [choice])]

/-- A choice as it is stored. -/
def plainChoice : Json :=
  .obj [("text", .str "a"), ("fraction", .float .one), ("feedback", .str "")]

/-- The same choice with a number of its own. -/
def numberedChoice : Json :=
  .obj [("text", .str "a"), ("fraction", .float .one), ("feedback", .str ""), ("id", .int 7)]

theorem validate_plainChoice : validate true (.obj (choiceMembers plainChoice)) = .ok () :=
  (validate_obj true _).1.mpr (Option.isNone_iff_eq_none.mp (by decide +kernel))

theorem validate_numberedChoice : validate true (.obj (choiceMembers numberedChoice)) = .ok () :=
  (validate_obj true _).1.mpr (Option.isNone_iff_eq_none.mp (by decide +kernel))

theorem ofStored_accepted_choice :
    validate true (.obj (choiceMembers plainChoice)) = .ok () ∧
    ∃ r, Record.ofStored true (.obj (choiceMembers plainChoice)) = .ok r ∧
      r.kind = .multichoice := by
  obtain ⟨kind, -, hkind, hok, -⟩ := ofStored_accepted validate_plainChoice
  have htag : (Json.str "multichoice") = .str kind.tag := Option.some.inj hkind
  obtain rfl : kind = .multichoice := by
    cases kind <;> first | rfl | exact absurd (Json.str.inj htag) (by decide)
  exact ⟨validate_plainChoice, hok (by decide +kernel)⟩

/-- **Not every accepted record is read.** A choice may have any members besides its share for
the check, but not for reading. -/
theorem not_forall_ofStored :
    ¬ ∀ members, validate true (.obj members) = .ok () →
      ∃ r, Record.ofStored true (.obj members) = .ok r := by
  intro h
  obtain ⟨r, hr⟩ := h _ validate_numberedChoice
  have hread : Record.ofJson (.obj (choiceMembers numberedChoice)) = .error .misshapen := rfl
  rw [Record.ofStored, validate_numberedChoice] at hr
  cases hread.symm.trans hr

end QuestionBank
