import QuestionBank.Markup.Clean
import QuestionBank.Proofs.Markup.Name
import QuestionBank.Proofs.Markup.Reference

/-!
# Tags that are written again

A tag is written with its name, its attributes and a closing bracket. A reader that
comes upon it reads the same tag, unless an attribute without a value stands before one
whose name begins with an equals sign; then the sign may take what follows for the value.
-/

namespace QuestionBank.Markup

open QuestionBank.Text

/-! ## Written tags -/

/-- The end of a tag. -/
def closing (closesItself : Bool) : List Char := if closesItself then [' ', '/', '>'] else ['>']

/-- The end of a tag after its gap. -/
def shut (closesItself : Bool) : List Char := if closesItself then ['/', '>'] else ['>']

/-- The value of an attribute in a tag. -/
def valueChars (a : Attribute) : List Char :=
  match a.value with
  | none => []
  | some value => '=' :: '"' :: (encode value ++ ['"'])

/-- Attributes in a tag, and what comes after them. -/
def written (attrs : List Attribute) (t : List Char) : List Char :=
  attrs.flatMap attributeChars ++ t

/-- Attributes in a tag without the blank before them. -/
def opened (attrs : List Attribute) (closesItself : Bool) (t : List Char) : List Char :=
  match attrs with
  | [] => shut closesItself ++ t
  | a :: attrs => a.name ++ (valueChars a ++ written attrs (closing closesItself ++ t))

/-- Tells whether an attribute without a value stands before one whose name begins with an
equals sign. -/
def isLoose : List Attribute → Bool
  | a :: b :: attrs => (a.value.isNone && b.name.head? == some '=') || isLoose (b :: attrs)
  | _ => false

/-- An attribute as a reader takes it from a tag, before references are replaced. -/
def Attribute.raw (a : Attribute) : Attribute := { a with value := a.value.map encode }

variable {attrs : List Attribute} {closesItself : Bool} {t : List Char}

theorem decoded_raw (a : Attribute) : a.raw.decoded = .ok a := by
  obtain ⟨name, value⟩ := a
  cases value with
  | none => rfl
  | some value =>
      unfold Attribute.raw Attribute.decoded
      simp [decodeText_encode, Except.map]

/-! ## Gaps -/

theorem gapSize_of_not_blank {c : Char} {r : List Char} (h : (isBlank c || c == '/') = false) :
    gapSize (c :: r) = 0 := by
  simp only [Bool.or_eq_false_iff, beq_eq_false_iff_ne] at h
  simp [gapSize, h]

theorem attributeChars_eq (a : Attribute) : attributeChars a = ' ' :: (a.name ++ valueChars a) := by
  cases hvalue : a.value <;> simp [attributeChars, valueChars, hvalue]

theorem gapSize_opened (hattrs : ∀ a ∈ attrs, AttributeName a.name) :
    gapSize (opened attrs closesItself t) = 0 := by
  cases attrs with
  | nil => cases closesItself <;> simp [opened, shut, gapSize, isBlank]
  | cons a attrs =>
      obtain ⟨c, r, hname, hc, -⟩ := (hattrs a (.head _)).chars
      rw [opened, hname]
      exact gapSize_of_not_blank (Bool.or_eq_false_iff.mp hc).1

theorem gapSize_blank (hattrs : ∀ a ∈ attrs, AttributeName a.name) :
    gapSize (' ' :: opened attrs closesItself t) = 1 := by
  rw [gapSize, gapSize_opened hattrs]
  rfl

/-- Before what is opened, there is a blank or nothing. -/
theorem written_eq (attrs : List Attribute) (closesItself : Bool) (t : List Char) :
    written attrs (closing closesItself ++ t) = ' ' :: opened attrs closesItself t ∨
      attrs = [] ∧ written attrs (closing closesItself ++ t) = opened attrs closesItself t := by
  cases attrs with
  | nil =>
      cases closesItself with
      | true => exact .inl rfl
      | false => exact .inr ⟨rfl, rfl⟩
  | cons a attrs =>
      left
      rw [written, List.flatMap_cons, attributeChars_eq]
      simp [opened, written]

/-- The gap before attributes is the blank before them. -/
theorem drop_gapSize_written (hattrs : ∀ a ∈ attrs, AttributeName a.name) :
    (written attrs (closing closesItself ++ t)).drop
      (gapSize (written attrs (closing closesItself ++ t))) = opened attrs closesItself t := by
  rcases written_eq attrs closesItself t with h | ⟨-, h⟩
  · rw [h, gapSize_blank hattrs]
    rfl
  · rw [h, gapSize_opened hattrs]
    rfl

/-! ## Values -/

theorem value?_eq_none {s : List Char} (h : (s.dropWhile isBlank).head? ≠ some '=') :
    value? s = none := by
  have hsigns : ((s.drop (s.takeWhile isBlank).length).takeWhile (· == '=')).length = 0 := by
    rw [drop_length_takeWhile]
    cases hs : s.dropWhile isBlank with
    | nil => rfl
    | cons c r =>
        rw [hs, List.head?_cons] at h
        rw [List.takeWhile_cons_of_neg (by simpa using h)]
        rfl
  unfold value?
  dsimp only
  rw [if_pos hsigns]

theorem value?_quoted {v : List Char} (hv : '"' ∉ v) (r : List Char) :
    value? ('=' :: '"' :: (v ++ '"' :: r)) = some (v, v.length + 3) := by
  have hbody : (v ++ '"' :: r).takeWhile (· != '"') = v := by
    refine takeWhile_append_stop (fun c hc => ?_) (by decide) r
    rw [bne_iff_ne]
    rintro rfl
    exact hv hc
  have hquoted : quotedValue? '"' (v ++ '"' :: r) = some v := by
    rw [quotedValue?, hbody]
    simp
  unfold value?
  have hbefore : ('=' :: '"' :: (v ++ '"' :: r)).takeWhile isBlank = [] := rfl
  have hsigns : ('=' :: '"' :: (v ++ '"' :: r)).takeWhile (· == '=') = ['='] := rfl
  have hafter : ('"' :: (v ++ '"' :: r)).takeWhile isBlank = [] := rfl
  simp only [hbefore, hsigns, hafter, List.length_nil, List.drop_zero, List.length_singleton,
    List.drop_succ_cons]
  simp [hquoted]
  omega

theorem value?_valueChars (a : Attribute) (s : List Char)
    (hs : a.value = none → (s.dropWhile isBlank).head? ≠ some '=') :
    (value? (valueChars a ++ s)).map Prod.fst = a.raw.value ∧
      ((value? (valueChars a ++ s)).map Prod.snd).getD 0 = (valueChars a).length := by
  unfold valueChars Attribute.raw
  cases hvalue : a.value with
  | none =>
      dsimp only
      rw [List.nil_append, value?_eq_none (hs hvalue)]
      exact ⟨rfl, rfl⟩
  | some v =>
      have hquoted := value?_quoted (notMem_encode (s := v) (by decide)) s
      simp only [List.cons_append, List.append_assoc, List.nil_append, hquoted]
      exact ⟨rfl, by simp⟩

/-! ## Attributes -/

/-- What comes after a gap begins with an equals sign only if the name of the first
attribute does. -/
theorem opened_eq_cons (hattrs : ∀ a ∈ attrs, AttributeName a.name) (closesItself : Bool)
    (t : List Char) :
    ∃ c r, opened attrs closesItself t = c :: r ∧ isBlank c = false ∧
      (c = '=' → ∃ b ∈ attrs.head?, b.name.head? = some '=') := by
  cases attrs with
  | nil => cases closesItself <;> exact ⟨_, _, rfl, rfl, nofun⟩
  | cons b attrs =>
      obtain ⟨c, r, hname, hc, -⟩ := (hattrs b (.head _)).chars
      refine ⟨c, _, by rw [opened, hname]; rfl, ?_, fun he => ⟨b, rfl, by rw [hname, he]; rfl⟩⟩
      simp only [Bool.or_eq_false_iff] at hc
      exact hc.1.1

/-- What follows an attribute without a value does not begin with an equals sign. -/
theorem head?_written (hattrs : ∀ a ∈ attrs, AttributeName a.name)
    (hloose : ∀ b ∈ attrs.head?, b.name.head? ≠ some '=') :
    ((written attrs (closing closesItself ++ t)).dropWhile isBlank).head? ≠ some '=' := by
  obtain ⟨c, r, hopened, hblank, hequals⟩ :=
    opened_eq_cons hattrs closesItself t
  have hdrop : (opened attrs closesItself t).dropWhile isBlank = c :: r := by
    rw [hopened, List.dropWhile_cons_of_neg (by simp [hblank])]
  have hwritten : (written attrs (closing closesItself ++ t)).dropWhile isBlank = c :: r := by
    rcases written_eq attrs closesItself t with h | ⟨-, h⟩
    · rw [h, List.dropWhile_cons_of_pos (by decide), hdrop]
    · rw [h, hdrop]
  rw [hwritten, List.head?_cons]
  intro hc
  obtain ⟨b, hb, hname⟩ := hequals (Option.some.inj hc)
  exact hloose b hb hname

/-- The name of an attribute ends before its value. -/
theorem valueChars_eq_cons (a : Attribute) (attrs : List Attribute) (closesItself : Bool)
    (t : List Char) :
    ∃ d s, valueChars a ++ written attrs (closing closesItself ++ t) = d :: s ∧
      isAttributeNameChar d = false := by
  unfold valueChars
  split
  · rcases written_eq attrs closesItself t with h | ⟨hnil, h⟩
    · exact ⟨_, _, h, by decide⟩
    · subst hnil
      cases closesItself with
      | true => exact ⟨_, _, rfl, by decide⟩
      | false => exact ⟨_, _, rfl, by decide⟩
  · exact ⟨_, _, rfl, by decide⟩

theorem getLastD_take {c d e : Char} {r s : List Char} {k : Nat} (h : r.drop k = d :: s) :
    (c :: r.take (k + 1)).getLastD e = d := by
  have htake : r.take (k + 1) = r.take k ++ [d] := by
    rw [List.take_add, h]
    rfl
  rw [htake, ← List.cons_append, List.getLastD_concat]

/-- A reader that has come to the gap before attributes finds them behind it, and a blank
before them. -/
theorem gap_written (hattrs : ∀ a ∈ attrs, AttributeName a.name) {s : List Char} {k : Nat}
    (h : s.drop k = written attrs (closing closesItself ++ t)) :
    s.drop (k + gapSize (written attrs (closing closesItself ++ t))) =
        opened attrs closesItself t ∧
      (attrs ≠ [] → ∀ c : Char, endsWord ((c :: s.take
        (k + gapSize (written attrs (closing closesItself ++ t)))).getLastD c) = true) := by
  refine ⟨by rw [← List.drop_drop, h, drop_gapSize_written hattrs], fun hne c => ?_⟩
  rcases written_eq attrs closesItself t with hw | ⟨hnil, -⟩
  · rw [hw, gapSize_blank hattrs, getLastD_take (h.trans hw)]
    rfl
  · exact absurd hnil hne

/-- No attribute begins at a sign that cannot begin one, or inside a word. -/
theorem attributes_stop {last c : Char} {r : List Char}
    (h : (endsWord last && !(isBlank c || c == '/' || c == '>')) = false) :
    attributes last (c :: r) = ([], 0) := by
  rw [attributes.eq_def]
  simp only [h]
  rfl

/-- An attribute is read up to the next one. -/
theorem attributes_cons {last c : Char} {r : List Char}
    (h : (endsWord last && !(isBlank c || c == '/' || c == '>')) = true) :
    attributes last (c :: r) =
      let rest := r.takeWhile isAttributeNameChar
      let value := value? (r.drop rest.length)
      let size := rest.length + (value.map Prod.snd).getD 0
      let size := size + gapSize (r.drop size)
      let (others, n) := attributes ((c :: r.take size).getLastD c) (r.drop size)
      (⟨lower (c :: rest), value.map Prod.fst⟩ :: others, size + 1 + n) := by
  rw [attributes.eq_def]
  simp only [h, if_true]

theorem isLoose_cons {a : Attribute} (h : isLoose (a :: attrs) = false) :
    isLoose attrs = false ∧ (a.value = none → ∀ b ∈ attrs.head?, b.name.head? ≠ some '=') := by
  cases attrs with
  | nil => exact ⟨rfl, nofun⟩
  | cons b attrs =>
      rw [isLoose, Bool.or_eq_false_iff] at h
      refine ⟨h.2, fun hnone b' hb' => ?_⟩
      cases hb'
      simpa [hnone] using h.1

/-- The attributes of a written tag are read back. -/
theorem attributes_opened (closesItself : Bool) (t : List Char)
    (hattrs : ∀ a ∈ attrs, AttributeName a.name) (hloose : isLoose attrs = false) {last : Char}
    (hlast : attrs ≠ [] → endsWord last = true) :
    ∃ n, attributes last (opened attrs closesItself t) = (attrs.map Attribute.raw, n) ∧
      (opened attrs closesItself t).drop n = shut closesItself ++ t := by
  induction attrs generalizing last with
  | nil =>
      have hstop : attributes last (shut closesItself ++ t) = ([], 0) := by
        cases closesItself <;> exact attributes_stop (by simp)
      exact ⟨0, hstop, rfl⟩
  | cons a attrs ih =>
      obtain ⟨c, r, hname, hc, hr⟩ := (hattrs a (.head _)).chars
      have hlowered := (hattrs a (.head _)).lowered
      have hattrs' : ∀ b ∈ attrs, AttributeName b.name := fun b hb => hattrs b (.tail _ hb)
      obtain ⟨hloose', hnext⟩ := isLoose_cons hloose
      have hbegins : (endsWord last && !(isBlank c || c == '/' || c == '>')) = true := by
        rw [hlast nofun, hc]
        rfl
      obtain ⟨d, s, hd, hstop⟩ := valueChars_eq_cons a attrs closesItself t
      have hrest : (r ++ (valueChars a ++ written attrs (closing closesItself ++ t))).takeWhile
          isAttributeNameChar = r := by
        rw [hd]
        exact takeWhile_append_stop hr hstop s
      obtain ⟨hvalue, hsize⟩ := value?_valueChars a (written attrs (closing closesItself ++ t))
        fun hnone => head?_written hattrs' (hnext hnone)
      -- The gap after the value is the blank before the next attribute.
      generalize hk : r.length + (valueChars a).length = k
      have hdrop : (r ++ (valueChars a ++ written attrs (closing closesItself ++ t))).drop k =
          written attrs (closing closesItself ++ t) := by
        rw [← hk, ← List.append_assoc, ← List.length_append, List.drop_left]
      rw [opened, hname, List.cons_append, attributes_cons hbegins]
      simp only [hrest, List.drop_left, hvalue, hsize, hk, hdrop]
      generalize r ++ (valueChars a ++ written attrs (closing closesItself ++ t)) = s' at hdrop ⊢
      obtain ⟨hopened, hlast'⟩ := gap_written hattrs' hdrop
      generalize gapSize (written attrs (closing closesItself ++ t)) = g at hopened hlast' ⊢
      obtain ⟨n, hn, hshut⟩ := ih hattrs' hloose' fun hne => hlast' hne c
      rw [hopened, hn]
      refine ⟨k + g + 1 + n, ?_, ?_⟩
      · rw [← hname, hlowered]
        rfl
      · rw [show k + g + 1 + n = (k + g + n) + 1 by omega, List.drop_succ_cons, ← List.drop_drop,
          hopened, hshut]

/-! ## Tags -/

/-- **A tag that is written is read back** if none of its equals signs is loose, and the reader
goes on behind it. -/
theorem startTag_written {c : Char} {r : List Char} (hname : TagName (c :: r))
    (hattrs : ∀ a ∈ attrs, AttributeName a.name) (hloose : isLoose attrs = false) :
    ∃ size, startTag c (r ++ written attrs (closing closesItself ++ t)) =
        .complete (c :: r) (attrs.map Attribute.raw) closesItself size ∧
      (c :: (r ++ written attrs (closing closesItself ++ t))).drop size = t := by
  have hrest : (r ++ written attrs (closing closesItself ++ t)).takeWhile isTagNameChar = r := by
    have hr : ∀ d ∈ r, isTagNameChar d = true := fun d hd => hname.chars d (.tail _ hd)
    rcases written_eq attrs closesItself t with h | ⟨hnil, h⟩
    · rw [h]
      exact takeWhile_append_stop hr (by decide) _
    · subst hnil
      cases closesItself with
      | true => exact takeWhile_append_stop hr (by decide) _
      | false => exact takeWhile_append_stop hr (by decide) _
  unfold startTag
  simp only [hrest, List.drop_left, hname.lowered]
  have hdrop : (r ++ written attrs (closing closesItself ++ t)).drop r.length =
      written attrs (closing closesItself ++ t) := List.drop_left
  obtain ⟨hopened, hlast⟩ := gap_written hattrs hdrop
  generalize r ++ written attrs (closing closesItself ++ t) = s at hopened hlast ⊢
  generalize gapSize (written attrs (closing closesItself ++ t)) = g at hopened hlast ⊢
  obtain ⟨n, hn, hshut⟩ := attributes_opened closesItself t hattrs hloose fun hne => hlast hne c
  have hend : s.drop (r.length + g + n) = shut closesItself ++ t := by
    rw [← List.drop_drop, hopened, hshut]
  simp only [hopened, hn, hend]
  cases closesItself with
  | true =>
      refine ⟨_, rfl, ?_⟩
      rw [List.drop_succ_cons, ← List.drop_drop, hend]
      rfl
  | false =>
      refine ⟨_, rfl, ?_⟩
      rw [List.drop_succ_cons, ← List.drop_drop, hend]
      rfl

end QuestionBank.Markup
