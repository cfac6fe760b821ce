import QuestionBank.Proofs.Markup.Scan
import QuestionBank.Proofs.Text.Lower
import Mathlib.Data.List.TakeWhile

/-!
# Names in markup

The names of tags and attributes that a reader reports are in lower case and hold no
sign that would end them, so they can be written into a tag again.
-/

namespace QuestionBank.Markup

open QuestionBank.Text

/-! ## Names of tags -/

/-- A name that a tag can have. -/
structure TagName (name : List Char) : Prop where
  letter : ∃ c r, name = c :: r ∧ c.isAlpha = true
  chars : ∀ c ∈ name, isTagNameChar c = true
  lowered : lower name = name

/-- The characters that end the name of a tag. -/
def tagNameEnds : List Char := ['\t', '\n', '\r', '\x0c', ' ', '/', '>', '\x00']

theorem isTagNameChar_of_notMem {c : Char} (h : c ∉ tagNameEnds) : isTagNameChar c = true := by
  simpa [isTagNameChar, tagNameEnds, and_assoc] using h

theorem isTagNameChar_of_letter {c : Char} (h : 0x61 ≤ c.toNat) : isTagNameChar c = true := by
  have hends : ∀ d ∈ tagNameEnds, d.toNat < 0x61 := by decide
  exact isTagNameChar_of_notMem fun hmem => absurd (hends c hmem) (by omega)

theorem isAlpha_toLower {c : Char} (h : c.isAlpha = true) : c.toLower.isAlpha = true :=
  of_ascii (P := fun c => c.isAlpha = true → c.toLower.isAlpha = true) (by decide +kernel)
    (toNat_of_isAlpha h).2 h

theorem isTagNameChar_of_isEndNameChar {c : Char} (h : isEndNameChar c = true) :
    isTagNameChar c = true := by
  have hends : ∀ d ∈ tagNameEnds, isEndNameChar d = false := by decide
  exact isTagNameChar_of_notMem fun hmem => absurd h (by simp [hends c hmem])

theorem isTagNameChar_of_isAlpha {c : Char} (h : c.isAlpha = true) : isTagNameChar c = true := by
  have hends : ∀ d ∈ tagNameEnds, d.isAlpha = false := by decide
  exact isTagNameChar_of_notMem fun hmem => absurd h (by simp [hends c hmem])

/-- A name that begins with a letter and is read up to a sign that ends it is one that a
tag can have, in lower case. -/
theorem tagName_lower {c : Char} {r : List Char} (hc : c.isAlpha = true)
    (hr : ∀ d ∈ r, isTagNameChar d = true) : TagName (lower (c :: r)) := by
  refine ⟨⟨c.toLower, lowerFrom [c] r, ?_, isAlpha_toLower hc⟩, fun d hd => ?_, lower_lower _⟩
  · rw [lower_cons, lowerChar, if_pos (toNat_of_isAlpha hc).2]
    rfl
  · rcases mem_lower hd with hd | hd
    · rcases List.mem_cons.mp hd with rfl | hd
      · exact isTagNameChar_of_isAlpha hc
      · exact hr d hd
    · exact isTagNameChar_of_letter hd.letter

/-! ## Names of attributes -/

/-- A name that an attribute can have. Only at its beginning may an equals sign stand. -/
structure AttributeName (name : List Char) : Prop where
  chars : ∃ c r, name = c :: r ∧ (isBlank c || c == '/' || c == '>') = false ∧
    ∀ d ∈ r, isAttributeNameChar d = true
  lowered : lower name = name

theorem isAttributeNameChar_of_settled {c : Char} (h : Settled c) :
    isAttributeNameChar c = true := by
  have hletter := h.letter
  by_contra hc
  simp only [isAttributeNameChar, Bool.not_eq_true, Bool.not_eq_false', Bool.or_eq_true, beq_iff_eq,
    h.blank, Bool.false_eq_true, false_or] at hc
  rcases hc with (rfl | rfl) | rfl <;> exact absurd hletter (by decide)

theorem attributeName_lower {c : Char} {r : List Char}
    (hc : (isBlank c || c == '/' || c == '>') = false)
    (hr : ∀ d ∈ r, isAttributeNameChar d = true) : AttributeName (lower (c :: r)) := by
  obtain ⟨d, ds, hd, hcase, hds⟩ := lowerChar_eq_cons [] r c
  have hlower : lower (c :: r) = d :: (ds ++ lowerFrom [c] r) := by
    rw [lower_cons, hd]
    rfl
  refine ⟨⟨d, ds ++ lowerFrom [c] r, hlower, ?_, fun e he => ?_⟩, lower_lower _⟩
  · rcases hcase with rfl | hsettled
    · exact hc
    · have := isAttributeNameChar_of_settled hsettled
      simp only [isAttributeNameChar, Bool.not_eq_true', Bool.or_eq_false_iff] at this ⊢
      exact ⟨this.1.1, this.2⟩
  · rcases List.mem_append.mp he with he | he
    · exact isAttributeNameChar_of_settled (hds e he)
    · exact (mem_lowerFrom he).2.elim (hr e) isAttributeNameChar_of_settled

/-- Each attribute that is read has a name. -/
theorem attributeName_of_mem {last : Char} {s : List Char} {a : Attribute}
    (h : a ∈ (attributes last s).1) : AttributeName a.name := by
  fun_induction attributes last s with
  | case1 => cases h
  | case2 last c r hbegins rest value size₀ size others n hothers ih =>
      rcases List.mem_cons.mp h with rfl | h
      · have hc : (isBlank c || c == '/' || c == '>') = false := by
          simpa using (Bool.and_eq_true_iff.mp hbegins).2
        exact attributeName_lower hc fun d hd => List.mem_takeWhile_imp hd
      · exact ih (by rwa [hothers])
  | case3 => cases h

/-! ## Tags that are read -/

theorem name_of_decoded {a a' : Attribute} (h : a.decoded = .ok a') : a'.name = a.name := by
  unfold Attribute.decoded at h
  split at h
  · cases h
    rfl
  · obtain ⟨value, -, rfl⟩ := Traversal.map_eq_ok_iff.mp h
    rfl

theorem attributeName_of_decoded {attrs attrs' : List Attribute}
    (hattrs : ∀ a ∈ attrs, AttributeName a.name) (h : attrs.mapM Attribute.decoded = .ok attrs') :
    ∀ a ∈ attrs', AttributeName a.name := by
  intro a' ha'
  obtain ⟨a, ha, hdecoded⟩ := Traversal.exists_of_mem_mapM h ha'
  rw [name_of_decoded hdecoded]
  exact hattrs a ha

theorem startTag_complete {c : Char} {r name : List Char} {attrs : List Attribute}
    {closesItself : Bool} {size : Nat} (hc : c.isAlpha = true)
    (h : startTag c r = .complete name attrs closesItself size) :
    TagName name ∧ ∀ a ∈ attrs, AttributeName a.name := by
  have hname : TagName (lower (c :: r.takeWhile isTagNameChar)) :=
    tagName_lower hc fun d hd => List.mem_takeWhile_imp hd
  unfold startTag at h
  dsimp only at h
  split at h
  · cases h
    exact ⟨hname, fun a ha => attributeName_of_mem ha⟩
  · cases h
    exact ⟨hname, fun a ha => attributeName_of_mem ha⟩
  · cases h
  · split at h <;> cases h

/-! ## Tokens -/

/-- A token at a letter is a tag that is read whole, or the text of one that is broken off. -/
theorem startConstruct_eq_token {c : Char} {r : List Char} {t : Token} {size : Nat}
    (h : startConstruct c r = .token t size) :
    (∃ name attrs attrs' closesItself, startTag c r = .complete name attrs closesItself size ∧
      attrs.mapM Attribute.decoded = .ok attrs' ∧
      t = if closesItself then .emptyTag name attrs' else .openTag name attrs') ∨
    (∃ attrs s, startTag c r = .malformed attrs size ∧ t = .text s) := by
  unfold startConstruct at h
  split at h
  next hstart =>
    split at h
    · cases h
    next hdecoded =>
      cases h
      exact .inl ⟨_, _, _, _, hstart, hdecoded, rfl⟩
  next hstart =>
    split at h <;> cases h
    exact .inr ⟨_, _, hstart, rfl⟩
  next => cases h

theorem endConstruct_eq_token {s : List Char} {t : Token} {size : Nat}
    (h : endConstruct s = .token t size) :
    ∃ name n, endName? s = some name ∧ sizeThroughBracket? s = some n ∧ t = .endTag name ∧
      size = n + 1 := by
  unfold endConstruct at h
  split at h
  · cases h
  next n hn =>
    split at h
    next name hname =>
      cases h
      exact ⟨name, n, hname, hn, rfl, rfl⟩
    next => cases h

theorem skippedTo_ne_token {found : Option Nat} {t : Token} {size : Nat} :
    skippedTo found ≠ .token t size := by
  cases found <;> exact nofun

theorem declaration_ne_token {s : List Char} {t : Token} {size : Nat} :
    declaration s ≠ .token t size := by
  unfold declaration
  split
  · exact skippedTo_ne_token
  · unfold markedSection
    split
    · rintro ⟨⟩
    · split
      · dsimp only
        split
        · rintro ⟨⟩
        · split
          · exact skippedTo_ne_token
          · rintro ⟨⟩
      · rintro ⟨⟩
  · split <;> exact skippedTo_ne_token

/-- What gives a token after an opening bracket: a letter, a slash, or nothing that
begins a construct. -/
theorem construct_eq_token {s : List Char} {t : Token} {size : Nat}
    (h : construct s = .token t size) :
    (∃ c r, s = c :: r ∧ c.isAlpha = true ∧ startConstruct c r = .token t size) ∨
    (∃ r, s = '/' :: r ∧ endConstruct r = .token t size) ∨
    (t = .text ['<'] ∧ size = 0 ∧ ∀ c ∈ s.head?, c.isAlpha = false ∧ c ≠ '/') := by
  unfold construct at h
  split at h
  · cases h
    exact .inr (.inr ⟨rfl, rfl, by rintro c ⟨⟩⟩)
  next c r =>
    split at h
    next hc => exact .inl ⟨c, r, rfl, hc, h⟩
    next hc =>
      split at h
      next hslash => exact .inr (.inl ⟨r, by rw [hslash], h⟩)
      next hslash =>
        split at h
        next => exact absurd h skippedTo_ne_token
        next =>
          split at h
          next => exact absurd h declaration_ne_token
          next =>
            cases h
            refine .inr (.inr ⟨rfl, rfl, ?_⟩)
            rintro d ⟨⟩
            exact ⟨Bool.eq_false_iff.mpr hc, hslash⟩

/-- What is read after an ampersand is a reference. -/
theorem ampersand_eq_reference {s : List Char} {t : Token} {size : Nat}
    (h : ampersand s = .reference t size) :
    (∃ name, t = .named name) ∨ ∃ code, t = .numbered code := by
  unfold ampersand at h
  split at h
  · cases h
  · split at h
    next u size' hu =>
      cases h
      simp only [numberedReference?, Option.ite_none_left_eq_some, Option.some.injEq,
        Prod.mk.injEq] at hu
      obtain ⟨-, rfl, -⟩ := hu
      exact .inr ⟨_, rfl⟩
    next => split at h <;> cases h
  · split at h
    · dsimp only at h
      split at h
      · split at h <;> cases h
        exact .inl ⟨_, rfl⟩
      · cases h
        exact .inl ⟨_, rfl⟩
    · cases h

/-! ## What a reader reports -/

/-- The names of a token are in order. -/
def Token.Regular : Token → Prop
  | .openTag name attrs => TagName name ∧ ∀ a ∈ attrs, AttributeName a.name
  | .emptyTag name attrs => TagName name ∧ ∀ a ∈ attrs, AttributeName a.name
  | .endTag name => TagName name
  | .text _ => True
  | .named _ => True
  | .numbered _ => True

theorem regular_of_startConstruct {c : Char} {r : List Char} (hc : c.isAlpha = true) {t : Token}
    {size : Nat} (h : startConstruct c r = .token t size) : t.Regular := by
  rcases startConstruct_eq_token h with
    ⟨name, attrs, attrs', closesItself, hstart, hdecoded, rfl⟩ | ⟨attrs, s, -, rfl⟩
  · obtain ⟨hname, hattrs⟩ := startTag_complete hc hstart
    have hattrs' := attributeName_of_decoded hattrs hdecoded
    cases closesItself with
    | true => exact ⟨hname, hattrs'⟩
    | false => exact ⟨hname, hattrs'⟩
  · trivial

theorem tagName_of_endName {s name : List Char} (h : endName? s = some name) : TagName name := by
  unfold endName? at h
  split at h
  next plain hplain =>
    cases h
    unfold plainEndName? at hplain
    split at hplain
    next c r _ =>
      dsimp only at hplain
      split at hplain
      next hc =>
        cases hplain
        rw [Bool.and_eq_true] at hc
        exact tagName_lower hc.1 fun d hd =>
          isTagNameChar_of_isEndNameChar (List.mem_takeWhile_imp hd)
      next => cases hplain
    next => cases hplain
  next =>
    split at h
    next c r =>
      split at h
      next hc =>
        cases h
        exact tagName_lower hc fun d hd => List.mem_takeWhile_imp hd
      next => cases h
    next => cases h

theorem regular_of_construct {s : List Char} {t : Token} {size : Nat}
    (h : construct s = .token t size) : t.Regular := by
  rcases construct_eq_token h with ⟨c, r, -, hc, hstart⟩ | ⟨r, -, hend⟩ | ⟨rfl, -⟩
  · exact regular_of_startConstruct hc hstart
  · obtain ⟨name, n, hname, -, rfl, -⟩ := endConstruct_eq_token hend
    exact tagName_of_endName hname
  · trivial

theorem regular_of_ampersand {s : List Char} {t : Token} {size : Nat}
    (h : ampersand s = .reference t size) : t.Regular := by
  rcases ampersand_eq_reference h with ⟨name, rfl⟩ | ⟨code, rfl⟩
  · trivial
  · trivial

theorem tagName_of_rawAfter {t : Token} (ht : t.Regular) {name : List Char}
    (h : rawAfter t = some name) : TagName name := by
  unfold rawAfter at h
  split at h
  · split at h <;> cases h
    exact ht.1
  · cases h

/-- **The tokens that a reader reports have names in order.** -/
theorem regular_of_mem_scan {decoding final : Bool} {raw : Option (List Char)} {s : List Char}
    (hraw : ∀ name, raw = some name → TagName name) {t : Token}
    (h : t ∈ (scan decoding final raw s).tokens) : t.Regular := by
  cases reported_of_mem_scan h with
  | text s => trivial
  | bracket hread => exact regular_of_construct hread
  | reference _ hread => exact regular_of_ampersand hread
  | rawEnd hend =>
      rcases hend with hname | ⟨r, u, size, hu, hname⟩
      · exact hraw _ hname
      · exact tagName_of_rawAfter (regular_of_construct hu) hname

end QuestionBank.Markup
