import QuestionBank.Proofs.Markup.Written

/-!
# Pieces of cleaned markup

Cleaned markup is made of characters and of tags that are kept. A closing bracket stands
only among the characters and at the end of a tag. A reader that has passed one is
therefore never inside a tag, whatever it took the text before for.
-/

namespace QuestionBank.Markup

open QuestionBank.Text

/-- A piece of cleaned markup. -/
inductive Piece where
  | char (c : Char)
  | tag (name : List Char) (attributes : List Attribute) (closesItself : Bool)
  | endTag (name : List Char)
  deriving DecidableEq

/-- A piece as it is written. -/
def Piece.chars : Piece → List Char
  | char c => [c]
  | tag name attributes closesItself => '<' :: (name ++ written attributes (closing closesItself))
  | endTag name => '<' :: '/' :: (name ++ ['>'])

/-- Pieces as they are written. -/
def render (ps : List Piece) : List Char := ps.flatMap Piece.chars

/-- The names of a piece are in order. -/
def Piece.Regular : Piece → Prop
  | char _ => True
  | tag name attributes _ => TagName name ∧ ∀ a ∈ attributes, AttributeName a.name
  | endTag name => TagName name

/-- After some characters, a reader is at the beginning of a piece. -/
def Lands (ps : List Piece) (n : Nat) : Prop := ∃ qs, qs <:+ ps ∧ (render ps).drop n = render qs

variable {p : Piece} {ps : List Piece}

theorem render_cons (p : Piece) (ps : List Piece) : render (p :: ps) = p.chars ++ render ps :=
  List.flatMap_cons

theorem lands_zero (ps : List Piece) : Lands ps 0 := ⟨ps, List.suffix_refl _, rfl⟩

theorem lands_cons (p : Piece) {n : Nat} (h : Lands ps n) :
    Lands (p :: ps) (p.chars.length + n) := by
  obtain ⟨qs, hqs, hdrop⟩ := h
  refine ⟨qs, hqs.trans (List.suffix_cons p ps), ?_⟩
  rw [render_cons, List.drop_length_add_append, hdrop]

/-! ## Tags -/

theorem notMem_attributeChars {a : Attribute} (h : AttributeName a.name) :
    '>' ∉ attributeChars a := by
  obtain ⟨c, r, hname, hc, hr⟩ := h.chars
  have hvalue : '>' ∉ valueChars a := by
    unfold valueChars
    split
    · exact List.not_mem_nil
    · have := notMem_encode (s := ‹_›) (c := '>') (by decide)
      simpa using this
  rw [attributeChars_eq, hname, List.mem_cons, List.mem_append, List.mem_cons]
  rintro (h | (rfl | h) | h)
  · exact absurd h (by decide)
  · exact absurd hc (by decide)
  · exact absurd (hr _ h) (by decide)
  · exact hvalue h

theorem notMem_written {attrs : List Attribute} (hattrs : ∀ a ∈ attrs, AttributeName a.name)
    {t : List Char} (ht : '>' ∉ t) : '>' ∉ written attrs t := by
  rw [written, List.mem_append, List.mem_flatMap]
  rintro (⟨a, ha, h⟩ | h)
  · exact notMem_attributeChars (hattrs a ha) h
  · exact ht h

theorem written_append (attrs : List Attribute) (s t : List Char) :
    written attrs (s ++ t) = written attrs s ++ t := by
  rw [written, written, List.append_assoc]

theorem notMem_name {name : List Char} (h : TagName name) : '>' ∉ name :=
  fun hmem => absurd (h.chars _ hmem) (by decide)

/-- A piece that is no character begins and ends with a bracket. -/
theorem chars_cases (hp : p.Regular) :
    (∃ c, p = .char c) ∨ ∃ body, p.chars = '<' :: (body ++ ['>']) ∧ '>' ∉ body := by
  cases p with
  | char c => exact .inl ⟨c, rfl⟩
  | tag name attrs closesItself =>
      right
      obtain ⟨t, ht, hmem⟩ : ∃ t, closing closesItself = t ++ ['>'] ∧ '>' ∉ t := by
        cases closesItself with
        | true => exact ⟨[' ', '/'], rfl, by decide⟩
        | false => exact ⟨[], rfl, by decide⟩
      refine ⟨name ++ written attrs t, ?_, ?_⟩
      · rw [Piece.chars, ht, written_append, List.append_assoc]
      · rw [List.mem_append, not_or]
        exact ⟨notMem_name hp.1, notMem_written hp.2 hmem⟩
  | endTag name =>
      right
      refine ⟨'/' :: name, rfl, ?_⟩
      rw [List.mem_cons, not_or]
      exact ⟨by decide, notMem_name hp⟩

/-- The first name in a piece that is no character ends inside of it. -/
theorem chars_cases_name (hp : p.Regular) :
    (∃ c, p = .char c) ∨ ∃ name d s, p.chars = name ++ d :: s ∧ 0 < name.length ∧
      (∀ c ∈ name, isTagNameChar c = true) ∧ isTagNameChar d = false ∧ d ≠ '\x00' := by
  cases p with
  | char c => exact .inl ⟨c, rfl⟩
  | tag name attrs closesItself =>
      right
      obtain ⟨d, s, hd, hstop, hnull⟩ : ∃ d s, written attrs (closing closesItself) = d :: s ∧
          isTagNameChar d = false ∧ d ≠ '\x00' := by
        rcases written_eq attrs closesItself [] with h | ⟨rfl, h⟩
        · rw [List.append_nil] at h
          exact ⟨_, _, h, by decide, by decide⟩
        · cases closesItself <;> exact ⟨_, _, rfl, by decide, by decide⟩
      refine ⟨'<' :: name, d, s, ?_, Nat.succ_pos _, fun c hc => ?_, hstop, hnull⟩
      · rw [Piece.chars, hd, List.cons_append]
      · rcases List.mem_cons.mp hc with rfl | hc
        · decide
        · exact hp.1.chars c hc
  | endTag name =>
      refine .inr ⟨['<'], '/', name ++ ['>'], rfl, Nat.succ_pos _, ?_, by decide, by decide⟩
      decide

/-- A closing bracket in a piece is its last character. -/
theorem length_of_bracket (hp : p.Regular) {k : Nat} (h : p.chars[k]? = some '>') :
    p.chars.length = k + 1 := by
  rcases chars_cases hp with ⟨c, rfl⟩ | ⟨body, hchars, hbody⟩
  · cases k with
    | zero => rfl
    | succ k => simp [Piece.chars] at h
  · rw [hchars] at h ⊢
    cases k with
    | zero => simp at h
    | succ k =>
        rw [List.getElem?_cons_succ] at h
        rcases lt_trichotomy k body.length with hk | rfl | hk
        · rw [List.getElem?_append_left hk] at h
          exact absurd (List.mem_of_getElem? h) hbody
        · simp
        · rw [List.getElem?_append_right hk.le, List.getElem?_eq_none (by simp; omega)] at h
          cases h

/-! ## Landing -/

/-- Behind a closing bracket, a reader is at the beginning of a piece. -/
theorem lands_bracket (hps : ∀ p ∈ ps, p.Regular) {k : Nat} (h : (render ps)[k]? = some '>') :
    Lands ps (k + 1) := by
  induction ps generalizing k with
  | nil => simp [render] at h
  | cons p ps ih =>
      have hps' : ∀ p ∈ ps, p.Regular := fun p hp => hps p (.tail _ hp)
      rw [render_cons] at h
      by_cases hk : k < p.chars.length
      · rw [List.getElem?_append_left hk] at h
        rw [← length_of_bracket (hps p (.head _)) h]
        exact lands_cons p (lands_zero ps)
      · rw [List.getElem?_append_right (not_lt.mp hk)] at h
        have := lands_cons p (ih hps' h)
        rwa [show p.chars.length + (k - p.chars.length + 1) = k + 1 by omega] at this

/-- Behind characters that open no tag, a reader is at the beginning of a piece. -/
theorem lands_text (hps : ∀ p ∈ ps, p.Regular) {n : Nat} (h : '<' ∉ (render ps).take n) :
    Lands ps n := by
  induction ps generalizing n with
  | nil => exact ⟨[], List.suffix_refl _, by simp [render]⟩
  | cons p ps ih =>
      cases n with
      | zero => exact lands_zero _
      | succ n =>
          rcases chars_cases (hps p (.head _)) with ⟨c, rfl⟩ | ⟨body, hp, -⟩
          · rw [Nat.add_comm]
            refine lands_cons (.char c) (ih (fun p hp => hps p (.tail _ hp)) fun hmem => h ?_)
            rw [render_cons]
            exact .tail _ hmem
          · rw [render_cons, hp] at h
            exact absurd (.head _) h

/-- Where no closing bracket follows, every place is the beginning of a piece. -/
theorem lands_last (hps : ∀ p ∈ ps, p.Regular) (h : '>' ∉ render ps) (n : Nat) : Lands ps n := by
  induction ps generalizing n with
  | nil => exact ⟨[], List.suffix_refl _, by simp [render]⟩
  | cons p ps ih =>
      rw [render_cons, List.mem_append, not_or] at h
      cases n with
      | zero => exact lands_zero _
      | succ n =>
          rcases chars_cases (hps p (.head _)) with ⟨c, rfl⟩ | ⟨body, hp, -⟩
          · rw [Nat.add_comm]
            exact lands_cons (.char c) (ih (fun p hp => hps p (.tail _ hp)) h.2 n)
          · exact absurd (by simp [hp]) h.1

/-- A name that ends in a null character is not read inside of a tag. -/
theorem lands_name (hps : ∀ p ∈ ps, p.Regular) {n : Nat}
    (hname : ∀ c ∈ (render ps).take n, isTagNameChar c = true)
    (h : (render ps)[n]? = some '\x00') : Lands ps n := by
  induction ps generalizing n with
  | nil => simp [render] at h
  | cons p ps ih =>
      cases n with
      | zero => exact lands_zero _
      | succ n =>
          rcases chars_cases_name (hps p (.head _)) with
            ⟨c, rfl⟩ | ⟨name, d, s, hp, hlength, hchars, hd, hnull⟩
          · rw [Nat.add_comm]
            refine lands_cons (.char c) (ih (fun p hp => hps p (.tail _ hp)) (fun c hc => ?_) ?_)
            · rw [render_cons] at hname
              exact hname c (.tail _ hc)
            · rw [render_cons] at h
              exact h
          · rw [render_cons, hp, List.append_assoc, List.cons_append] at h hname
            rcases lt_trichotomy (n + 1) name.length with hn | hn | hn
            · rw [List.getElem?_append_left hn] at h
              exact absurd (hchars _ (List.mem_of_getElem? h)) (by decide)
            · rw [hn, List.getElem?_append_right le_rfl] at h
              exact absurd (by simpa using h) hnull
            · have hmem : d ∈ (name ++ d :: (s ++ render ps)).take (n + 1) := by
                refine List.mem_of_getElem? (i := name.length) ?_
                rw [List.getElem?_take_of_lt hn, List.getElem?_append_right le_rfl]
                simp
              exact absurd (hname d hmem) (by simp [hd])

end QuestionBank.Markup
