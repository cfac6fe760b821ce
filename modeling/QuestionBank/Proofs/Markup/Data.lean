import QuestionBank.Proofs.Markup.Cleaned
import QuestionBank.Proofs.Markup.Decoded

/-!
# Character data that keeps its text

The reader of rich text writes every reference with a semicolon, whether it had one or not. The
text of character data stays the same if each ampersand in it begins a reference with a
semicolon, a reference that means the same with one, or nothing at all.
-/

namespace QuestionBank.Markup

open QuestionBank.Text

/-! ## References -/

/-- A name in a reference. -/
def IsName (s : List Char) : Prop :=
  ∃ c r, s = c :: r ∧ c.isAlpha = true ∧ ∀ d ∈ r, isEntityChar d = true

/-- A code in a reference, with its number sign. -/
def IsCode (s : List Char) : Prop :=
  ∃ digits, digits ≠ [] ∧ ((s = '#' :: digits ∧ ∀ d ∈ digits, d.isDigit = true) ∨
    ∃ x, (x = 'x' ∨ x = 'X') ∧ s = '#' :: x :: digits ∧ ∀ d ∈ digits, isHexDigit d = true)

/-- A name that stands for the same text with a semicolon and without. -/
def IsOldName (s : List Char) : Prop :=
  IsName s ∧ ∃ text, entity? s = some text ∧ entity? (s ++ [';']) = some text

/-- Character data in front of `rest`, and what is written for it. -/
inductive Data (rest : List Char) : List Char → List Char → Prop where
  | nil : Data rest [] []
  | char {c : Char} {d e : List Char} (hc : c ≠ '&') (hd : Data rest d e) :
      Data rest (c :: d) (c :: e)
  /-- An ampersand that begins no reference. -/
  | alone {d e : List Char} (hnext : ∀ c ∈ (d ++ rest).head?, c.isAlpha = false ∧ c ≠ '#')
      (hd : Data rest d e) : Data rest ('&' :: d) ('&' :: e)
  /-- A reference with its semicolon. -/
  | closed {s d e : List Char} (hs : IsName s ∨ IsCode s) (hd : Data rest d e) :
      Data rest ('&' :: (s ++ ';' :: d)) ('&' :: (s ++ ';' :: e))
  /-- A reference by an old name without its semicolon. -/
  | name {s d e : List Char} (hs : IsOldName s)
      (hnext : ∃ c ∈ (d ++ rest).head?, isEntityChar c = false ∧ c ≠ ';' ∧ c ≠ '#')
      (hd : Data rest d e) : Data rest ('&' :: (s ++ d)) ('&' :: (s ++ ';' :: e))
  /-- A reference by code without its semicolon. -/
  | code {s d e : List Char} (hs : IsCode s)
      (hnext : ∃ c ∈ (d ++ rest).head?, isHexDigit c = false ∧ c ≠ ';')
      (hd : Data rest d e) : Data rest ('&' :: (s ++ d)) ('&' :: (s ++ ';' :: e))

variable {rest s d e : List Char}

/-! ## Decoded references -/

theorem isNameSign_of_isEntityChar {c : Char} (h : isEntityChar c = true) :
    isNameSign c = true := by
  have hends : ∀ d ∈ ['\t', '\n', '\x0c', ' ', '<', '&', '#', ';'], isEntityChar d = false := by
    decide
  by_contra hc
  have hmem : c ∈ ['\t', '\n', '\x0c', ' ', '<', '&', '#', ';'] := by
    simpa [isNameSign, or_assoc, or_iff_not_imp_left] using hc
  rw [hends c hmem] at h
  cases h

theorem isEntityChar_of_isAlpha {c : Char} (h : c.isAlpha = true) : isEntityChar c = true := by
  simp [isEntityChar, Char.isAlphanum, h]

theorem IsName.entityChars (hs : IsName s) : s ≠ [] ∧ ∀ c ∈ s, isEntityChar c = true := by
  obtain ⟨c, r, rfl, hc, hr⟩ := hs
  refine ⟨List.cons_ne_nil _ _, ?_⟩
  rintro d (_ | ⟨_, hd⟩)
  · exact isEntityChar_of_isAlpha hc
  · exact hr d hd

theorem IsName.signs (hs : IsName s) : ∀ c ∈ s, isNameSign c = true :=
  fun c hc => isNameSign_of_isEntityChar (hs.entityChars.2 c hc)

theorem IsName.head_ne (hs : IsName s) (t : List Char) : (s ++ t).head? ≠ some '#' := by
  obtain ⟨c, r, rfl, hc, -⟩ := hs
  intro hhash
  obtain rfl := Option.some.inj hhash
  cases hc

/-- What a reference by name with a semicolon stands for does not depend on what follows. -/
theorem IsName.decode_closed (hs : IsName s) :
    ∃ text, ∀ t, decode ('&' :: (s ++ ';' :: t)) = text ++ decode t := by
  have hrun (t : List Char) : (s ++ ';' :: t).takeWhile isNameSign = s :=
    takeWhile_append_stop hs.signs (by decide) t
  have hsome : ¬ (s.take 32).isEmpty = true := by
    obtain ⟨c, r, rfl, -, -⟩ := hs
    simp
  rcases Nat.lt_or_ge 32 s.length with hlong | hshort
  · -- The name is too long, so that only a part of it is looked up.
    refine ⟨charsOfName (s.take 32) ++ (s.drop 32 ++ [';']), fun t => ?_⟩
    have hsize : nameSize (s ++ ';' :: t) = 32 := by
      obtain ⟨c, r, hdrop⟩ := List.exists_cons_of_length_pos (l := s.drop 32)
        (by rw [List.length_drop]; omega)
      have hmem : c ∈ s.drop 32 := by simp [hdrop]
      have hc : c ≠ ';' := (isNameSign_ne (hs.signs c (List.mem_of_mem_drop hmem))).2.2
      have hlength : (s.take 32).length = 32 := List.length_take_of_le hlong.le
      unfold nameSize
      rw [hrun]
      dsimp only
      rw [if_neg hsome, hlength, List.drop_append_of_le_length hlong.le, hdrop, List.cons_append,
        semicolonSize, if_neg (by simpa using hc)]
    have hplain : '&' ∉ s.drop 32 ++ [';'] := by
      rw [List.mem_append, not_or]
      exact ⟨fun hmem => (isNameSign_ne (hs.signs _ (List.mem_of_mem_drop hmem))).1 rfl, by decide⟩
    have hrest := decode_append_of_notMem hplain t
    rw [decode_name (hs.head_ne _), hsize, List.take_append_of_le_length hlong.le,
      List.drop_append_of_le_length hlong.le, List.append_assoc, ← hrest]
    simp
  · refine ⟨charsOfName (s ++ [';']), fun t => ?_⟩
    have hsize : nameSize (s ++ ';' :: t) = s.length + 1 := by
      unfold nameSize
      rw [hrun]
      dsimp only
      rw [if_neg hsome, List.take_of_length_le hshort, List.drop_left]
      rfl
    rw [decode_name (hs.head_ne _), hsize, List.take_length_add_append,
      List.drop_length_add_append]
    rfl

/-- An old name stands for the same text with a semicolon and at the end. -/
theorem IsOldName.decode (hs : IsOldName s) :
    ∃ text, decode ('&' :: s) = text ∧ ∀ t, decode ('&' :: (s ++ ';' :: t)) = text ++ decode t := by
  obtain ⟨hname, text, hold, hclosed⟩ := hs
  have hlength : s.length ≤ 32 := (known_of_entity hold).2.2.1
  refine ⟨text, ?_, decode_named hname.entityChars.1 hname.signs hlength hclosed⟩
  have hwhole : s.takeWhile isNameSign = s := List.takeWhile_eq_self_iff.mpr hname.signs
  have hsize : nameSize s = s.length := by
    unfold nameSize
    rw [hwhole, List.take_of_length_le hlength]
    simp [hname.entityChars.1, semicolonSize]
  have hhead := hname.head_ne []
  rw [List.append_nil] at hhead
  rw [decode_name hhead, hsize, List.take_length, List.drop_length, decode_nil, List.append_nil,
    charsOfName, hold]

/-- What a reference with a semicolon stands for, and whether its code can be read, does not
depend on what follows. -/
structure Closed (s : List Char) : Prop where
  decode_eq : ∃ text, ∀ t, decode ('&' :: (s ++ ';' :: t)) = text ++ decode t
  readable_iff : ∃ P : Prop, ∀ t, Readable ('&' :: (s ++ ';' :: t)) ↔ P ∧ Readable t

theorem IsName.readable_iff (hs : IsName s) (t : List Char) :
    Readable ('&' :: (s ++ t)) ↔ Readable t := by
  have hplain : '&' ∉ s := fun hmem => (isNameSign_ne (hs.signs _ hmem)).1 rfl
  rw [readable_amp (hs.head_ne t), readable_append_of_notMem hplain]

theorem IsName.closed (hs : IsName s) : Closed s := by
  refine ⟨hs.decode_closed, True, fun t => ?_⟩
  rw [hs.readable_iff, readable_cons (by decide), true_and]

/-- A reference by code ends in front of what goes on with no digit. -/
theorem IsCode.reference (hs : IsCode s) :
    ∃ text, ∀ t, (∀ c ∈ t.head?, isHexDigit c = false) →
      reference? (s ++ t) = some (text, s.length + semicolonSize t) := by
  obtain ⟨digits, hne, ⟨rfl, hdigits⟩ | ⟨x, hx, rfl, hdigits⟩⟩ := hs
  · refine ⟨charOfCode (codeOf 10 digits), fun t ht => ?_⟩
    have hrun : (digits ++ t).takeWhile Char.isDigit = digits := by
      rw [List.takeWhile_append_of_pos hdigits]
      have hstop : t.takeWhile Char.isDigit = [] := by
        cases t with
        | nil => rfl
        | cons c t =>
            refine List.takeWhile_cons_of_neg fun hdigit => ?_
            have := ht c rfl
            simp [isHexDigit, hdigit] at this
      rw [hstop, List.append_nil]
    have hsome : (!digits.isEmpty) = true := by simpa using hne
    simp only [reference?, List.cons_append, hrun, hsome, if_true, List.drop_left,
      List.length_cons, Nat.add_comm 1]
  · refine ⟨charOfCode (codeOf 16 digits), fun t ht => ?_⟩
    have hrun : (digits ++ t).takeWhile isHexDigit = digits := by
      rw [List.takeWhile_append_of_pos hdigits]
      have hstop : t.takeWhile isHexDigit = [] := by
        cases t with
        | nil => rfl
        | cons c t => exact List.takeWhile_cons_of_neg (by simp [ht c rfl])
      rw [hstop, List.append_nil]
    have hnone : (x :: (digits ++ t)).takeWhile Char.isDigit = [] := by
      rcases hx with rfl | rfl
      · rfl
      · rfl
    have hsign : (decide (x = 'x') || decide (x = 'X')) = true := by simpa using hx
    have hsome : (!digits.isEmpty) = true := by simpa using hne
    simp only [reference?, List.cons_append, hnone, hrun, hsome, hsign, List.drop_left]
    simp [Nat.add_comm 2]

/-- What a reference by code stands for does not depend on what follows, with a semicolon or
in front of what goes on with no digit. -/
theorem IsCode.decode (hs : IsCode s) :
    ∃ text, (∀ t, decode ('&' :: (s ++ ';' :: t)) = text ++ decode t) ∧
      ∀ t, (∀ c ∈ t.head?, isHexDigit c = false ∧ c ≠ ';') →
        decode ('&' :: (s ++ t)) = text ++ decode t := by
  obtain ⟨text, href⟩ := hs.reference
  refine ⟨text, ?_, ?_⟩
  · intro t
    have hclosed := href (';' :: t) (by rintro c ⟨⟩; decide)
    rw [decode_amp hclosed, List.drop_length_add_append]
    rfl
  · intro t ht
    have hnone : semicolonSize t = 0 := if_neg fun hsemicolon => (ht ';' hsemicolon).2 rfl
    have hopen := href t fun c hc => (ht c hc).1
    rw [hnone] at hopen
    rw [decode_amp hopen, Nat.add_zero, List.drop_left]

/-- Whether a reference by code can be read does not depend on what follows, if that goes on
with no digit. -/
theorem IsCode.readable_iff (hs : IsCode s) :
    ∃ P : Prop, ∀ t, (∀ c ∈ t.head?, isHexDigit c = false) →
      (Readable ('&' :: (s ++ t)) ↔ P ∧ Readable t) := by
  obtain ⟨digits, -, ⟨rfl, hdigits⟩ | ⟨x, hx, rfl, hdigits⟩⟩ := hs
  · refine ⟨digits.length ≤ Number.digitLimit, fun t ht => ?_⟩
    have hstop : ∀ c ∈ t.head?, c.isDigit = false := by
      intro c hc
      by_contra hdigit
      have := ht c hc
      simp [isHexDigit, hdigit] at this
    have hrun : (digits ++ t).takeWhile Char.isDigit = digits := by
      rw [takeWhile_append_of_head hstop, List.takeWhile_eq_self_iff.mpr hdigits]
    have hplain : '&' ∉ digits := fun hmem => absurd (hdigits _ hmem) (by decide)
    rw [List.cons_append, readable_code, hrun, readable_append_of_notMem hplain]
  · refine ⟨True, fun t _ => ?_⟩
    have hrun : (x :: (digits ++ t)).takeWhile Char.isDigit = [] := by
      rcases hx with rfl | rfl
      · rfl
      · rfl
    have hplain : '&' ∉ x :: digits := by
      rintro (_ | ⟨_, hmem⟩)
      · simp at hx
      · exact absurd (hdigits _ hmem) (by decide)
    rw [List.cons_append, List.cons_append, readable_code, hrun, ← List.cons_append,
      readable_append_of_notMem hplain]
    simp

theorem IsCode.closed (hs : IsCode s) : Closed s := by
  refine ⟨hs.decode.imp fun _ h => h.1, hs.readable_iff.imp fun P h t => ?_⟩
  rw [h (';' :: t) (by rintro c ⟨⟩; decide), readable_cons (by decide)]

theorem closed_of (hs : IsName s ∨ IsCode s) : Closed s := hs.elim IsName.closed IsCode.closed

/-! ## The text of what is written -/

theorem foreign_of_not_isEntityChar {c : Char} (hc : isEntityChar c = false) (hsemicolon : c ≠ ';')
    (hsign : c ≠ '#') : Foreign c := by
  refine ⟨?_, hsign⟩
  by_contra hknown
  rw [Bool.not_eq_false] at hknown
  rcases isAlphanum_of_known hknown with h | h
  · simp [isEntityChar, h] at hc
  · exact hsemicolon h

/-- Data without ampersands is written as it is. -/
theorem Data.plain (hs : '&' ∉ s) (hd : Data rest d e) : Data rest (s ++ d) (s ++ e) := by
  induction s with
  | nil => exact hd
  | cons c s ih =>
      rw [List.mem_cons, not_or] at hs
      exact .char (Ne.symm hs.1) (ih hs.2)

theorem Data.head?_eq (h : Data rest d e) : e.head? = d.head? := by
  cases h <;> rfl

theorem mem_head?_append {c : Char} {s : List Char} (h : c ∈ s.head?) (t : List Char) :
    c ∈ (s ++ t).head? := by
  cases s with
  | nil => cases h
  | cons d s => exact h

/-- What is written has the text of the data. -/
theorem Data.decode_eq (h : Data rest d e) : decode e = decode d := by
  induction h with
  | nil => rfl
  | char hc hd ih => rw [decode_cons hc, decode_cons hc, ih]
  | alone hnext hd ih =>
      have hd' := fun c hc => hnext c (mem_head?_append hc rest)
      rw [decode_alone hd', decode_alone (hd.head?_eq ▸ hd'), ih]
  | closed hs hd ih =>
      obtain ⟨text, htext⟩ := (closed_of hs).decode_eq
      rw [htext, htext, ih]
  | @name s d e hs hnext hd ih =>
      obtain ⟨text, hopen, hclosed⟩ := hs.decode
      have hapart : Apart d := by
        obtain ⟨c, hc, hname, hsemicolon, hsign⟩ := hnext
        intro c' hc'
        obtain rfl := Option.some.inj (hc.symm.trans (mem_head?_append hc' rest))
        exact foreign_of_not_isEntityChar hname hsemicolon hsign
      rw [hclosed, ← List.cons_append, decode_append hapart, hopen, ih]
  | @code s d e hs hnext hd ih =>
      obtain ⟨text, hclosed, hopen⟩ := hs.decode
      have hstop : ∀ c ∈ d.head?, isHexDigit c = false ∧ c ≠ ';' := by
        obtain ⟨c, hc, hends⟩ := hnext
        intro c' hc'
        obtain rfl := Option.some.inj (hc.symm.trans (mem_head?_append hc' rest))
        exact hends
      rw [hclosed, hopen d hstop, ih]

/-- What is written can be read if the data can. -/
theorem Data.readable_iff (h : Data rest d e) : Readable e ↔ Readable d := by
  induction h with
  | nil => rfl
  | char hc hd ih => rw [readable_cons hc, readable_cons hc, ih]
  | @alone d e hnext hd ih =>
      have hd' : d.head? ≠ some '#' := fun h => (hnext '#' (mem_head?_append h rest)).2 rfl
      rw [readable_amp hd', readable_amp (hd.head?_eq ▸ hd'), ih]
  | closed hs hd ih =>
      obtain ⟨P, hread⟩ := (closed_of hs).readable_iff
      rw [hread, hread, ih]
  | name hs hnext hd ih => rw [hs.1.readable_iff, hs.1.readable_iff, readable_cons (by decide), ih]
  | @code s d e hs hnext hd ih =>
      obtain ⟨P, hread⟩ := hs.readable_iff
      have hstop : ∀ c ∈ d.head?, isHexDigit c = false := by
        obtain ⟨c, hc, hends, -⟩ := hnext
        intro c' hc'
        obtain rfl := Option.some.inj (hc.symm.trans (mem_head?_append hc' rest))
        exact hends
      rw [hread d hstop, hread (';' :: e) (by rintro c ⟨⟩; decide), readable_cons (by decide), ih]

/-- A text that is read for itself, whatever comes behind it. -/
structure Ended (s : List Char) : Prop where
  decode_append : ∀ t, decode (s ++ t) = decode s ++ decode t
  readable_append : ∀ t, Readable (s ++ t) ↔ Readable s ∧ Readable t

theorem Ended.nil : Ended [] :=
  ⟨fun t => by rw [decode_nil]; rfl, fun t => ⟨fun h => ⟨readable_nil, h⟩, And.right⟩⟩

theorem Ended.append {s t : List Char} (hs : Ended s) (ht : Ended t) : Ended (s ++ t) := by
  constructor
  · intro u
    rw [List.append_assoc, hs.decode_append, ht.decode_append, hs.decode_append, List.append_assoc]
  · intro u
    rw [List.append_assoc, hs.readable_append, ht.readable_append, hs.readable_append, and_assoc]

theorem Ended.singleton {c : Char} (hc : c ≠ '&') : Ended [c] := by
  constructor
  · intro t
    rw [List.singleton_append, decode_cons hc, decode_cons hc, decode_nil]
    rfl
  · intro t
    rw [List.singleton_append, readable_cons hc, readable_cons hc]
    exact ⟨fun h => ⟨readable_nil, h⟩, And.right⟩

theorem Closed.ended (hs : Closed s) (he : Ended e) : Ended ('&' :: (s ++ ';' :: e)) := by
  obtain ⟨⟨text, htext⟩, P, hread⟩ := hs
  have hwhole (t : List Char) : '&' :: (s ++ ';' :: e) ++ t = '&' :: (s ++ ';' :: (e ++ t)) := by
    simp
  constructor
  · intro t
    rw [hwhole, htext, htext, he.decode_append, List.append_assoc]
  · intro t
    rw [hwhole, hread, hread, he.readable_append, and_assoc]

theorem getLast?_ne_of_append {s d : List Char} (h : (s ++ d).getLast? ≠ some '&') :
    d.getLast? ≠ some '&' := by
  intro hd
  rw [List.getLast?_append, hd] at h
  exact h rfl

/-- What is written is ended unless an ampersand stands at its end. -/
theorem Data.ended (h : Data rest d e) (hlast : d.getLast? ≠ some '&') : Ended e := by
  induction h with
  | nil => exact Ended.nil
  | @char c d e hc hd ih =>
      exact (Ended.singleton hc).append (ih (getLast?_ne_of_append (s := [c]) hlast))
  | @alone d e hnext hd ih =>
      obtain ⟨c, r, rfl⟩ : ∃ c r, d = c :: r := by
        refine List.exists_cons_of_ne_nil ?_
        rintro rfl
        exact hlast rfl
      have hc : e.head? = some c := hd.head?_eq
      -- Something follows the ampersand, and keeps it from what comes behind.
      have hnext' (t : List Char) : ∀ c' ∈ (e ++ t).head?, c'.isAlpha = false ∧ c' ≠ '#' := by
        intro c' hc'
        rw [List.head?_append, hc] at hc'
        exact hnext c' hc'
      have halone (t : List Char) : decode ('&' :: (e ++ t)) = '&' :: decode (e ++ t) :=
        decode_alone (hnext' t)
      have hread (t : List Char) : Readable ('&' :: (e ++ t)) ↔ Readable (e ++ t) :=
        readable_amp fun h => (hnext' t '#' h).2 rfl
      have hend := halone []
      have hread' := hread []
      rw [List.append_nil] at hend hread'
      have he := ih (getLast?_ne_of_append (s := ['&']) hlast)
      constructor
      · intro t
        rw [List.cons_append, halone, hend, he.decode_append]
        rfl
      · intro t
        rw [List.cons_append, hread, hread', he.readable_append]
  | @closed s d e hs hd ih =>
      refine (closed_of hs).ended (ih ?_)
      exact getLast?_ne_of_append (s := '&' :: (s ++ [';'])) (by simpa using hlast)
  | @name s d e hs hnext hd ih =>
      exact hs.1.closed.ended (ih (getLast?_ne_of_append (s := '&' :: s) hlast))
  | @code s d e hs hnext hd ih =>
      exact hs.closed.ended (ih (getLast?_ne_of_append (s := '&' :: s) hlast))

theorem Data.mem (h : Data rest d e) {c : Char} (hc : c ∈ e) : c ∈ d ∨ c = ';' := by
  induction h with
  | nil => exact .inl hc
  | char _ _ ih | alone _ _ ih => grind
  | closed _ _ ih => grind
  | name _ _ _ ih | code _ _ _ ih => grind

/-! ## What the readers make of a text -/

/-- What is left of a list where dropped elements are open. -/
def outside {α : Type} (depth : Nat) (l : List α) : List α := if depth = 0 then l else []

/-- The pieces that are kept of a text. -/
def keptOf (depth : Nat) (final : Bool) (s : List Char) : Except Breach (List Piece) :=
  (scan false final none s).whole.map (keptPieces depth)

/-- The visible text of a text. -/
def shownOf (depth : Nat) (final : Bool) (s : List Char) : Except Breach (List Char) :=
  (scan true final none s).whole.map (visibleText depth)

variable {depth : Nat} {final : Bool}

theorem whole_cons (t : Token) (report : Report) :
    (report.cons t).whole = report.whole.map (t :: ·) := by
  obtain ⟨tokens, breach⟩ := report
  cases breach <;> rfl

theorem whole_token {decoding : Bool} {r : List Char} {t : Token} {size : Nat}
    (h : construct r = .token t size) (hraw : rawAfter t = none) :
    (scan decoding final none ('<' :: r)).whole =
      (scan decoding final none (r.drop size)).whole.map (t :: ·) := by
  rw [scan_token h, hraw, whole_cons]

theorem whole_skipped {decoding : Bool} {r : List Char} {size : Nat}
    (h : construct r = .skipped size) :
    (scan decoding final none ('<' :: r)).whole =
      (scan decoding final none (r.drop size)).whole := by
  rw [scan_skipped h]

theorem map_map {ε α β γ : Type} (x : Except ε α) (f : α → β) (g : β → γ) :
    (x.map f).map g = x.map fun a => g (f a) := by
  cases x <;> rfl

theorem outside_append {α : Type} (depth : Nat) (l r : List α) :
    outside depth (l ++ r) = outside depth l ++ outside depth r := by
  unfold outside
  split <;> rfl

theorem textPieces_append (s t : List Char) : textPieces (s ++ t) = textPieces s ++ textPieces t :=
  List.map_append

theorem keptPieces_text (depth : Nat) (s : List Char) (ts : List Token) :
    keptPieces depth (.text s :: ts) = outside depth (textPieces s) ++ keptPieces depth ts := rfl

/-- Tells whether a character is plain data for the reader of rich text. -/
def isPlain (c : Char) : Bool := c != '<' && c != '&'

/-- Plain data is read as one run. -/
theorem keptOf_run {c : Char} (hc : isPlain c = true) (s : List Char) :
    keptOf depth final (c :: s) = (keptOf depth final (s.dropWhile isPlain)).map
      (outside depth (textPieces (c :: s.takeWhile isPlain)) ++ ·) := by
  obtain ⟨hbracket, hamp⟩ : c ≠ '<' ∧ c ≠ '&' := by simpa [isPlain] using hc
  have hrun : s.takeWhile (fun c => c != '<' && (false || c != '&')) = s.takeWhile isPlain := rfl
  rw [keptOf, scan_data hbracket (absurd · hamp) hrun, drop_length_takeWhile, keptOf]
  show ((Report.cons _ _).whole).map _ = _
  rw [whole_cons, map_map, map_map]
  simp only [keptPieces_text]

/-- A character is kept as it is. -/
theorem keptOf_char {c : Char} (hc : c ≠ '<') (hamp : c ≠ '&') (s : List Char) :
    keptOf depth final (c :: s) =
      (keptOf depth final s).map (outside depth (textPieces [c]) ++ ·) := by
  have hplain : isPlain c = true := by simp [isPlain, hc, hamp]
  rw [keptOf_run hplain]
  cases s with
  | nil => rfl
  | cons d s =>
      by_cases hd : isPlain d = true
      · -- The run goes on.
        rw [List.takeWhile_cons_of_pos hd, List.dropWhile_cons_of_pos hd, keptOf_run hd, map_map]
        simp only [← List.append_assoc, ← outside_append, ← textPieces_append]
        rfl
      · rw [List.takeWhile_cons_of_neg hd, List.dropWhile_cons_of_neg hd]

/-- A reference is written with a semicolon. -/
theorem keptOf_reference {t : Token} {size : Nat} (h : ampersand s = .reference t size)
    {w : List Char}
    (hw : ∀ ts, keptPieces depth (t :: ts) = outside depth (textPieces w) ++ keptPieces depth ts) :
    keptOf depth final ('&' :: s) =
      (keptOf depth final (s.drop size)).map (outside depth (textPieces w) ++ ·) := by
  rw [keptOf, scan_ampersand, h, whole_cons, map_map, keptOf, map_map]
  simp only [hw]

theorem keptOf_alone (h : ampersand s = .alone) :
    keptOf depth final ('&' :: s) =
      (keptOf depth final s).map (outside depth (textPieces ['&']) ++ ·) := by
  rw [keptOf, scan_ampersand, h, whole_cons, map_map, keptOf, map_map]
  simp only [keptPieces_text]

/-- What the reader of rich text makes of a reference: it is written with a semicolon. -/
def ReadsReference (s t : List Char) : Prop :=
  ∃ token, ampersand (s ++ t) = .reference token (s.length + semicolonSize t) ∧
    ∀ depth ts, keptPieces depth (token :: ts) =
      outside depth (textPieces ('&' :: (s ++ [';']))) ++ keptPieces depth ts

theorem IsName.readsReference (hs : IsName s) {t : List Char}
    (ht : ∃ c ∈ t.head?, isEntityChar c = false) : ReadsReference s t := by
  obtain ⟨c, r, rfl, hc, hr⟩ := hs
  obtain ⟨d, hd, hstop⟩ := ht
  obtain ⟨t, rfl⟩ := List.head?_eq_some_iff.mp hd
  have hrun : (r ++ d :: t).takeWhile isEntityChar = r := takeWhile_append_stop hr hstop t
  have hsign : c ≠ '#' := by
    rintro rfl
    cases hc
  refine ⟨.named (c :: r), ?_, fun _ _ => rfl⟩
  rw [List.cons_append, ampersand.eq_def]
  split
  next h => cases h
  next h => exact absurd (List.cons.inj h).1 hsign
  next h =>
    cases h
    simp only [hc, if_true, hrun, List.drop_left, List.isEmpty_cons, Bool.false_eq_true, if_false]
    rw [List.length_cons]

theorem IsCode.readsReference (hs : IsCode s) {t : List Char}
    (ht : ∃ c ∈ t.head?, isHexDigit c = false) : ReadsReference s t := by
  obtain ⟨digits, hne, hcode⟩ := hs
  obtain ⟨d, hd, hstop⟩ := ht
  obtain ⟨t, rfl⟩ := List.head?_eq_some_iff.mp hd
  obtain ⟨c, r, rfl⟩ := List.exists_cons_of_ne_nil hne
  rcases hcode with ⟨rfl, hdigits⟩ | ⟨x, hx, rfl, hdigits⟩
  · have hdigit : d.isDigit = false := by
      by_contra h
      simp [isHexDigit, h] at hstop
    have hrun : (c :: (r ++ d :: t)).takeWhile Char.isDigit = c :: r :=
      takeWhile_append_stop hdigits hdigit t
    have hc : c ≠ 'x' ∧ c ≠ 'X' := by
      constructor <;>
        (rintro rfl
         exact absurd (hdigits _ (.head _)) (by decide))
    have hread : numberedReference? (c :: (r ++ d :: t)) =
        some (.numbered (c :: r), r.length + 1 + 1 + semicolonSize (d :: t)) := by
      simp [numberedReference?, hc.1, hc.2, hrun, hstop]
      omega
    refine ⟨.numbered (c :: r), ?_, fun _ _ => rfl⟩
    simp only [List.cons_append, ampersand, hread, List.length_cons]
  · have hrun : (c :: (r ++ d :: t)).takeWhile isHexDigit = c :: r :=
      takeWhile_append_stop hdigits hstop t
    have hread : numberedReference? (x :: c :: (r ++ d :: t)) =
        some (.numbered (x :: c :: r), r.length + 1 + 1 + 1 + semicolonSize (d :: t)) := by
      simp [numberedReference?, hx, hrun, hstop]
      omega
    refine ⟨.numbered (x :: c :: r), ?_, fun _ _ => rfl⟩
    simp only [List.cons_append, ampersand, hread, List.length_cons]

theorem ReadsReference.keptOf {t : List Char} (h : ReadsReference s t) :
    keptOf depth final ('&' :: (s ++ t)) = (keptOf depth final (t.drop (semicolonSize t))).map
      (outside depth (textPieces ('&' :: (s ++ [';']))) ++ ·) := by
  obtain ⟨token, hread, hkept⟩ := h
  rw [keptOf_reference hread (hkept depth), List.drop_length_add_append]

theorem ampersand_eq_alone (h : ∀ c ∈ s.head?, c.isAlpha = false ∧ c ≠ '#') :
    ampersand s = .alone := by
  rw [ampersand.eq_def]
  split
  · rfl
  next => exact absurd rfl (h '#' rfl).2
  next c r _ =>
    rw [if_neg]
    simp [(h c rfl).1]

/-- What is kept of a part stands in front of what is kept of the rest. -/
theorem map_outside_append (v w : List Char) (x : Except Breach (List Piece)) :
    (x.map (outside depth (textPieces w) ++ ·)).map (outside depth (textPieces v) ++ ·) =
      x.map (outside depth (textPieces (v ++ w)) ++ ·) := by
  rw [map_map, textPieces_append, outside_append]
  simp only [List.append_assoc]

/-- **Of character data is kept what is written for it.** -/
theorem keptOf_data (hd : Data rest d e) (hbracket : '<' ∉ d) :
    keptOf depth final (d ++ rest) =
      (keptOf depth final rest).map (outside depth (textPieces e) ++ ·) := by
  induction hd with
  | nil =>
      show keptOf depth final rest = (keptOf depth final rest).map (outside depth [] ++ ·)
      unfold outside
      cases keptOf depth final rest <;> simp [Except.map]
  | @char c d e hc hd ih =>
      rw [List.mem_cons, not_or] at hbracket
      rw [List.cons_append, keptOf_char (Ne.symm hbracket.1) hc, ih hbracket.2, map_outside_append]
      rfl
  | @alone d e hnext hd ih =>
      rw [List.cons_append, keptOf_alone (ampersand_eq_alone hnext),
        ih fun h => hbracket (.tail _ h), map_outside_append]
      rfl
  | @closed s d e hs hd ih =>
      have hread : ReadsReference s (';' :: (d ++ rest)) := by
        rcases hs with hs | hs
        · exact hs.readsReference ⟨';', rfl, by decide⟩
        · exact hs.readsReference ⟨';', rfl, by decide⟩
      have hd : '<' ∉ d := fun h => hbracket (by simp [h])
      rw [List.cons_append, List.append_assoc, List.cons_append, hread.keptOf]
      show (keptOf depth final (d ++ rest)).map _ = _
      rw [ih hd, map_outside_append]
      simp
  | @name s d e hs hnext hd ih =>
      obtain ⟨c, hc, hname, hsemicolon, -⟩ := hnext
      have hread : ReadsReference s (d ++ rest) := hs.1.readsReference ⟨c, hc, hname⟩
      have hnone : semicolonSize (d ++ rest) = 0 := if_neg (by rw [hc]; simpa using hsemicolon)
      have hd : '<' ∉ d := fun h => hbracket (by simp [h])
      rw [List.cons_append, List.append_assoc, hread.keptOf, hnone, List.drop_zero, ih hd,
        map_outside_append]
      simp
  | @code s d e hs hnext hd ih =>
      obtain ⟨c, hc, hdigit, hsemicolon⟩ := hnext
      have hread : ReadsReference s (d ++ rest) := hs.readsReference ⟨c, hc, hdigit⟩
      have hnone : semicolonSize (d ++ rest) = 0 := if_neg (by rw [hc]; simpa using hsemicolon)
      have hd : '<' ∉ d := fun h => hbracket (by simp [h])
      rw [List.cons_append, List.append_assoc, hread.keptOf, hnone, List.drop_zero, ih hd,
        map_outside_append]
      simp

/-! ## Visible text of character data -/

theorem shownOf_withData {s : List Char} {report : Report} :
    (withData true s report).whole.map (visibleText depth) =
      (decodeText s).bind fun t =>
        (report.whole.map (visibleText depth)).map (outside depth t ++ ·) := by
  unfold withData dataToken
  cases decodeText s with
  | error breach => rfl
  | ok t =>
      show (report.cons (.text t)).whole.map _ = (report.whole.map _).map _
      rw [whole_cons, map_map, map_map]
      rfl

/-- Of character data the decoded text is visible. -/
theorem shownOf_data (hbracket : '<' ∉ d) (hrest : d = [] ∨ ∀ c ∈ rest.head?, c = '<') :
    shownOf depth final (d ++ rest) =
      (decodeText d).bind fun t => (shownOf depth final rest).map (outside depth t ++ ·) := by
  cases d with
  | nil =>
      have hnone : decodeText [] = .ok [] := by rw [decodeText, overlongCode?, decode_nil]
      rw [hnone]
      show shownOf depth final rest = (shownOf depth final rest).map _
      cases shownOf depth final rest <;> simp [Except.map, outside]
  | cons c d =>
      rw [List.mem_cons, not_or] at hbracket
      have hrest := hrest.resolve_left (List.cons_ne_nil c d)
      have hrun : (d ++ rest).takeWhile (fun c => c != '<' && (true || c != '&')) = d := by
        rw [takeWhile_append_of_head]
        · refine List.takeWhile_eq_self_iff.mpr fun c hc => ?_
          have hne : c ≠ '<' := by
            rintro rfl
            exact hbracket.2 hc
          simpa using hne
        · intro c hc
          simp [hrest c hc]
      rw [List.cons_append, shownOf, scan_data (Ne.symm hbracket.1) (fun _ => rfl) hrun,
        List.drop_left]
      exact shownOf_withData

end QuestionBank.Markup
