import QuestionBank.Proofs.Markup.Legible

/-!
# Rich cleaning and the visible text

A text is steady if both readers cut it alike, and what one of them drops has no part in what
the other shows. Its ampersands begin references that mean the same with a semicolon, or
nothing; its brackets begin tags that are kept, dropped elements without words to part, or
nothing; and where something vanishes, nothing in front of it goes on behind it. The visible
text of a steady text stays the same when it is cleaned.
-/

namespace QuestionBank.Markup

open QuestionBank.Text

/-! ## Steady texts -/

/-- A bracket in front of this text begins nothing. -/
def BeginsNothing (s : List Char) : Prop :=
  ∀ c ∈ s.head?, c.isAlpha = false ∧ c ≠ '/' ∧ c ≠ '?' ∧ c ≠ '!'

/-- A tag that is kept, can be read again and, inside of what is dropped, parts no words. -/
def Token.IsKept (depth : Nat) : Token → Prop
  | .openTag name attrs | .emptyTag name attrs =>
    name ∉ activeElements ∧ isLoose (attrs.filter isSafe) = false ∧
      (name ∈ blockElements → depth = 0)
  | .endTag name =>
    name ∉ activeElements ∧ name ∉ voidElements ∧ (∀ c ∈ name, isBlank c = false) ∧
      (name ∈ blockElements → depth = 0)
  | _ => False

/-- A bracket in front of this text begins a tag that is kept, or nothing. -/
def BeginsKept (s : List Char) : Prop :=
  BeginsNothing s ∨ ∃ t size, construct s = .token t size ∧ t.IsKept 0

/-- What follows a bracket begins with what neither reader takes anything from. With it come the
text behind, and the number of dropped elements that are open there. -/
inductive Vanishes (depth : Nat) (r : List Char) : Nat → List Char → Prop where
  | skipped {size : Nat} (hr : construct r = .skipped size) :
      Vanishes depth r depth (r.drop size)
  | opened {name : List Char} {attrs : List Attribute} {size : Nat}
      (hr : construct r = .token (.openTag name attrs) size) (hname : name ∈ activeElements)
      (hraw : name ∉ rawElements) : Vanishes depth r (depth + 1) (r.drop size)
  | empty {name : List Char} {attrs : List Attribute} {size : Nat}
      (hr : construct r = .token (.emptyTag name attrs) size) (hname : name ∈ activeElements) :
      Vanishes depth r depth (r.drop size)
  | closed {name : List Char} {size : Nat} (hr : construct r = .token (.endTag name) size)
      (hname : name ∈ activeElements) : Vanishes depth r (depth - 1) (r.drop size)
  | void {name : List Char} {size : Nat} (hr : construct r = .token (.endTag name) size)
      (hname : name ∈ voidElements) (hblock : name ∉ blockElements) :
      Vanishes depth r depth (r.drop size)
  /-- An element with raw content. -/
  | raw {name : List Char} {attrs : List Attribute} {size place n : Nat}
      (hr : construct r = .token (.openTag name attrs) size) (hname : name ∈ rawElements)
      (hend : search (rawEnd? name) (r.drop size) = some (place, n)) :
      Vanishes depth r depth ((r.drop size).drop (place + n))
  /-- Raw content without an end is the rest of the text. -/
  | lost {name : List Char} {attrs : List Attribute} {size : Nat}
      (hr : construct r = .token (.openTag name attrs) size) (hname : name ∈ rawElements)
      (hend : search (rawEnd? name) (r.drop size) = none) : Vanishes depth r (depth + 1) []

/-- A text, inside of some dropped elements, whose visible text cleaning keeps. Each case takes
character data `d` from its beginning, and what follows it. -/
inductive Steady : Nat → List Char → Prop where
  /-- The data goes through to the end. -/
  | last {depth : Nat} {d e : List Char} (hbracket : '<' ∉ d) (hd : Data [] d e) : Steady depth d
  /-- An ampersand from which on the reader takes the rest as it is. -/
  | untouched {depth : Nat} {d e t : List Char} (hbracket : '<' ∉ d ++ '&' :: t)
      (hd : Data ('&' :: t) d e) (ht : ampersand t = .rest ('&' :: t)) :
      Steady depth (d ++ '&' :: t)
  | tag {depth size : Nat} {d e r : List Char} {t : Token} (hbracket : '<' ∉ d)
      (hd : Data ('<' :: r) d e) (hr : construct r = .token t size) (ht : t.IsKept depth)
      (hrest : Steady depth (r.drop size)) : Steady depth (d ++ '<' :: r)
  /-- A bracket that begins nothing. Nothing vanishes right behind it. -/
  | bracket {depth : Nat} {d e r : List Char} (hbracket : '<' ∉ d) (hd : Data ('<' :: r) d e)
      (hr : BeginsNothing r) (hnext : depth = 0 → ∀ r', r = '<' :: r' → BeginsKept r')
      (hrest : Steady depth r) : Steady depth (d ++ '<' :: r)
  /-- A bracket that begins a tag which the text does not close. -/
  | unfinished {depth : Nat} {d e r : List Char} (hbracket : '<' ∉ d) (hd : Data ('<' :: r) d e)
      (hr : construct r = .unfinished) (hclosed : '>' ∉ r) (hnull : '\x00' ∉ r)
      (hmark : r.head? ≠ some '!') (hrest : Steady depth (r.drop (looseSize r))) :
      Steady depth (d ++ '<' :: r)
  /-- What vanishes. Where text follows, no ampersand stands in front of it. -/
  | vanish {depth depth' : Nat} {d e r s : List Char} (hbracket : '<' ∉ d)
      (hd : Data ('<' :: r) d e) (hr : Vanishes depth r depth' s)
      (hlast : s = [] ∨ d.getLast? ≠ some '&') (hrest : Steady depth' s) :
      Steady depth (d ++ '<' :: r)

/-! ## What the readers make of a construct -/

variable {depth depth' size : Nat} {final final' : Bool} {d e r s v : List Char}
  {ps : List Piece} {t : Token}

theorem keptOf_token (h : construct r = .token t size) (hraw : rawAfter t = none) :
    keptOf depth final ('<' :: r) =
      (scan false final none (r.drop size)).whole.map fun ts => keptPieces depth (t :: ts) := by
  rw [keptOf, whole_token h hraw, map_map]

theorem keptOf_loose (h : construct r = .token (.text ['<']) 0) :
    keptOf depth final ('<' :: r) =
      (keptOf depth final r).map (outside depth (textPieces ['<']) ++ ·) := by
  rw [keptOf_token h rfl, keptOf, map_map]
  rfl

theorem keptOf_unfinished (h : construct r = .unfinished) :
    keptOf depth final ('<' :: r) = (keptOf depth true (r.drop (looseSize r))).map
      (outside depth (textPieces ('<' :: r.take (looseSize r))) ++ ·) := by
  rw [keptOf, scan_unfinished h]
  show ((Report.cons _ _).whole).map _ = _
  rw [whole_cons, map_map, keptOf, map_map]
  rfl

theorem shownOf_unfinished_take (h : construct r = .unfinished)
    (hv : shownOf depth final ('<' :: r) = .ok v) :
    Readable ('<' :: r.take (looseSize r)) ∧
      ∃ v', shownOf depth true (r.drop (looseSize r)) = .ok v' ∧
        v = outside depth (decode ('<' :: r.take (looseSize r))) ++ v' := by
  rw [shownOf, scan_unfinished h, shownOf_withData, Traversal.bind_eq_ok_iff] at hv
  obtain ⟨t, ht, hv⟩ := hv
  obtain ⟨v', hv', rfl⟩ := Traversal.map_eq_ok_iff.mp hv
  obtain ⟨hread, rfl⟩ := decodeText_eq_ok.mp ht
  exact ⟨hread, v', hv', rfl⟩

/-- The piece that a tag is kept as, and the blanks that it parts words with. -/
structure Token.KeptAs (depth : Nat) (t : Token) (p : Piece) (g : List Char) : Prop where
  ne_text : ∀ s, t ≠ .text s
  rawAfter_eq : rawAfter t = none
  keptPieces_eq : ∀ ts, keptPieces depth (t :: ts) = outside depth [p] ++ keptPieces depth ts
  visibleText_eq : ∀ ts, visibleText depth (t :: ts) = outside depth g ++ visibleText depth ts
  legible : ∀ {ps}, Legible ps → Legible (p :: ps)
  readable : ∀ {ps}, ReadableRuns [] ps → ReadableRuns [] (p :: ps)
  meant_eq : ∀ ps, meant [] (p :: ps) = g ++ meant [] ps
  head : '<' ∈ p.chars.head?

theorem outside_gap {name : List Char} (h : name ∈ blockElements → depth = 0)
    (closesItself : Bool) : outside depth (gap name closesItself) = gap name closesItself := by
  by_cases hblock : name ∈ blockElements
  · rw [h hblock]
    rfl
  · have hnone : gap name closesItself = [] := if_neg fun h => hblock (List.contains_iff_mem.mp h)
    rw [hnone]
    exact ite_self []

theorem keptAs_tag {name : List Char} {attrs : List Attribute} (closesItself : Bool)
    (hregular : TagName name ∧ ∀ a ∈ attrs, AttributeName a.name) (hactive : name ∉ activeElements)
    (hloose : isLoose (attrs.filter isSafe) = false) (hblock : name ∈ blockElements → depth = 0) :
    (if closesItself then Token.emptyTag name attrs else .openTag name attrs).KeptAs depth
      (.tag name (attrs.filter isSafe) closesItself) (gap name closesItself) where
  ne_text s := by cases closesItself <;> exact nofun
  rawAfter_eq := rawAfter_tag hactive attrs closesItself
  keptPieces_eq ts := by
    cases closesItself <;> simp [keptPieces, hactive, outside]
  visibleText_eq ts := by rw [outside_gap hblock, visibleText_tag hactive]
  legible hps :=
    .tag (kept_tag hregular.1 hregular.2 (by simpa using hactive)).1 hactive hloose hps
  readable hps := ⟨readable_nil, hps⟩
  meant_eq ps := by rw [meant, decode_nil, List.nil_append]
  head := rfl

theorem keptAs_endTag {name : List Char} (hname : TagName name) (hactive : name ∉ activeElements)
    (hvoid : name ∉ voidElements) (hblank : ∀ c ∈ name, isBlank c = false)
    (hblock : name ∈ blockElements → depth = 0) :
    (Token.endTag name).KeptAs depth (.endTag name) (gap name false) where
  ne_text := nofun
  rawAfter_eq := rfl
  keptPieces_eq ts := by simp [keptPieces, hactive, hvoid, outside]
  visibleText_eq ts := by rw [outside_gap hblock, visibleText_endTag hactive]
  legible hps := .endTag hname hactive hblank hps
  readable hps := ⟨readable_nil, hps⟩
  meant_eq ps := by rw [meant, decode_nil, List.nil_append]
  head := rfl

theorem Token.IsKept.keptAs (h : t.IsKept depth) (hregular : t.Regular) :
    ∃ p g, t.KeptAs depth p g := by
  cases t with
  | openTag name attrs => exact ⟨_, _, keptAs_tag false hregular h.1 h.2.1 h.2.2⟩
  | emptyTag name attrs => exact ⟨_, _, keptAs_tag true hregular h.1 h.2.1 h.2.2⟩
  | endTag name => exact ⟨_, _, keptAs_endTag hregular h.1 h.2.1 h.2.2.1 h.2.2.2⟩
  | text s => exact h.elim
  | named name => exact h.elim
  | numbered code => exact h.elim

theorem Token.KeptAs.kept {p : Piece} {g : List Char} (ht : t.KeptAs depth p g)
    (h : construct r = .token t size) (hps : keptOf depth final ('<' :: r) = .ok ps) :
    ∃ qs, keptOf depth final (r.drop size) = .ok qs ∧ ps = outside depth [p] ++ qs := by
  rw [keptOf_token h ht.rawAfter_eq, Traversal.map_eq_ok_iff] at hps
  obtain ⟨ts, hts, rfl⟩ := hps
  exact ⟨_, Traversal.map_eq_ok_iff.mpr ⟨ts, hts, rfl⟩, ht.keptPieces_eq ts⟩

theorem Token.KeptAs.shown {p : Piece} {g : List Char} (ht : t.KeptAs depth p g)
    (h : construct r = .token t size) (hv : shownOf depth final ('<' :: r) = .ok v) :
    ∃ w, shownOf depth final (r.drop size) = .ok w ∧ v = outside depth g ++ w := by
  rw [shownOf_token h ht.rawAfter_eq, Traversal.map_eq_ok_iff] at hv
  obtain ⟨ts, hts, rfl⟩ := hv
  exact ⟨_, Traversal.map_eq_ok_iff.mpr ⟨ts, hts, rfl⟩, ht.visibleText_eq ts⟩

theorem keptOf_rest (h : ampersand s = .rest ('&' :: s)) :
    keptOf depth final ('&' :: s) = .ok (outside depth (textPieces ('&' :: s))) := by
  rw [keptOf, scan_ampersand, h]
  show Except.ok (keptPieces depth [.text ('&' :: s)]) = _
  rw [keptPieces_text, keptPieces, List.append_nil]

/-! ## What vanishes -/

variable {decoding : Bool} {name : List Char} {attrs : List Attribute} {place n : Nat}

theorem BeginsKept.construct_eq (h : BeginsKept r) :
    ∃ t size, construct r = .token t size ∧ ((∃ s, t = .text s) ∨ t.IsKept 0) := by
  rcases h with hloose | ⟨t, size, hr, ht⟩
  · exact ⟨_, _, construct_loose hloose, .inl ⟨_, rfl⟩⟩
  · exact ⟨t, size, hr, .inr ht⟩

/-- A tag that is not kept does not begin what is kept. -/
theorem not_beginsKept (h : construct r = .token t size) (htext : ∀ s, t ≠ .text s)
    (ht : ¬ t.IsKept 0) : ¬ BeginsKept r := by
  intro hkept
  obtain ⟨t', size', hread, ⟨s, rfl⟩ | hkept⟩ := hkept.construct_eq
  · cases h.symm.trans hread
    exact htext s rfl
  · cases h.symm.trans hread
    exact ht hkept

theorem active_of_raw : ∀ name ∈ rawElements, name ∈ activeElements := by decide

/-- What vanishes ends in a closing bracket and is not kept. -/
theorem Vanishes.ends (h : Vanishes depth r depth' s) : '>' ∈ r ∧ ¬ BeginsKept r := by
  have htag {t : Token} {size : Nat} (hr : construct r = .token t size) (htext : ∀ s, t ≠ .text s)
      (ht : ¬ t.IsKept 0) : '>' ∈ r ∧ ¬ BeginsKept r :=
    ⟨(endsInBracket_tag hr htext).mem, not_beginsKept hr htext ht⟩
  cases h with
  | skipped hr =>
      refine ⟨(endsInBracket_skipped hr).mem, fun hkept => ?_⟩
      obtain ⟨t, size, ht, -⟩ := hkept.construct_eq
      cases hr.symm.trans ht
  | opened hr hname => exact htag hr nofun fun ht => ht.1 hname
  | empty hr hname => exact htag hr nofun fun ht => ht.1 hname
  | closed hr hname => exact htag hr nofun fun ht => ht.1 hname
  | void hr hname => exact htag hr nofun fun ht => ht.2.1 hname
  | raw hr hname => exact htag hr nofun fun ht => ht.1 (active_of_raw _ hname)
  | lost hr hname => exact htag hr nofun fun ht => ht.1 (active_of_raw _ hname)

/-- The tokens of raw content that ends, and of what comes behind it. -/
def rawTokens (name s : List Char) (place : Nat) (ts : List Token) : List Token :=
  if place = 0 then .endTag name :: ts else .text (s.take place) :: .endTag name :: ts

theorem scan_raw (h : search (rawEnd? name) s = some (place, n)) :
    (scan decoding final (some name) s).whole =
      (scan decoding final none (s.drop (place + n))).whole.map (rawTokens name s place) := by
  cases s with
  | nil => cases h
  | cons c s =>
      obtain ⟨k, hk, -⟩ := endsInBracket_search (fun _ _ => endsInBracket_rawEnd) h
      rw [scan]
      simp only [h, hk, Nat.add_sub_cancel, List.drop_succ_cons]
      unfold rawTokens
      split
      · exact whole_cons _ _
      · rw [whole_cons, whole_cons, map_map]

theorem scan_lost (h : search (rawEnd? name) s = none) :
    scan decoding final (some name) s = {} := by
  cases s with
  | nil => rw [scan_nil]
  | cons c s =>
      rw [scan]
      simp only [h]

theorem scan_rawElement (hr : construct r = .token (.openTag name attrs) size)
    (hname : name ∈ rawElements) :
    (scan decoding final none ('<' :: r)).whole =
      (scan decoding final (some name) (r.drop size)).whole.map (.openTag name attrs :: ·) := by
  have hraw : rawAfter (.openTag name attrs) = some name :=
    if_pos (List.contains_iff_mem.mpr hname)
  rw [scan_token hr, hraw, whole_cons]

/-- Neither reader takes anything from the tokens of what vanishes. -/
theorem Vanishes.tokens (h : Vanishes depth r depth' s) :
    ∃ f : List Token → List Token,
      (∀ decoding final, (scan decoding final none ('<' :: r)).whole =
        (scan decoding final none s).whole.map f) ∧
      (∀ ts, keptPieces depth (f ts) = keptPieces depth' ts) ∧
      ∀ ts, visibleText depth (f ts) = visibleText depth' ts := by
  have hvoid : ∀ name ∈ voidElements, name ∉ activeElements := by decide
  have hactive : ∀ name ∈ activeElements, name ∉ blockElements := by decide
  -- Both readers count the dropped elements alike, so the same tokens take them to one depth.
  cases h with
  | skipped hr =>
      refine ⟨id, fun decoding final => ?_, fun _ => rfl, fun _ => rfl⟩
      rw [whole_skipped hr]
      exact (congrFun Except.map_id _).symm
  | @opened name attrs _ hr hname hraw =>
      have hnone : rawAfter (.openTag name attrs) = none := by simp [rawAfter, hraw]
      refine ⟨(.openTag name attrs :: ·), fun _ _ => whole_token hr hnone, ?_, ?_⟩
      · simp [keptPieces, hname]
      · simp [visibleText, hname]
  | @empty name attrs _ hr hname =>
      refine ⟨(.emptyTag name attrs :: ·), fun _ _ => whole_token hr rfl, ?_, ?_⟩
      · simp [keptPieces, hname]
      · simp [visibleText, hactive _ hname]
  | @closed name _ hr hname =>
      refine ⟨(.endTag name :: ·), fun _ _ => whole_token hr rfl, ?_, ?_⟩
      · simp [keptPieces, hname]
      · simp [visibleText, hname]
  | @void name _ hr hname hblock =>
      refine ⟨(.endTag name :: ·), fun _ _ => whole_token hr rfl, ?_, ?_⟩
      · simp [keptPieces, hname, hvoid _ hname]
      · simp [visibleText, hblock, hvoid _ hname]
  | @raw name attrs size place n hr hname hend =>
      refine ⟨fun ts => .openTag name attrs :: rawTokens name (r.drop size) place ts,
        fun _ _ => ?_, fun ts => ?_, fun ts => ?_⟩
      · rw [scan_rawElement hr hname, scan_raw hend, map_map]
      · unfold rawTokens
        split <;> simp [keptPieces, active_of_raw name hname]
      · unfold rawTokens
        split <;> simp [visibleText, active_of_raw name hname]
  | @lost name attrs size hr hname hend =>
      refine ⟨(.openTag name attrs :: ·), fun _ _ => ?_, ?_, ?_⟩
      · rw [scan_rawElement hr hname, scan_lost hend, scan_nil]
      · simp [keptPieces, active_of_raw name hname]
      · simp [visibleText, active_of_raw name hname]

theorem Vanishes.keptOf_eq (h : Vanishes depth r depth' s) :
    keptOf depth final ('<' :: r) = keptOf depth' final s := by
  obtain ⟨f, hscan, hkept, -⟩ := h.tokens
  rw [keptOf, hscan, map_map]
  simp only [hkept]
  rfl

theorem Vanishes.shownOf_eq (h : Vanishes depth r depth' s) :
    shownOf depth final ('<' :: r) = shownOf depth' final s := by
  obtain ⟨f, hscan, -, hshown⟩ := h.tokens
  rw [shownOf, hscan, map_map]
  simp only [hshown]
  rfl

/-! ## Agreement -/

/-- What the two readers make of a text agrees: the kept pieces can be read as they are meant,
and mean the visible text. -/
structure Agrees (depth : Nat) (s v : List Char) (ps : List Piece) : Prop where
  legible : Legible ps
  readable : ReadableRuns [] ps
  meant_eq : meant [] ps = v
  /-- The first character is kept, unless it begins what vanishes. -/
  head : depth = 0 → ∀ c ∈ s.head?, (c = '<' → '>' ∉ s ∨ BeginsKept s.tail) →
    c ∈ (render ps).head?
  /-- Where no bracket closes, only semicolons are added. -/
  mem : '>' ∉ s → ∀ c ∈ render ps, c ∈ s ∨ c = ';'

/-- Character data in front of what agrees. -/
theorem Agrees.data (hd : Data s d e) (hbracket : '<' ∉ d) (hread : Readable d)
    (hends : depth = 0 → Ended e ∨ Apart (render ps)) (h : Agrees depth s v ps) :
    Agrees depth (d ++ s) (outside depth (decode d) ++ v)
      (outside depth (textPieces e) ++ ps) := by
  obtain ⟨hlegible, hreadable, hmeant, hhead, hmem⟩ := h
  cases depth with
  | succ n =>
      refine ⟨hlegible, hreadable, hmeant, nofun, fun hclosed c hc => ?_⟩
      rw [List.mem_append, not_or] at hclosed
      exact (hmem hclosed.2 c hc).imp_left fun h => List.mem_append_right _ h
  | zero =>
      have hbracket' : '<' ∉ e := fun h => (hd.mem h).elim hbracket (by decide)
      refine ⟨hlegible.textPieces hbracket', ?_, ?_, ?_, ?_⟩
      · show ReadableRuns [] (textPieces e ++ ps)
        rw [readableRuns_textPieces]
        exact (readableRuns_run (hends rfl)).mpr ⟨hd.readable_iff.mpr hread, hreadable⟩
      · show meant [] (textPieces e ++ ps) = decode d ++ v
        rw [meant_textPieces, ← hmeant, ← hd.decode_eq]
        exact meant_run (hends rfl)
      · intro hdepth c hc hkept
        show c ∈ (render (textPieces e ++ ps)).head?
        rw [render_append, render_textPieces]
        -- The first character of the data is kept; without data it is that of the rest.
        cases d with
        | nil =>
            have hnone : e = [] := by
              have := hd.head?_eq
              simpa using this
            rw [hnone]
            exact hhead hdepth c hc hkept
        | cons c' d =>
            apply mem_head?_append
            rw [hd.head?_eq]
            exact hc
      · intro hclosed c hc
        rw [List.mem_append, not_or] at hclosed
        have hc : c ∈ e ++ render ps := by
          rw [← render_textPieces e, ← render_append]
          exact hc
        rcases List.mem_append.mp hc with hc | hc
        · exact (hd.mem hc).imp_left fun h => List.mem_append_left _ h
        · exact (hmem hclosed.2 c hc).imp_left fun h => List.mem_append_right _ h

theorem keptOf_nil : keptOf depth final [] = .ok [] := by
  rw [keptOf, scan_nil]
  rfl

theorem agrees_nil (depth : Nat) : Agrees depth [] [] [] :=
  ⟨.nil, readable_nil, decode_nil, by rintro - c ⟨⟩, fun _ _ hc => absurd hc List.not_mem_nil⟩

theorem apart_nil : Apart (render []) := by rintro c ⟨⟩

/-- The readers agree on a text if they agree on what follows its character data. -/
theorem agrees_of_data (hd : Data s d e) (hbracket : '<' ∉ d) (hs : ∀ c ∈ s.head?, c = '<')
    (hv : shownOf depth final (d ++ s) = .ok v) (hps : keptOf depth final' (d ++ s) = .ok ps)
    (h : ∀ w qs, shownOf depth final s = .ok w → keptOf depth final' s = .ok qs →
      Agrees depth s w qs ∧ (depth = 0 → Ended e ∨ Apart (render qs))) :
    Agrees depth (d ++ s) v ps := by
  obtain ⟨hread, w, hw, rfl⟩ := shownOf_ok hbracket hs hv
  rw [keptOf_data hd hbracket, Traversal.map_eq_ok_iff] at hps
  obtain ⟨qs, hqs, rfl⟩ := hps
  obtain ⟨hagrees, hends⟩ := h w qs hw hqs
  exact hagrees.data hd hbracket hread hends

/-- Character data agrees that both readers take as it is. -/
theorem Agrees.text (hbracket : '<' ∉ s) (hread : Readable s) :
    Agrees depth s (outside depth (decode s)) (outside depth (textPieces s)) := by
  cases depth with
  | succ n =>
      exact ⟨.nil, readable_nil, decode_nil, nofun, fun _ _ hc => absurd hc List.not_mem_nil⟩
  | zero =>
      have hrender : render (outside 0 (textPieces s)) = s := render_textPieces s
      have hlegible := Legible.nil.textPieces hbracket
      have hreadable := (readableRuns_textPieces [] s []).mpr hread
      have hmeant := meant_textPieces [] s []
      rw [List.append_nil] at hlegible hreadable hmeant
      refine ⟨hlegible, hreadable, hmeant, fun _ c hc _ => ?_, fun _ c hc => ?_⟩
      · rw [hrender]
        exact hc
      · rw [hrender] at hc
        exact .inl hc

/-- What vanishes leaves what agrees as it is. -/
theorem Agrees.skip (hclosed : '>' ∈ r) (hkept : ¬ BeginsKept r) (h : Agrees depth' s v ps) :
    Agrees depth ('<' :: r) v ps := by
  refine ⟨h.legible, h.readable, h.meant_eq, ?_, fun hnone => absurd (.tail _ hclosed) hnone⟩
  rintro - c ⟨⟩ hc
  rcases hc rfl with hnone | hbegins
  · exact absurd (.tail _ hclosed) hnone
  · exact absurd hbegins hkept

/-- A bracket that is kept does not carry on what stands in front of it. -/
theorem Agrees.apart (h : Agrees depth ('<' :: r) v ps)
    (hr : depth = 0 → '>' ∉ r ∨ BeginsKept r) (hdepth : depth = 0) : Apart (render ps) := by
  have hhead : '<' ∈ (render ps).head? := by
    refine h.head hdepth '<' rfl fun _ => (hr hdepth).imp_left fun hclosed => ?_
    exact List.not_mem_cons_of_ne_of_not_mem (by decide) hclosed
  intro c hc
  obtain rfl := Option.some.inj (hhead.symm.trans hc)
  decide

/-- A tag that is kept agrees, if what follows it does. -/
theorem Agrees.tag {p : Piece} {g : List Char} (hr : construct r = .token t size)
    (ht : t.KeptAs depth p g) (h : Agrees depth s v ps) :
    Agrees depth ('<' :: r) (outside depth g ++ v) (outside depth [p] ++ ps) := by
  have hclosed : '>' ∈ r := (endsInBracket_tag hr ht.ne_text).mem
  cases depth with
  | succ n =>
      exact ⟨h.legible, h.readable, h.meant_eq, nofun, fun hnone => absurd (.tail _ hclosed) hnone⟩
  | zero =>
      refine ⟨ht.legible h.legible, ht.readable h.readable, ?_, ?_,
        fun hnone => absurd (.tail _ hclosed) hnone⟩
      · show meant [] (p :: ps) = g ++ v
        rw [ht.meant_eq, h.meant_eq]
      · rintro - c ⟨⟩ -
        exact mem_head?_append ht.head _

/-- A bracket that begins nothing agrees, if what follows it does. -/
theorem Agrees.bracket (hr : BeginsNothing r)
    (hnext : depth = 0 → ∀ r', r = '<' :: r' → BeginsKept r') (h : Agrees depth r v ps) :
    Agrees depth ('<' :: r) (outside depth ['<'] ++ v) (outside depth [.char '<'] ++ ps) := by
  have hmem (hnone : '>' ∉ '<' :: r) {c : Char} (hc : c ∈ render ps) : c ∈ '<' :: r ∨ c = ';' :=
    (h.mem (fun hc => hnone (.tail _ hc)) c hc).imp_left (.tail _)
  cases depth with
  | succ n => exact ⟨h.legible, h.readable, h.meant_eq, nofun, fun hnone c hc => hmem hnone hc⟩
  | zero =>
      have hstays : StaysText (render ps) := by
        refine .inl fun c hc => ?_
        cases r with
        | nil =>
            -- Nothing is left, so at most a semicolon is kept, and that begins nothing.
            obtain rfl : c = ';' := by
              have hmem := h.mem List.not_mem_nil c (List.mem_of_mem_head? hc)
              exact hmem.resolve_left List.not_mem_nil
            decide
        | cons d r =>
            have hhead := h.head rfl d rfl fun hd => .inr (hnext rfl r (by rw [hd]))
            obtain rfl := Option.some.inj (hhead.symm.trans hc)
            exact hr d rfl
      have hended : Ended ['<'] := Ended.singleton (by decide)
      have hread : Readable ['<'] := (readable_cons (by decide) []).mpr readable_nil
      refine ⟨.bracket hstays h.legible, ?_, ?_, ?_, ?_⟩
      · exact (readableRuns_run (.inl hended)).mpr ⟨hread, h.readable⟩
      · show meant ['<'] ps = '<' :: v
        rw [meant_run (.inl hended), h.meant_eq, decode_cons (by decide), decode_nil]
        rfl
      · rintro - c ⟨⟩ -
        rfl
      · rintro hnone c (_ | ⟨_, hc⟩)
        · exact .inl (.head _)
        · exact hmem hnone hc

/-- A bracket that nothing closes agrees, if what follows it does. -/
theorem Agrees.unfinished {u : List Char} (hr : construct (u ++ r) = .unfinished)
    (hmark : (u ++ r).head? ≠ some '!') (hclosed : '>' ∉ u ++ r) (hnull : '\x00' ∉ u ++ r)
    (hu : '<' ∉ u) (hnext : u = [] ∨ r.head? = some '<') (hread : Readable ('<' :: u))
    (h : Agrees depth r v ps) :
    Agrees depth ('<' :: (u ++ r)) (outside depth (decode ('<' :: u)) ++ v)
      (outside depth (textPieces ('<' :: u)) ++ ps) := by
  have hnone : '>' ∉ r := fun hc => hclosed (List.mem_append_right u hc)
  cases depth with
  | succ n =>
      refine ⟨h.legible, h.readable, h.meant_eq, nofun, fun _ c hc => ?_⟩
      exact (h.mem hnone c hc).imp_left fun hc => .tail _ (List.mem_append_right u hc)
  | zero =>
      have hrest {c : Char} (hc : c ∈ u ++ render ps) : c ∈ u ++ r ∨ c = ';' := by
        rcases List.mem_append.mp hc with hc | hc
        · exact .inl (List.mem_append_left r hc)
        · exact (h.mem hnone c hc).imp_left fun hc => List.mem_append_right u hc
      have hhead : (u ++ render ps).head? = (u ++ r).head? := by
        cases u with
        | cons c u => rfl
        | nil =>
            cases r with
            | nil => cases hr
            | cons c r => exact h.head rfl c rfl fun _ => .inl hnone
      have hstays : StaysText (render (textPieces u ++ ps)) := by
        rw [render_append, render_textPieces]
        refine .inr ⟨fun hc => ?_, fun hc => ?_, hhead ▸ hmark⟩
        · exact hclosed ((hrest hc).resolve_right (by decide))
        · exact hnull ((hrest hc).resolve_right (by decide))
      -- The text of the bracket is cut at the next bracket, or is the bracket alone.
      have hends : Ended ('<' :: u) ∨ Apart (render ps) := by
        rcases hnext with rfl | hr'
        · exact .inl (Ended.singleton (by decide))
        · refine .inr fun c hc => ?_
          have hkept := h.head rfl '<' hr' fun _ => .inl hnone
          obtain rfl := Option.some.inj (hkept.symm.trans hc)
          decide
      refine ⟨.bracket hstays (h.legible.textPieces hu), ?_, ?_, ?_, ?_⟩
      · show ReadableRuns [] (textPieces ('<' :: u) ++ ps)
        rw [readableRuns_textPieces]
        exact (readableRuns_run hends).mpr ⟨hread, h.readable⟩
      · show meant [] (textPieces ('<' :: u) ++ ps) = decode ('<' :: u) ++ v
        rw [meant_textPieces, ← h.meant_eq]
        exact meant_run hends
      · rintro - c ⟨⟩ -
        rfl
      · intro _ c hc
        have hc : c ∈ '<' :: (u ++ render ps) := by
          rw [← render_textPieces u, ← render_append]
          exact hc
        rcases List.mem_cons.mp hc with rfl | hc
        · exact .inl (.head _)
        · exact (hrest hc).imp_left (.tail _)

/-- **The two readers agree on a steady text.** -/
theorem Steady.agrees (h : Steady depth s) (hv : shownOf depth final s = .ok v)
    (hps : keptOf depth final' s = .ok ps) : Agrees depth s v ps := by
  -- Construct by construct. Data in front is decoded for itself: it is ended, or what is kept
  -- behind it begins with a sign that no reference holds.
  induction h generalizing final final' v ps with
  | @last depth d e hbracket hd =>
      rw [← List.append_nil d] at hv hps ⊢
      refine agrees_of_data hd hbracket (by simp) hv hps fun w qs hw hqs => ?_
      rw [shownOf_nil] at hw
      rw [keptOf_nil] at hqs
      cases hw
      cases hqs
      exact ⟨agrees_nil depth, fun _ => .inr apart_nil⟩
  | @untouched depth d e t hbracket hd ht =>
      have hapart : Apart ('&' :: t) := by
        rintro c ⟨⟩
        decide
      rw [← List.append_nil (d ++ _)] at hv
      obtain ⟨hread, w, hw, rfl⟩ := shownOf_ok hbracket (by simp) hv
      rw [shownOf_nil] at hw
      cases hw
      rw [readable_append hapart] at hread
      rw [List.mem_append, not_or] at hbracket
      rw [keptOf_data hd hbracket.1, keptOf_rest ht] at hps
      cases hps
      rw [List.append_nil, decode_append hapart, outside_append]
      refine Agrees.data hd hbracket.1 hread.1 ?_ (Agrees.text hbracket.2 hread.2)
      rintro rfl
      right
      show Apart (render (textPieces ('&' :: t)))
      rw [render_textPieces]
      exact hapart
  | @tag depth size d e r t hbracket hd hr ht hrest ih =>
      refine agrees_of_data hd hbracket (by simp) hv hps fun w qs hw hqs => ?_
      obtain ⟨p, g, hkept⟩ := ht.keptAs (regular_of_construct hr)
      obtain ⟨w, hw', rfl⟩ := hkept.shown hr hw
      obtain ⟨qs, hqs', rfl⟩ := hkept.kept hr hqs
      have hagrees := Agrees.tag hr hkept (ih hw' hqs')
      refine ⟨hagrees, fun hdepth => .inr (hagrees.apart ?_ hdepth)⟩
      rintro rfl
      exact .inr (.inr ⟨t, size, hr, ht⟩)
  | @bracket depth d e r hbracket hd hr hnext hrest ih =>
      refine agrees_of_data hd hbracket (by simp) hv hps fun w qs hw hqs => ?_
      have hread := construct_loose hr
      rw [shownOf_loose hread, Traversal.map_eq_ok_iff] at hw
      obtain ⟨w, hw, rfl⟩ := hw
      rw [keptOf_loose hread, Traversal.map_eq_ok_iff] at hqs
      obtain ⟨qs, hqs, rfl⟩ := hqs
      have hagrees := (ih hw hqs).bracket hr hnext
      exact ⟨hagrees, fun hdepth => .inr (hagrees.apart (fun _ => .inr (.inl hr)) hdepth)⟩
  | @unfinished depth d e r hbracket hd hr hclosed hnull hmark hrest ih =>
      refine agrees_of_data hd hbracket (by simp) hv hps fun w qs hw hqs => ?_
      obtain ⟨hread, w, hw', rfl⟩ := shownOf_unfinished_take hr hw
      rw [keptOf_unfinished hr, Traversal.map_eq_ok_iff] at hqs
      obtain ⟨qs, hqs, rfl⟩ := hqs
      obtain ⟨htake, hdrop⟩ := looseSize_of_not_closed hclosed
      have hagrees := (ih hw' hqs).unfinished (u := r.take (looseSize r))
      rw [List.take_append_drop] at hagrees
      replace hagrees := hagrees hr hmark hclosed hnull htake hdrop hread
      exact ⟨hagrees, fun hdepth => .inr (hagrees.apart (fun _ => .inl hclosed) hdepth)⟩
  | @vanish depth depth' d e r s hbracket hd hr hlast hrest ih =>
      refine agrees_of_data hd hbracket (by simp) hv hps fun w qs hw hqs => ?_
      rw [hr.shownOf_eq] at hw
      rw [hr.keptOf_eq] at hqs
      obtain ⟨hclosed, hkept⟩ := hr.ends
      refine ⟨(ih hw hqs).skip hclosed hkept, fun _ => ?_⟩
      rcases hlast with rfl | hlast
      · right
        rw [keptOf_nil] at hqs
        cases hqs
        exact apart_nil
      · exact .inl (hd.ended hlast)

/-! ## Cleaning -/

/-- **Rich cleaning does not change the visible text of a steady text.** Where both cleanings of
the text end well, so does that of what is cleaned. -/
theorem toPlain_toRich {s out b : String} (h : Steady 0 s.toList) (hrich : toRich s = .ok out)
    (hplain : toPlain s = .ok b) : toPlain out = .ok b := by
  obtain ⟨ts, hts, -⟩ := Traversal.map_eq_ok_iff.mp hrich
  obtain rfl := Except.ok.inj (hrich.symm.trans (toRich_eq hts))
  obtain ⟨ts', hts', rfl⟩ := Traversal.map_eq_ok_iff.mp hplain
  have hkept : keptOf 0 false s.toList = .ok (keptPieces 0 ts) :=
    Traversal.map_eq_ok_iff.mpr ⟨ts, hts, rfl⟩
  have hvisible : shownOf 0 false s.toList = .ok (visibleText 0 ts') :=
    Traversal.map_eq_ok_iff.mpr ⟨ts', hts', rfl⟩
  have hagrees := h.agrees hvisible hkept
  obtain ⟨hcleaned, hsqueeze⟩ := squeeze_stripPieces hagrees.legible
  have hshown : shownOf 0 false (render (cleanedPieces ts)) = .ok (meant [] (cleanedPieces ts)) :=
    hcleaned.shown List.not_mem_nil hagrees.readable.stripPieces
  obtain ⟨ts'', hts'', htext⟩ := Traversal.map_eq_ok_iff.mp hshown
  refine Traversal.map_eq_ok_iff.mpr ⟨ts'', ?_, ?_⟩
  · rw [String.toList_ofList]
    exact hts''
  · rw [htext, ← hagrees.meant_eq]
    exact hsqueeze

/-- A paragraph with references, a bracket that begins nothing, and a script. -/
theorem steady_paragraph :
    Steady 0 "<p>Fish &amp; chips &copy 5 < 6<script>go()</script></p>".toList := by
  have hp : "<p>Fish &amp; chips &copy 5 < 6<script>go()</script></p>".toList =
      [] ++ '<' :: "p>Fish &amp; chips &copy 5 < 6<script>go()</script></p>".toList := by
    decide +kernel
  have hopen : construct "p>Fish &amp; chips &copy 5 < 6<script>go()</script></p>".toList =
      .token (.openTag ['p'] []) 2 := by
    decide +kernel
  have htext : "p>Fish &amp; chips &copy 5 < 6<script>go()</script></p>".toList.drop 2 =
      ("Fish ".toList ++ '&' :: ("amp".toList ++ ';' :: (" chips ".toList ++
        '&' :: ("copy".toList ++ (" 5 ".toList ++ []))))) ++
          '<' :: " 6<script>go()</script></p>".toList := by
    decide +kernel
  have hamp : IsName "amp".toList := ⟨'a', "mp".toList, by decide, by decide, by decide⟩
  have hcopy : IsOldName "copy".toList :=
    ⟨⟨'c', "opy".toList, by decide, by decide, by decide⟩, ['©'], by decide +kernel,
      by decide +kernel⟩
  have hspace : ∃ c ∈ ((" 5 ".toList ++ []) ++ '<' :: " 6<script>go()</script></p>".toList).head?,
      isEntityChar c = false ∧ c ≠ ';' ∧ c ≠ '#' :=
    ⟨' ', by decide, by decide, by decide, by decide⟩
  have hcut : " 6<script>go()</script></p>".toList =
      (" 6".toList ++ []) ++ '<' :: "script>go()</script></p>".toList := by
    decide +kernel
  have hscript : construct "script>go()</script></p>".toList =
      .token (.openTag "script".toList []) 7 := by
    decide +kernel
  have hraw : search (rawEnd? "script".toList) ("script>go()</script></p>".toList.drop 7) =
      some (4, 9) := by
    decide +kernel
  have hrest : ("script>go()</script></p>".toList.drop 7).drop (4 + 9) =
      [] ++ '<' :: "/p>".toList := by
    decide +kernel
  have hclose : construct "/p>".toList = .token (.endTag ['p']) 3 := by decide +kernel
  rw [hp]
  refine .tag (by decide) .nil hopen ⟨by decide, rfl, fun _ => rfl⟩ ?_
  rw [htext]
  refine .bracket (by decide) (.plain (by decide) (.closed (.inl hamp) (.plain (by decide)
    (.name hcopy hspace (.plain (by decide) .nil))))) ?_ ?_ ?_
  · rintro c ⟨⟩
    decide
  · rintro - r' ⟨⟩
  rw [hcut]
  refine .vanish (by decide) (.plain (by decide) .nil) (.raw hscript (by decide) hraw)
    (.inr (by decide)) ?_
  rw [hrest]
  refine .tag (by decide) .nil hclose ⟨by decide, by decide, by decide, fun _ => rfl⟩ ?_
  exact .last (by decide) .nil

/-- The paragraph loses its script, and its text stays. -/
theorem toPlain_toRich_paragraph :
    toRich "<p>Fish &amp; chips &copy 5 < 6<script>go()</script></p>" =
        .ok "<p>Fish &amp; chips &copy; 5 < 6</p>" ∧
      toPlain "<p>Fish &amp; chips &copy 5 < 6<script>go()</script></p>" =
        .ok "Fish & chips © 5 < 6" ∧
      toPlain "<p>Fish &amp; chips &copy; 5 < 6</p>" = .ok "Fish & chips © 5 < 6" := by
  have hrich : toRich "<p>Fish &amp; chips &copy 5 < 6<script>go()</script></p>" =
      .ok "<p>Fish &amp; chips &copy; 5 < 6</p>" := by
    decide +kernel
  have hplain : toPlain "<p>Fish &amp; chips &copy 5 < 6<script>go()</script></p>" =
      .ok "Fish & chips © 5 < 6" := by
    decide +kernel
  exact ⟨hrich, hplain, toPlain_toRich steady_paragraph hrich hplain⟩

/-- What follows an ampersand is taken for the name of a reference, even where it is none. -/
theorem not_forall_toPlain_toRich :
    ¬ ∀ s out a b, toRich s = .ok out → toPlain out = .ok a → toPlain s = .ok b → a = b := by
  intro h
  have hrich : toRich "R&D costs" = .ok "R&D; costs" := by decide +kernel
  have hout : toPlain "R&D; costs" = .ok "R&D; costs" := by decide +kernel
  have hplain : toPlain "R&D costs" = .ok "R&D costs" := by decide +kernel
  exact absurd (h _ _ _ _ hrich hout hplain) (by decide)

end QuestionBank.Markup
