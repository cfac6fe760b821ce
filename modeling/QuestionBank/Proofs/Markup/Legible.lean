import QuestionBank.Proofs.Markup.Data
import QuestionBank.Proofs.Markup.Inert
import QuestionBank.Proofs.Text.Strip

/-!
# Cleaned markup that is read as it is meant

Pieces are legible if every tag is read back as itself and every bracket of text begins
nothing, or a tag that the text does not close. The text of legible pieces is visible
character run by character run, and blanks at the ends do not matter to it.
-/

namespace QuestionBank.Markup

open QuestionBank.Text

/-! ## What pieces mean -/

/-- The blanks that a tag parts words with. -/
def gap (name : List Char) (closesItself : Bool) : List Char :=
  if blockElements.contains name then if closesItself then [' ', ' '] else [' '] else []

/-- The visible text of pieces that are read as they are meant; `run` stands for the character
data in front of them. -/
def meant (run : List Char) : List Piece → List Char
  | [] => decode run
  | .char c :: ps => meant (run ++ [c]) ps
  | .tag name _ closesItself :: ps => decode run ++ (gap name closesItself ++ meant [] ps)
  | .endTag name :: ps => decode run ++ (gap name false ++ meant [] ps)

/-- Every code in the character data of pieces can be read; `run` stands for the data in front
of them. -/
def ReadableRuns (run : List Char) : List Piece → Prop
  | [] => Readable run
  | .char c :: ps => ReadableRuns (run ++ [c]) ps
  | .tag _ _ _ :: ps => Readable run ∧ ReadableRuns [] ps
  | .endTag _ :: ps => Readable run ∧ ReadableRuns [] ps

/-- A bracket in front of this text stays text: it begins nothing, or a tag that nothing
closes. -/
def StaysText (s : List Char) : Prop :=
  (∀ c ∈ s.head?, c.isAlpha = false ∧ c ≠ '/' ∧ c ≠ '?' ∧ c ≠ '!') ∨
    '>' ∉ s ∧ '\x00' ∉ s ∧ s.head? ≠ some '!'

/-- Pieces that are read as they are meant. -/
inductive Legible : List Piece → Prop where
  | nil : Legible []
  | char {c : Char} {ps : List Piece} (hc : c ≠ '<') (hps : Legible ps) : Legible (.char c :: ps)
  | bracket {ps : List Piece} (h : StaysText (render ps)) (hps : Legible ps) :
      Legible (.char '<' :: ps)
  | tag {name : List Char} {attrs : List Attribute} {closesItself : Bool} {ps : List Piece}
      (hregular : (Piece.tag name attrs closesItself).Regular) (hactive : name ∉ activeElements)
      (hloose : isLoose attrs = false) (hps : Legible ps) :
      Legible (.tag name attrs closesItself :: ps)
  | endTag {name : List Char} {ps : List Piece} (hname : TagName name)
      (hactive : name ∉ activeElements) (hblank : ∀ c ∈ name, isBlank c = false)
      (hps : Legible ps) : Legible (.endTag name :: ps)

variable {ps qs : List Piece} {run d r w : List Char} {depth : Nat} {final : Bool}

theorem decode_run {s : List Char} (h : Ended run ∨ Apart (d ++ s)) :
    decode (run ++ d) = decode run ++ decode d := by
  rcases h with h | h
  · exact h.decode_append d
  · exact decode_append (fun c hc => h c (mem_head?_append hc s)) run

theorem readable_run {s : List Char} (h : Ended run ∨ Apart (d ++ s)) :
    Readable (run ++ d) ↔ Readable run ∧ Readable d := by
  rcases h with h | h
  · exact h.readable_append d
  · exact readable_append (fun c hc => h c (mem_head?_append hc s)) run

/-- What pieces mean behind a run that ends in front of them is the text of the run and what
they mean by themselves. -/
theorem meant_append (h : Ended run ∨ Apart (d ++ render ps)) :
    meant (run ++ d) ps = decode run ++ meant d ps := by
  induction ps generalizing d with
  | nil => exact decode_run h
  | cons p ps ih =>
      cases p with
      | char c =>
          have hnext : Ended run ∨ Apart (d ++ [c] ++ render ps) := by
            rw [List.append_assoc]
            exact h
          show meant (run ++ d ++ [c]) ps = decode run ++ meant (d ++ [c]) ps
          rw [List.append_assoc]
          exact ih hnext
      | tag name attrs closesItself => rw [meant, meant, decode_run h, List.append_assoc]
      | endTag name => rw [meant, meant, decode_run h, List.append_assoc]

/-- What pieces mean behind a run that does not go on in them. -/
theorem meant_run (h : Ended run ∨ Apart (render ps)) :
    meant run ps = decode run ++ meant [] ps := by
  have hsplit : meant (run ++ []) ps = decode run ++ meant [] ps := meant_append h
  rw [List.append_nil] at hsplit
  exact hsplit

theorem meant_textPieces (run s : List Char) (ps : List Piece) :
    meant run (textPieces s ++ ps) = meant (run ++ s) ps := by
  induction s generalizing run with
  | nil => rw [List.append_nil]; rfl
  | cons c s ih =>
      show meant (run ++ [c]) (textPieces s ++ ps) = _
      rw [ih, List.append_assoc]
      rfl

theorem readableRuns_append (h : Ended run ∨ Apart (d ++ render ps)) :
    ReadableRuns (run ++ d) ps ↔ Readable run ∧ ReadableRuns d ps := by
  induction ps generalizing d with
  | nil => exact readable_run h
  | cons p ps ih =>
      cases p with
      | char c =>
          have hnext : Ended run ∨ Apart (d ++ [c] ++ render ps) := by
            rw [List.append_assoc]
            exact h
          show ReadableRuns (run ++ d ++ [c]) ps ↔ Readable run ∧ ReadableRuns (d ++ [c]) ps
          rw [List.append_assoc]
          exact ih hnext
      | tag name attrs closesItself =>
          rw [ReadableRuns, ReadableRuns, readable_run h, and_assoc]
      | endTag name => rw [ReadableRuns, ReadableRuns, readable_run h, and_assoc]

theorem readableRuns_run (h : Ended run ∨ Apart (render ps)) :
    ReadableRuns run ps ↔ Readable run ∧ ReadableRuns [] ps := by
  have hsplit : ReadableRuns (run ++ []) ps ↔ Readable run ∧ ReadableRuns [] ps :=
    readableRuns_append h
  rw [List.append_nil] at hsplit
  exact hsplit

theorem readableRuns_textPieces (run s : List Char) (ps : List Piece) :
    ReadableRuns run (textPieces s ++ ps) ↔ ReadableRuns (run ++ s) ps := by
  induction s generalizing run with
  | nil => rw [List.append_nil]; rfl
  | cons c s ih =>
      show ReadableRuns (run ++ [c]) (textPieces s ++ ps) ↔ _
      rw [ih, List.append_assoc]
      rfl

theorem Legible.textPieces {s : List Char} (hs : '<' ∉ s) (hps : Legible ps) :
    Legible (textPieces s ++ ps) := by
  induction s with
  | nil => exact hps
  | cons c s ih =>
      rw [List.mem_cons, not_or] at hs
      exact .char (Ne.symm hs.1) (ih hs.2)

/-! ## Brackets that stay text -/

theorem EndsInBracket.mem {s : List Char} {n : Nat} (h : EndsInBracket s n) : '>' ∈ s := by
  obtain ⟨k, -, hk⟩ := h
  exact List.mem_of_getElem? hk

/-- A bracket that no closing bracket follows begins nothing, or what does not end. -/
theorem construct_of_not_closed (hbracket : '>' ∉ r) (hnull : '\x00' ∉ r)
    (hhead : r.head? ≠ some '!') :
    construct r = .unfinished ∨ construct r = .token (.text ['<']) 0 := by
  have htag {c : Char} {r' : List Char} (hr : r = c :: r') (hc : c.isAlpha = true) :
      startTag c r' = .unfinished := by
    cases hstart : startTag c r' with
    | complete name attrs closesItself size =>
        exact absurd (hr ▸ (endsInBracket_startTag hstart).mem) hbracket
    | malformed attrs size =>
        exact absurd (hr ▸ List.mem_of_getElem? (startTag_malformed hc hstart).1) hnull
    | unfinished => rfl
  have hend (s : List Char) (hs : '>' ∉ s) : sizeThroughBracket? s = none := by
    cases h : sizeThroughBracket? s with
    | none => rfl
    | some n => exact absurd (endsInBracket_sizeThroughBracket h).mem hs
  cases r with
  | nil => exact .inr rfl
  | cons c r =>
      have hrest : '>' ∉ r := fun h => hbracket (.tail _ h)
      unfold construct
      dsimp only
      split
      next hc =>
        left
        rw [startConstruct, htag rfl hc]
      next =>
        split
        · left
          rw [endConstruct, hend r hrest]
        · split
          · left
            rw [hend r hrest]
            rfl
          · split
            next hc => exact absurd (congrArg some hc) hhead
            · exact .inr rfl

theorem construct_loose (h : ∀ c ∈ r.head?, c.isAlpha = false ∧ c ≠ '/' ∧ c ≠ '?' ∧ c ≠ '!') :
    construct r = .token (.text ['<']) 0 := by
  cases r with
  | nil => rfl
  | cons c r =>
      obtain ⟨halpha, hslash, hquestion, hmark⟩ := h c rfl
      simp [construct, halpha, hslash, hquestion, hmark]

/-- A bracket that begins nothing is visible as it is. -/
theorem shownOf_loose (h : construct r = .token (.text ['<']) 0) :
    shownOf depth final ('<' :: r) = (shownOf depth final r).map (outside depth ['<'] ++ ·) := by
  rw [shownOf, whole_token h rfl, shownOf, map_map, map_map]
  rfl

theorem decodeText_cons {c : Char} (hc : c ≠ '&') (s : List Char) :
    decodeText (c :: s) = (decodeText s).map (c :: ·) := by
  have hcode : overlongCode? (c :: s) = overlongCode? s := by
    rw [overlongCode?]
    exact fun r h => absurd h hc
  unfold decodeText
  rw [hcode, decode_cons hc]
  cases overlongCode? s <;> rfl

/-- Where nothing closes a bracket, the reader takes with it what stands in front of the next
one. -/
theorem looseSize_of_not_closed (hbracket : '>' ∉ r) :
    '<' ∉ r.take (looseSize r) ∧
      (r.take (looseSize r) = [] ∨ (r.drop (looseSize r)).head? = some '<') := by
  have hnone : sizeThroughBracket? r = none := by
    cases h : sizeThroughBracket? r with
    | none => rfl
    | some n => exact absurd (endsInBracket_sizeThroughBracket h).mem hbracket
  unfold looseSize
  rw [hnone]
  dsimp only
  split
  · exact ⟨List.not_mem_nil, .inl rfl⟩
  next hopen =>
    refine ⟨notMem_take_takeWhile rfl r, .inr ?_⟩
    rw [List.isEmpty_iff] at hopen
    obtain ⟨c, s, hs⟩ := List.exists_cons_of_ne_nil hopen
    have hc : r[(r.takeWhile (· != '<')).length]? = some c := by
      rw [← List.head?_drop, hs]
      rfl
    rw [hs]
    simpa using getElem?_takeWhile hc

/-- A bracket that nothing closes is visible as it is. -/
theorem shownOf_unfinished (h : construct r = .unfinished) (hbracket : '>' ∉ r) :
    shownOf depth final ('<' :: r) = (shownOf depth true r).map (outside depth ['<'] ++ ·) := by
  obtain ⟨htake, hdrop⟩ := looseSize_of_not_closed hbracket
  have hrest : shownOf depth true r = (decodeText (r.take (looseSize r))).bind fun t =>
      (shownOf depth true (r.drop (looseSize r))).map (outside depth t ++ ·) := by
    have hstart : r.take (looseSize r) = [] ∨
        ∀ c ∈ (r.drop (looseSize r)).head?, c = '<' := by
      refine hdrop.imp_right fun h c hc => ?_
      rw [h] at hc
      exact (Option.some.inj hc).symm
    have hsplit : shownOf depth true (r.take (looseSize r) ++ r.drop (looseSize r)) = _ :=
      shownOf_data htake hstart
    rw [List.take_append_drop] at hsplit
    exact hsplit
  have hread : shownOf depth final ('<' :: r) =
      (decodeText ('<' :: r.take (looseSize r))).bind fun t =>
        (shownOf depth true (r.drop (looseSize r))).map (outside depth t ++ ·) := by
    rw [shownOf, scan_unfinished h]
    exact shownOf_withData
  rw [hread, hrest, decodeText_cons (by decide)]
  cases decodeText (r.take (looseSize r)) with
  | error breach => rfl
  | ok t =>
      show (shownOf depth true _).map _ = ((shownOf depth true _).map _).map _
      rw [map_map]
      simp only [← List.append_assoc, ← outside_append]
      rfl

/-- A bracket that stays text is visible as it is. -/
theorem shownOf_bracket (h : StaysText r) :
    ∃ final', shownOf depth final ('<' :: r) =
      (shownOf depth final' r).map (outside depth ['<'] ++ ·) := by
  rcases h with hhead | ⟨hbracket, hnull, hhead⟩
  · exact ⟨final, shownOf_loose (construct_loose hhead)⟩
  · rcases construct_of_not_closed hbracket hnull hhead with hread | hread
    · exact ⟨true, shownOf_unfinished hread hbracket⟩
    · exact ⟨final, shownOf_loose hread⟩

/-! ## Tags that are read back -/

/-- A name without blanks is read back from an end tag. -/
theorem endName_written {name : List Char} (hname : TagName name)
    (hblank : ∀ c ∈ name, isBlank c = false) (s : List Char) :
    endName? (name ++ '>' :: s) = some name := by
  obtain ⟨c, r, rfl, hc⟩ := hname.letter
  have hstart : (c :: (r ++ '>' :: s)).dropWhile isBlank = c :: (r ++ '>' :: s) :=
    List.dropWhile_cons_of_neg (by simp [hblank c (.head _)])
  by_cases hall : ∀ d ∈ r, isEndNameChar d = true
  · have hrun : (r ++ '>' :: s).takeWhile isEndNameChar = r :=
      takeWhile_append_stop hall (by decide) s
    have hend : ('>' :: s).dropWhile isBlank = '>' :: s := List.dropWhile_cons_of_neg (by decide)
    have hplain : plainEndName? (c :: (r ++ '>' :: s)) = some (c :: r) := by
      simp only [plainEndName?, hstart, hrun, List.drop_left, hend, hc]
      rfl
    have hread : endName? (c :: (r ++ '>' :: s)) = some (lower (c :: r)) := by
      unfold endName?
      rw [hplain]
    rw [List.cons_append, hread, hname.lowered]
  · -- The name holds a sign that a plain name does not, and no closing bracket follows it.
    have hplain : plainEndName? (c :: (r ++ '>' :: s)) = none := by
      obtain ⟨d, u, hd⟩ : ∃ d u, r.dropWhile isEndNameChar = d :: u := by
        refine List.exists_cons_of_ne_nil fun hnil => hall ?_
        exact fun c hc => List.dropWhile_eq_nil_iff.mp hnil c hc
      have hmem : d ∈ r := (List.dropWhile_suffix isEndNameChar).subset (hd ▸ .head _)
      have hrun : (r ++ '>' :: s).dropWhile isEndNameChar = d :: (u ++ '>' :: s) := by
        rw [List.dropWhile_append, hd]
        rfl
      have hsolid : isBlank d = false := hblank d (.tail _ hmem)
      have hopen : d ≠ '>' := by
        rintro rfl
        exact absurd (hname.chars _ (.tail _ hmem)) (by decide)
      simp only [plainEndName?, hstart, drop_length_takeWhile, hrun]
      rw [List.dropWhile_cons_of_neg (by simp [hsolid])]
      simp [hopen]
    have hrun : (r ++ '>' :: s).takeWhile isTagNameChar = r :=
      takeWhile_append_stop (fun d hd => hname.chars d (.tail _ hd)) (by decide) s
    have hread : endName? (c :: (r ++ '>' :: s)) = some (lower (c :: r)) := by
      unfold endName?
      rw [hplain]
      dsimp only
      rw [if_pos hc, hrun]
    rw [List.cons_append, hread, hname.lowered]

theorem endConstruct_written {name : List Char} (hname : TagName name)
    (hblank : ∀ c ∈ name, isBlank c = false) (s : List Char) :
    endConstruct (name ++ '>' :: s) = .token (.endTag name) (name.length + 2) := by
  have hrun : (name ++ '>' :: s).takeWhile (· != '>') = name := by
    refine takeWhile_append_stop (fun c hc => ?_) (by decide) s
    rw [bne_iff_ne]
    rintro rfl
    exact notMem_name hname hc
  have hsize : sizeThroughBracket? (name ++ '>' :: s) = some (name.length + 1) := by
    simp [sizeThroughBracket?, hrun]
  rw [endConstruct, hsize, endName_written hname hblank]

/-! ## Reading pieces -/

theorem shownOf_nil : shownOf depth final [] = .ok [] := by
  rw [shownOf, scan_nil]
  rfl

theorem decodeText_eq_ok {s t : List Char} :
    decodeText s = .ok t ↔ Readable s ∧ t = decode s := by
  unfold decodeText Readable
  split
  next h => simp [h]
  next h => simp [h, eq_comm]

/-- What is visible of character data and what comes behind it. -/
theorem shownOf_readable {s : List Char} (hd : '<' ∉ d) (hs : ∀ c ∈ s.head?, c = '<')
    (hread : Readable d) :
    shownOf depth final (d ++ s) =
      (shownOf depth final s).map (outside depth (decode d) ++ ·) := by
  rw [shownOf_data hd (.inr hs), decodeText_eq_ok.mpr ⟨hread, rfl⟩]
  rfl

theorem shownOf_ok {s : List Char} (hd : '<' ∉ d) (hs : ∀ c ∈ s.head?, c = '<')
    (h : shownOf depth final (d ++ s) = .ok w) :
    Readable d ∧ ∃ w', shownOf depth final s = .ok w' ∧ w = outside depth (decode d) ++ w' := by
  rw [shownOf_data hd (.inr hs), Traversal.bind_eq_ok_iff] at h
  obtain ⟨t, ht, h⟩ := h
  obtain ⟨w', hw', rfl⟩ := Traversal.map_eq_ok_iff.mp h
  obtain ⟨hread, rfl⟩ := decodeText_eq_ok.mp ht
  exact ⟨hread, w', hw', rfl⟩

/-- A tag that is read as a token is visible as the blanks that it parts words with. -/
theorem shownOf_token {t : Token} {size : Nat} (h : construct r = .token t size)
    (hraw : rawAfter t = none) :
    shownOf depth final ('<' :: r) =
      (scan true final none (r.drop size)).whole.map fun ts => visibleText depth (t :: ts) := by
  rw [shownOf, whole_token h hraw, map_map]

theorem visibleText_tag {name : List Char} (hactive : name ∉ activeElements)
    (attrs : List Attribute) (closesItself : Bool) (ts : List Token) :
    visibleText depth ((if closesItself then .emptyTag name attrs else .openTag name attrs) :: ts) =
      gap name closesItself ++ visibleText depth ts := by
  have hkept : activeElements.contains name = false := by simpa using hactive
  cases closesItself with
  | true =>
      show (if _ then _ else _) = _
      unfold gap
      split <;> rfl
  | false =>
      show (if _ then _ else if _ then _ else _) = _
      rw [hkept]
      unfold gap
      simp only [Bool.false_eq_true, if_false]
      split <;> rfl

theorem visibleText_endTag {name : List Char} (hactive : name ∉ activeElements)
    (ts : List Token) :
    visibleText depth (.endTag name :: ts) = gap name false ++ visibleText depth ts := by
  have hkept : activeElements.contains name = false := by simpa using hactive
  rw [visibleText, hkept]
  unfold gap
  simp only [Bool.false_eq_true, if_false]
  split <;> rfl

theorem rawAfter_tag {name : List Char} (hactive : name ∉ activeElements)
    (attrs : List Attribute) (closesItself : Bool) :
    rawAfter (if closesItself then .emptyTag name attrs else .openTag name attrs) = none := by
  cases closesItself with
  | true => rfl
  | false =>
      have hraw : ∀ name ∈ rawElements, name ∈ activeElements := by decide
      refine if_neg fun h => hactive (hraw name (List.contains_iff_mem.mp h))

/-- A tag that is written is visible as the blanks that it parts words with. -/
theorem shownOf_writtenTag {name : List Char} {attrs : List Attribute} {closesItself : Bool}
    (hregular : (Piece.tag name attrs closesItself).Regular) (hactive : name ∉ activeElements)
    (hloose : isLoose attrs = false) (s : List Char) :
    shownOf depth final ((Piece.tag name attrs closesItself).chars ++ s) =
      (shownOf depth final s).map (gap name closesItself ++ ·) := by
  obtain ⟨c, r, rfl, hc⟩ := hregular.1.letter
  obtain ⟨size, hread, hdrop⟩ :=
    startConstruct_written hregular.1 hregular.2 hloose closesItself s
  have hchars : (Piece.tag (c :: r) attrs closesItself).chars ++ s =
      '<' :: c :: (r ++ written attrs (closing closesItself ++ s)) := by
    rw [Piece.chars, written_append]
    simp
  have hconstruct : construct (c :: (r ++ written attrs (closing closesItself ++ s))) =
      .token (if closesItself then .emptyTag (c :: r) attrs else .openTag (c :: r) attrs) size := by
    rw [construct, if_pos hc, hread]
  rw [hchars, shownOf_token hconstruct (rawAfter_tag hactive attrs closesItself), hdrop, shownOf,
    map_map]
  simp only [visibleText_tag hactive]

theorem shownOf_writtenEndTag {name : List Char} (hname : TagName name)
    (hactive : name ∉ activeElements) (hblank : ∀ c ∈ name, isBlank c = false) (s : List Char) :
    shownOf depth final ((Piece.endTag name).chars ++ s) =
      (shownOf depth final s).map (gap name false ++ ·) := by
  have hchars : (Piece.endTag name).chars ++ s = '<' :: '/' :: (name ++ '>' :: s) := by
    rw [Piece.chars]
    simp
  have hconstruct : construct ('/' :: (name ++ '>' :: s)) =
      .token (.endTag name) (name.length + 2) := by
    rw [construct, if_neg (by decide), if_pos rfl, endConstruct_written hname hblank]
  have hdrop : ('/' :: (name ++ '>' :: s)).drop (name.length + 2) = s := by
    rw [List.drop_succ_cons, List.drop_length_add_append]
    rfl
  rw [hchars, shownOf_token hconstruct rfl, hdrop, shownOf, map_map]
  simp only [visibleText_endTag hactive]

/-- **The text of legible pieces is visible as it is meant.** -/
theorem Legible.shown (h : Legible ps) (hd : '<' ∉ d) (hread : ReadableRuns d ps) :
    shownOf 0 final (d ++ render ps) = .ok (meant d ps) := by
  -- `d` holds the characters that are met on the way; a tag or a bracket of text ends them.
  induction h generalizing d final with
  | nil =>
      show shownOf 0 final (d ++ []) = .ok (decode d)
      rw [shownOf_readable hd (by simp) hread, shownOf_nil]
      show Except.ok (decode d ++ []) = _
      rw [List.append_nil]
  | @char c ps hc hps ih =>
      have hd' : '<' ∉ d ++ [c] := by simp [hd, Ne.symm hc]
      have hwhole : shownOf 0 final (d ++ [c] ++ render ps) = .ok (meant (d ++ [c]) ps) :=
        ih hd' hread
      rw [List.append_assoc] at hwhole
      exact hwhole
  | @bracket ps hstays hps ih =>
      have hapart : Apart (['<'] ++ render ps) := by
        rintro c ⟨⟩
        decide
      have hended : Ended ['<'] := Ended.singleton (by decide)
      obtain ⟨hread, hread'⟩ := (readableRuns_append (.inr hapart)).mp hread
      obtain ⟨final', hbracket⟩ : ∃ final', shownOf 0 final ('<' :: render ps) =
          (shownOf 0 final' (render ps)).map (outside 0 ['<'] ++ ·) := shownOf_bracket hstays
      have hrest : shownOf 0 final' (render ps) = .ok (meant [] ps) :=
        ih List.not_mem_nil ((readableRuns_run (.inl hended)).mp hread').2
      show shownOf 0 final (d ++ '<' :: render ps) = .ok (meant (d ++ ['<']) ps)
      rw [shownOf_readable hd (by simp) hread, hbracket, hrest, meant_append (.inr hapart),
        meant_run (.inl hended), decode_cons (by decide), decode_nil]
      rfl
  | @tag name attrs closesItself ps hregular hactive hloose hps ih =>
      rw [render_cons, shownOf_readable hd (by rintro c ⟨⟩; rfl) hread.1,
        shownOf_writtenTag hregular hactive hloose, ← List.nil_append (render ps),
        ih List.not_mem_nil hread.2]
      rfl
  | @endTag name ps hname hactive hblank hps ih =>
      rw [render_cons, shownOf_readable hd (by rintro c ⟨⟩; rfl) hread.1,
        shownOf_writtenEndTag hname hactive hblank, ← List.nil_append (render ps),
        ih List.not_mem_nil hread.2]
      rfl

/-! ## Blanks at the ends -/

theorem foreign_of_isBlank {c : Char} (h : isBlank c = true) : Foreign c := by
  constructor
  · by_contra hknown
    rw [Bool.not_eq_false] at hknown
    have hsolid := of_ascii (P := fun c => isKnownSign c = true → isBlank c = false)
      (by decide +kernel) (by have := isKnownCode_le hknown; omega) hknown
    rw [h] at hsolid
    cases hsolid
  · rintro rfl
    cases h

theorem StaysText.of_append {s t : List Char} (h : StaysText (s ++ t)) : StaysText s := by
  rcases h with h | ⟨hbracket, hnull, hhead⟩
  · exact .inl fun c hc => h c (mem_head?_append hc t)
  · rw [List.mem_append, not_or] at hbracket hnull
    exact .inr ⟨hbracket.1, hnull.1, fun h => hhead (mem_head?_append h t)⟩

/-- The first of legible pieces are legible. -/
theorem Legible.of_append (h : Legible (ps ++ qs)) : Legible ps := by
  induction ps with
  | nil => exact .nil
  | cons p ps ih =>
      generalize hrest : ps ++ qs = rest at ih
      rw [List.cons_append, hrest] at h
      cases h with
      | char hc hps => exact .char hc (ih hps)
      | bracket hstays hps =>
          rw [← hrest, render_append] at hstays
          exact .bracket hstays.of_append (ih hps)
      | tag hregular hactive hloose hps => exact .tag hregular hactive hloose (ih hps)
      | endTag hname hactive hblank hps => exact .endTag hname hactive hblank (ih hps)

/-- A blank at the end of pieces is meant as it is. -/
theorem meant_concat_blank {c : Char} (hc : isBlank c = true) (run : List Char) (ps : List Piece) :
    meant run (ps ++ [.char c]) = meant run ps ++ [c] := by
  have hne : c ≠ '&' := by
    rintro rfl
    cases hc
  induction ps generalizing run with
  | nil =>
      have hapart : Apart [c] := by
        rintro d ⟨⟩
        exact foreign_of_isBlank hc
      show decode (run ++ [c]) = decode run ++ [c]
      rw [decode_append hapart, decode_cons hne, decode_nil]
  | cons p ps ih =>
      cases p with
      | char d => exact ih _
      | tag name attrs closesItself => simp [meant, ih]
      | endTag name => simp [meant, ih]

theorem squeeze_dropWhile (h : Legible ps) :
    Legible (ps.dropWhile Piece.isBlank) ∧
      squeeze (String.ofList (meant [] (ps.dropWhile Piece.isBlank))) =
        squeeze (String.ofList (meant [] ps)) := by
  induction ps with
  | nil => exact ⟨h, rfl⟩
  | cons p ps ih =>
      by_cases hp : p.isBlank = true
      · cases h with
        | @char c _ hc hps =>
            have hblank : isBlank c = true := hp
            have hne : c ≠ '&' := by
              rintro rfl
              cases hblank
            have hmeant : meant [] (.char c :: ps) = c :: meant [] ps := by
              show meant ([c] ++ []) ps = _
              rw [meant_append (.inl (Ended.singleton hne)), decode_cons hne, decode_nil]
              rfl
            rw [List.dropWhile_cons_of_pos hp, hmeant, squeeze_cons_blank hblank]
            exact ih hps
        | bracket => cases hp
        | tag => cases hp
        | endTag => cases hp
      · rw [List.dropWhile_cons_of_neg hp]
        exact ⟨h, rfl⟩

theorem squeeze_rdropWhile (ps : List Piece) :
    squeeze (String.ofList (meant [] (ps.rdropWhile Piece.isBlank))) =
      squeeze (String.ofList (meant [] ps)) := by
  induction ps using List.reverseRecOn with
  | nil => rfl
  | append_singleton ps p ih =>
      by_cases hp : p.isBlank = true
      · rw [List.rdropWhile_concat_pos _ _ _ hp, ih]
        cases p with
        | char c => rw [meant_concat_blank hp, squeeze_concat_blank hp]
        | tag => cases hp
        | endTag => cases hp
      · rw [List.rdropWhile_concat_neg _ _ _ hp]

/-- **Blanks at the ends of legible pieces do not matter.** -/
theorem squeeze_stripPieces (h : Legible ps) :
    Legible (stripPieces ps) ∧
      squeeze (String.ofList (meant [] (stripPieces ps))) =
        squeeze (String.ofList (meant [] ps)) := by
  obtain ⟨hlegible, hsqueeze⟩ := squeeze_dropWhile h
  constructor
  · obtain ⟨qs, hqs⟩ := List.rdropWhile_prefix Piece.isBlank (ps.dropWhile Piece.isBlank)
    rw [← hqs] at hlegible
    exact hlegible.of_append
  · rw [stripPieces, squeeze_rdropWhile, hsqueeze]

theorem ReadableRuns.readable (h : ReadableRuns run ps) : Readable run := by
  induction ps generalizing run with
  | nil => exact h
  | cons p ps ih =>
      cases p with
      | char c => exact (ih h).of_append
      | tag name attrs closesItself => exact h.1
      | endTag name => exact h.1

theorem ReadableRuns.of_append (h : ReadableRuns run (ps ++ qs)) : ReadableRuns run ps := by
  induction ps generalizing run with
  | nil => exact h.readable
  | cons p ps ih =>
      cases p with
      | char c => exact ih h
      | tag name attrs closesItself => exact ⟨h.1, ih h.2⟩
      | endTag name => exact ⟨h.1, ih h.2⟩

theorem ReadableRuns.stripPieces (h : ReadableRuns [] ps) : ReadableRuns [] (stripPieces ps) := by
  have hstart : ReadableRuns [] (ps.dropWhile Piece.isBlank) := by
    induction ps with
    | nil => exact h
    | cons p ps ih =>
        by_cases hp : p.isBlank = true
        · rw [List.dropWhile_cons_of_pos hp]
          cases p with
          | char c =>
              have hne : c ≠ '&' := by
                rintro rfl
                cases hp
              have hread : ReadableRuns [c] ps := h
              exact ih ((readableRuns_run (.inl (Ended.singleton hne))).mp hread).2
          | tag => cases hp
          | endTag => cases hp
        · rw [List.dropWhile_cons_of_neg hp]
          exact h
  obtain ⟨qs, hqs⟩ := List.rdropWhile_prefix Piece.isBlank (ps.dropWhile Piece.isBlank)
  rw [← hqs] at hstart
  exact hstart.of_append

end QuestionBank.Markup
