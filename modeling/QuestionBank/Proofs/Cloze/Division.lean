import QuestionBank.Proofs.Cloze.Scan
import QuestionBank.Proofs.Cloze.Swallowed

/-!
# The one division of a text at its blocks

A text with blocks is divided at them: what stands in front of the first block, then each block
with what stands between it and the next one. The parts between blocks hold no beginning of a
block, and the blocks are well formed. A text is divided in one way at most, since the first
beginning of a block in it has to be the first block. What is read of a text is what this division
says, and a text is read just when it is divided at blocks that can all be read.
-/

namespace QuestionBank.Cloze

open QuestionBank.Text QuestionBank.Number

/-! ## Divisions -/

/-- A text divided at its blocks: what stands in front of them, and each block with what follows
it. -/
@[ext]
structure Division where
  lead : List Char
  rest : List (RawBlock × List Char)

namespace Division

/-- The text that is divided. -/
def text (d : Division) : List Char := d.lead ++ d.rest.flatMap fun entry => entry.1.text ++ entry.2

/-- The blocks of a division. -/
def blocks (d : Division) : List RawBlock := d.rest.map Prod.fst

/-- The text with a numbered place for each block. -/
def placed (d : Division) : List Char :=
  d.lead ++ (d.rest.zipIdx 1).flatMap fun entry => placeholder entry.2 ++ entry.1.2

/-- A division divides a text if it has this text, its blocks are well formed, and no block
begins between them. -/
structure Divides (d : Division) (s : List Char) : Prop where
  text_eq : d.text = s
  lead : Quiet d.lead
  wellFormed : ∀ b ∈ d.blocks, b.WellFormed
  between : ∀ entry ∈ d.rest, Quiet entry.2

/-- The pieces of a division. -/
def pieces (d : Division) : List Piece :=
  signs d.lead ++ d.rest.flatMap fun entry => .block entry.1 :: signs entry.2

/-- The division that pieces make: the signs in front of a block belong together. -/
def ofPieces : List Piece → Division
  | [] => ⟨[], []⟩
  | .sign c :: ps => ⟨c :: (ofPieces ps).lead, (ofPieces ps).rest⟩
  | .block b :: ps => ⟨[], (b, (ofPieces ps).lead) :: (ofPieces ps).rest⟩

theorem ofPieces_signs_append (s : List Char) (ps : List Piece) :
    ofPieces (signs s ++ ps) = ⟨s ++ (ofPieces ps).lead, (ofPieces ps).rest⟩ := by
  induction s with
  | nil => rfl
  | cons c s ih =>
      show ofPieces (.sign c :: (signs s ++ ps)) = _
      rw [ofPieces, ih]
      rfl

theorem ofPieces_rest (rest : List (RawBlock × List Char)) :
    ofPieces (rest.flatMap fun entry => .block entry.1 :: signs entry.2) = ⟨[], rest⟩ := by
  induction rest with
  | nil => rfl
  | cons entry rest ih =>
      rw [List.flatMap_cons, List.cons_append, ofPieces, ofPieces_signs_append, ih,
        List.append_nil]

/-- A division is made of its own pieces. -/
theorem ofPieces_pieces (d : Division) : ofPieces d.pieces = d := by
  rw [pieces, ofPieces_signs_append, ofPieces_rest, List.append_nil]

/-- Pieces are those of the division that they make. -/
theorem pieces_ofPieces (ps : List Piece) : (ofPieces ps).pieces = ps := by
  induction ps with
  | nil => rfl
  | cons p ps ih =>
      cases p with
      | sign c => exact congrArg (Piece.sign c :: ·) ih
      | block b => exact congrArg (Piece.block b :: ·) ih

theorem render_pieces (d : Division) : render d.pieces = d.text := by
  rw [pieces, render_append, render_signs, text]
  congr 1
  induction d.rest with
  | nil => rfl
  | cons entry rest ih =>
      rw [List.flatMap_cons, List.flatMap_cons, render_append, render_block, render_signs, ih]

theorem blocks_pieces (d : Division) : Cloze.blocks d.pieces = d.blocks := by
  rw [pieces, blocks_append, blocks_signs, List.nil_append, blocks]
  induction d.rest with
  | nil => rfl
  | cons entry rest ih =>
      rw [List.flatMap_cons, blocks_append, ih]
      show entry.1 :: Cloze.blocks (signs entry.2) ++ _ = _
      rw [blocks_signs]
      rfl

theorem places_pieces (d : Division) : places 1 d.pieces = d.placed := by
  rw [pieces, places_signs_append, placed]
  congr 1
  generalize (1 : Nat) = position
  induction d.rest generalizing position with
  | nil => rfl
  | cons entry rest ih =>
      rw [List.flatMap_cons, List.cons_append, places, places_signs_append, ih, List.zipIdx_cons,
        List.flatMap_cons, List.append_assoc]

/-! ## Divisions and legible pieces -/

/-- The pieces of a division with well-formed blocks and nothing that begins a block between
them are legible. -/
theorem Divides.legible {d : Division} {s : List Char} (h : d.Divides s) : Legible d.pieces := by
  obtain ⟨lead, rest⟩ := d
  have hrest : Legible (rest.flatMap fun entry => .block entry.1 :: signs entry.2) ∧
      Stops (render (rest.flatMap fun entry => .block entry.1 :: signs entry.2)) := by
    have hwell := h.wellFormed
    have hbetween := h.between
    clear h
    dsimp only [blocks] at hwell hbetween
    induction rest with
    | nil => exact ⟨trivial, nofun⟩
    | cons entry rest ih =>
        obtain ⟨hb, hwell⟩ := List.forall_mem_cons.mp hwell
        obtain ⟨hquiet, hbetween⟩ := List.forall_mem_cons.mp hbetween
        obtain ⟨hlegible, hstops⟩ := ih hwell hbetween
        rw [List.flatMap_cons, List.cons_append]
        exact ⟨⟨hb, (legible_signs hquiet).append hlegible hstops⟩, RawBlock.stops_text _ _⟩
  exact (legible_signs h.lead).append hrest.1 hrest.2

/-- Legible pieces make a division of their text. -/
theorem divides_ofPieces {ps : List Piece} (h : Legible ps) :
    (ofPieces ps).Divides (render ps) := by
  have htext : (ofPieces ps).text = render ps := by rw [← render_pieces, pieces_ofPieces]
  suffices hparts : Quiet (ofPieces ps).lead ∧ (∀ b ∈ (ofPieces ps).blocks, b.WellFormed) ∧
      ∀ entry ∈ (ofPieces ps).rest, Quiet entry.2 by
    exact ⟨htext, hparts.1, hparts.2.1, hparts.2.2⟩
  clear htext
  induction ps with
  | nil => exact ⟨quiet_of_forall_ne nofun, nofun, nofun⟩
  | cons p ps ih =>
      cases p with
      | sign c =>
          obtain ⟨hlead, hwell, hbetween⟩ := ih h.2
          refine ⟨quiet_cons_iff.mpr ⟨?_, hlead⟩, hwell, hbetween⟩
          -- what follows the sign goes on with the rest of the text
          have hstart : blockStart? (c :: render ps) = none := h.1
          rw [← pieces_ofPieces ps, render_pieces, text, ← List.cons_append] at hstart
          exact blockStart?_of_append hstart
      | block b =>
          obtain ⟨hlead, hwell, hbetween⟩ := ih h.2
          refine ⟨quiet_of_forall_ne nofun, ?_, ?_⟩
          · exact List.forall_mem_cons.mpr ⟨h.1, hwell⟩
          · exact List.forall_mem_cons.mpr ⟨hlead, hbetween⟩

end Division

/-- A text is that of legible pieces in one way at most. -/
theorem Legible.eq_of_render {ps qs : List Piece} (hps : Legible ps) (hqs : Legible qs)
    (h : render ps = render qs) : ps = qs := by
  induction ps generalizing qs with
  | nil =>
      cases qs with
      | nil => rfl
      | cons q qs => cases q <;> cases h
  | cons p ps ih =>
      cases qs with
      | nil => cases p <;> cases h
      | cons q qs =>
          cases p with
          | sign c =>
              cases q with
              | sign d =>
                  obtain ⟨rfl, hrest⟩ := List.cons.inj h
                  rw [ih hps.2 hqs.2 hrest]
              | block b =>
                  -- a block begins where the other text has a sign
                  have hstart := hqs.1.blockStart? (render qs)
                  rw [← render_block, ← h, render_sign, hps.1] at hstart
                  cases hstart
          | block b =>
              cases q with
              | sign d =>
                  have hstart := hps.1.blockStart? (render ps)
                  rw [← render_block, h, render_sign, hqs.1] at hstart
                  cases hstart
              | block b' =>
                  obtain ⟨rfl, hrest⟩ := hps.1.eq_of_text hqs.1 h
                  rw [ih hps.2 hqs.2 hrest]

/-- **A text is divided in one way at most.** -/
theorem Division.Divides.eq {d d' : Division} {s : List Char} (h : d.Divides s)
    (h' : d'.Divides s) : d = d' := by
  have hpieces : d.pieces = d'.pieces := by
    apply h.legible.eq_of_render h'.legible
    rw [render_pieces, render_pieces, h.text_eq, h'.text_eq]
  rw [← ofPieces_pieces d, hpieces, ofPieces_pieces]

/-! ## What is read of a block -/

/-- The question that a block stands for: its place in the text, the weight and the kind that are
written in the block, and at least one answer. -/
structure RawBlock.Reads (b : RawBlock) (position : Nat) (sub : Subquestion) : Prop where
  position_eq : sub.position = position
  weight_eq : sub.weight = ofDigits (b.weight.filterMap decimalValue?)
  kind_eq : sub.kind.tag.toList = b.kind
  answers_ne_nil : sub.answers ≠ []

/-- A block can be read: its kind is known, it has options, each of them can be decoded, and its
weight has no more digits than a number may have. -/
def RawBlock.Readable (b : RawBlock) : Prop :=
  ∃ kind, Kind.ofTag? (String.ofList b.kind) = some kind ∧ rawAnswers b.body ≠ [] ∧
    (∀ raw ∈ rawAnswers b.body, ∃ a, decodeAnswer kind raw = .ok a) ∧
    b.weight.length ≤ digitLimit

variable {b : RawBlock} {position : Nat} {sub : Subquestion}

theorem Kind.tag_of_ofTag? {s : String} {kind : Kind} (h : Kind.ofTag? s = some kind) :
    kind.tag = s := by
  simpa using List.find?_some h

theorem weightOf_eq_ok_iff {digits : List Char} {weight : Nat} :
    weightOf digits = .ok weight ↔
      digits.length ≤ digitLimit ∧ ofDigits (digits.filterMap decimalValue?) = weight := by
  unfold weightOf
  split
  next hlong => simp [Nat.not_le.mpr hlong]
  next hshort => simp [Nat.not_lt.mp hshort]

/-- What a block is decoded to is what it says. -/
theorem reads_of_decodeBlock (h : decodeBlock position b = .ok sub) : b.Reads position sub := by
  unfold decodeBlock at h
  split at h
  · cases h
  next kind hkind =>
    split at h
    · cases h
    next hraws =>
      split at h
      · cases h
      next answers hanswers =>
        split at h
        · cases h
        next weight hweight =>
          cases h
          refine ⟨rfl, (weightOf_eq_ok_iff.mp hweight).2.symm, ?_, ?_⟩
          · rw [Kind.tag_of_ofTag? hkind, String.toList_ofList]
          · rintro rfl
            exact hraws (List.forall₂_nil_right_iff.mp (Traversal.mapM_eq_ok_iff.mp hanswers))

/-- A block is decoded, in whatever place it stands, just when it can be read. -/
theorem readable_iff : (∃ sub, decodeBlock position b = .ok sub) ↔ b.Readable := by
  constructor
  · rintro ⟨sub, h⟩
    unfold decodeBlock at h
    split at h
    · cases h
    next kind hkind =>
      split at h
      · cases h
      next hraws =>
        split at h
        · cases h
        next answers hanswers =>
          split at h
          · cases h
          next weight hweight =>
            exact ⟨kind, hkind, hraws, Traversal.mapM_isOk_iff.mp ⟨answers, hanswers⟩,
              (weightOf_eq_ok_iff.mp hweight).1⟩
  · rintro ⟨kind, hkind, hraws, hdecoded, hshort⟩
    obtain ⟨answers, hanswers⟩ := Traversal.mapM_isOk_iff.mpr hdecoded
    have hweight := weightOf_eq_ok_iff.mpr ⟨hshort, rfl⟩
    unfold decodeBlock
    rw [hkind]
    dsimp only
    split
    · contradiction
    · rw [hanswers, hweight]
      exact ⟨_, rfl⟩

/-! ## What is read of a text -/

/-- A legible text is read just when each block is decoded in its place, and what is read are the
numbered places and the questions of the blocks. -/
theorem extractFrom_render_iff {ps : List Piece} (hps : Legible ps) {pos position : Nat}
    {text : List Char} {subs : List Subquestion} :
    extractFrom pos position (render ps) = .ok (text, subs) ↔
      places position ps = text ∧
        List.Forall₂ (fun entry sub => decodeBlock entry.2 entry.1 = .ok sub)
          ((blocks ps).zipIdx position) subs := by
  induction ps generalizing pos position text subs with
  | nil =>
      rw [render_nil, extractFrom]
      simp [places, blocks, eq_comm]
  | cons p ps ih =>
      cases p with
      | sign c =>
          rw [render_sign, extractFrom, hps.1]
          dsimp only
          rw [Traversal.map_eq_ok_iff]
          constructor
          · rintro ⟨⟨text', subs'⟩, hscan, he⟩
            cases he
            obtain ⟨rfl, hsubs⟩ := (ih hps.2).mp hscan
            exact ⟨rfl, hsubs⟩
          · rintro ⟨rfl, hsubs⟩
            exact ⟨_, (ih hps.2).mpr ⟨rfl, hsubs⟩, rfl⟩
      | block b =>
          have hblocks : (blocks (.block b :: ps)).zipIdx position =
              (b, position) :: (blocks ps).zipIdx (position + 1) := rfl
          rw [render_block, hblocks, List.forall₂_cons_left_iff, extractFrom_block hps.1]
          cases hd : decodeBlock position b with
          | error e =>
              constructor
              · rintro ⟨⟩
              · rintro ⟨-, sub, -, hsub, -⟩
                cases hsub
          | ok sub =>
              rw [Except.bind, Traversal.map_eq_ok_iff]
              constructor
              · rintro ⟨⟨text', subs'⟩, hscan, he⟩
                cases he
                obtain ⟨rfl, hsubs⟩ := (ih hps.2).mp hscan
                exact ⟨rfl, sub, subs', rfl, hsubs, rfl⟩
              · rintro ⟨rfl, sub', subs', hsub, hsubs, rfl⟩
                cases hsub
                exact ⟨_, (ih hps.2).mpr ⟨rfl, hsubs⟩, rfl⟩

/-- What is read of a text that is divided: each block is a numbered place, and the questions are
those of the blocks, counted from 1. -/
structure Division.Reads (d : Division) (e : Embedded) : Prop where
  text_eq : e.text.toList = d.placed
  subquestions : List.Forall₂ (fun entry sub => RawBlock.Reads entry.1 entry.2 sub)
    (d.blocks.zipIdx 1) e.subquestions

/-- What is read of a text is what its division says. -/
theorem exists_division_of_extract {text : String} {e : Embedded} (h : extract text = .ok e) :
    ∃ d : Division, d.Divides text.toList ∧ (∀ b ∈ d.blocks, b.Readable) ∧ d.Reads e := by
  obtain ⟨⟨place, subs⟩, hscan, rfl⟩ := Traversal.map_eq_ok_iff.mp h
  obtain ⟨ps, hps, hrender, -, -⟩ := legible_of_extractFrom hscan
  rw [← hrender] at hscan ⊢
  obtain ⟨rfl, hsubs⟩ := (extractFrom_render_iff hps).mp hscan
  have hblocks : blocks ps = (Division.ofPieces ps).blocks := by
    rw [← Division.blocks_pieces, Division.pieces_ofPieces]
  rw [hblocks] at hsubs
  refine ⟨Division.ofPieces ps, Division.divides_ofPieces hps, ?_, ?_, ?_⟩
  · intro b hb
    obtain ⟨position, hentry⟩ :
        ∃ position, (b, position) ∈ (Division.ofPieces ps).blocks.zipIdx 1 := by
      rw [← List.zipIdx_map_fst 1 (Division.ofPieces ps).blocks] at hb
      obtain ⟨⟨b, position⟩, hentry, rfl⟩ := List.mem_map.mp hb
      exact ⟨position, hentry⟩
    obtain ⟨sub, -, hsub⟩ := Traversal.exists_of_mem_left hsubs hentry
    exact readable_iff.mp ⟨sub, hsub⟩
  · rw [String.toList_ofList, ← Division.places_pieces, Division.pieces_ofPieces]
  · exact hsubs.imp fun _ _ hsub => reads_of_decodeBlock hsub

/-- A text that is divided at blocks which can be read is read. -/
theorem extract_isOk_of_division {text : String} {d : Division} (hd : d.Divides text.toList)
    (hblocks : ∀ b ∈ d.blocks, b.Readable) : ∃ e, extract text = .ok e := by
  have hdecoded : ∀ entry ∈ d.blocks.zipIdx 1, ∃ sub, decodeBlock entry.2 entry.1 = .ok sub := by
    intro entry hentry
    have hmem : entry.1 ∈ d.blocks := by
      rw [← List.zipIdx_map_fst 1 d.blocks]
      exact List.mem_map_of_mem hentry
    exact readable_iff.mpr (hblocks entry.1 hmem)
  obtain ⟨subs, hsubs⟩ := Traversal.exists_forall₂ hdecoded
  have hscan : extractFrom 0 1 (render d.pieces) = .ok (places 1 d.pieces, subs) := by
    rw [extractFrom_render_iff hd.legible, Division.blocks_pieces]
    exact ⟨rfl, hsubs⟩
  rw [Division.render_pieces, hd.text_eq] at hscan
  exact ⟨_, Traversal.map_eq_ok_iff.mpr ⟨_, hscan, rfl⟩⟩

/-! ## Texts that are refused -/

/-- Why a text is refused: a fault of its markup, or a weight with more digits than a number may
have. -/
def Refused (s : List Char) (o : Obstacle) : Prop :=
  (∃ fault, o = blocked fault) ∨
    ∃ before b after, RawBlock.WellFormed b ∧ s = before ++ (b.text ++ after) ∧
      digitLimit < b.weight.length ∧ o = .broken (.numeralTooLong b.weight.length)

theorem decodeBlock_eq_error {e : Obstacle} (h : decodeBlock position b = .error e) :
    (∃ fault, e = blocked fault) ∨
      digitLimit < b.weight.length ∧ e = .broken (.numeralTooLong b.weight.length) := by
  unfold decodeBlock at h
  split at h
  · cases h
    exact .inl ⟨_, rfl⟩
  · split at h
    · cases h
      exact .inl ⟨_, rfl⟩
    · split at h
      · cases h
        exact .inl ⟨_, rfl⟩
      · split at h
        next breach hweight =>
          cases h
          unfold weightOf at hweight
          split at hweight
          next hlong =>
            cases hweight
            exact .inr ⟨hlong, rfl⟩
          next => cases hweight
        next => cases h

theorem Refused.prepend {s : List Char} {o : Obstacle} (h : Refused s o) (t : List Char) :
    Refused (t ++ s) o := by
  rcases h with hfault | ⟨before, b, after, hb, rfl, hlong, rfl⟩
  · exact .inl hfault
  · exact .inr ⟨t ++ before, b, after, hb, by rw [List.append_assoc], hlong, rfl⟩

/-- A text is refused for a fault of its markup or a weight that is too long, and for nothing
else. -/
theorem refused_of_extractFrom {pos position : Nat} {s : List Char} {o : Obstacle}
    (h : extractFrom pos position s = .error o) : Refused s o := by
  induction pos, position, s using extractFrom.induct generalizing o with
  | case1 pos position =>
      rw [extractFrom] at h
      cases h
  | case2 pos position c r hnone ih =>
      rw [extractFrom, hnone] at h
      exact (ih (Traversal.map_eq_error_iff.mp h)).prepend [c]
  | case3 pos position c r weight hstart hraw =>
      rw [extractFrom, hstart] at h
      simp only [hraw] at h
      cases h
      exact .inl ⟨_, rfl⟩
  | case4 pos position c r weight hstart b hraw e hdecode =>
      rw [extractFrom, hstart] at h
      simp only [hraw, hdecode] at h
      cases h
      obtain ⟨hb, t, ht⟩ := rawBlock?_eq_some hstart hraw
      refine (decodeBlock_eq_error hdecode).imp_right ?_
      rintro ⟨hlong, rfl⟩
      exact ⟨[], b, t, hb, ht, hlong, rfl⟩
  | case5 pos position c r weight hstart b hraw sub hdecode size =>
      rename_i ih
      rw [extractFrom, hstart] at h
      simp only [hraw, hdecode] at h
      have hrest := ih (Traversal.map_eq_error_iff.mp h)
      have hsplit : c :: r = (c :: r.take size) ++ r.drop size := by
        rw [List.cons_append, List.take_append_drop]
      rw [hsplit]
      exact hrest.prepend _

/-- **What is read of a text is its one division at blocks.** A text is read just when it is
divided at blocks that can be read; it is divided in one way only, and what is read is the text
with a numbered place for each block and one question for each, with the weight and the kind that
the block has and at least one answer. Every other text is refused: for a fault of its markup, or
for a weight with too many digits. -/
theorem extract_divides (text : String) :
    ((∃ e, extract text = .ok e) ↔
      ∃ d : Division, d.Divides text.toList ∧ ∀ b ∈ d.blocks, b.Readable) ∧
    (∀ e, extract text = .ok e →
      ∃ d : Division, d.Divides text.toList ∧
        (∀ d' : Division, d'.Divides text.toList → d' = d) ∧ d.Reads e) ∧
    ∀ o, extract text = .error o → Refused text.toList o := by
  refine ⟨⟨?_, ?_⟩, ?_, ?_⟩
  · rintro ⟨e, h⟩
    obtain ⟨d, hd, hblocks, -⟩ := exists_division_of_extract h
    exact ⟨d, hd, hblocks⟩
  · rintro ⟨d, hd, hblocks⟩
    exact extract_isOk_of_division hd hblocks
  · intro e h
    obtain ⟨d, hd, -, hreads⟩ := exists_division_of_extract h
    exact ⟨d, hd, fun d' hd' => hd'.eq hd, hreads⟩
  · intro o h
    exact refused_of_extractFrom (Traversal.map_eq_error_iff.mp h)

end QuestionBank.Cloze
