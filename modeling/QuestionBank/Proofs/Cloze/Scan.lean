import QuestionBank.Proofs.Cloze.Piece

/-!
# Texts that are read are legible

A reader of a text with blocks takes it apart into signs and blocks, or stops at a block
that it cannot read. What it takes apart is legible: every block is well formed, none
begins at a sign, and the questions that are read are those of the blocks, in order.
-/

namespace QuestionBank.Cloze

open QuestionBank.Text

/-! ## Blocks that are found -/

/-- The options that a reader finds end at a closing brace, and are shielded from it. -/
theorem blockBody?_eq_some {s body : List Char} (h : blockBody? s = some body) :
    Shielded (· == '\x7d') body ∧ ∃ t, s = body ++ '\x7d' :: t := by
  induction s using blockBody?.induct generalizing body with
  | case1 => cases h
  | case2 t =>
      cases h
      exact ⟨.nil, t, rfl⟩
  | case3 r =>
      rw [blockBody?, if_pos rfl] at h
      cases h
  | case4 c r hc ih =>
      rw [blockBody?, if_neg hc] at h
      obtain ⟨body', hbody', rfl⟩ := Option.map_eq_some_iff.mp h
      obtain ⟨hshielded, t, rfl⟩ := ih hbody'
      exact ⟨.literal hc hshielded, t, rfl⟩
  | case5 => cases h
  | case6 c r hbrace hliteral hlast ih =>
      have hslash : c ≠ '\\' := by
        rintro rfl
        cases r with
        | nil => exact hlast rfl rfl
        | cons d r => exact hliteral d r rfl rfl
      rw [blockBody?.eq_5 _ _ hbrace hliteral hlast] at h
      obtain ⟨body', hbody', rfl⟩ := Option.map_eq_some_iff.mp h
      obtain ⟨hshielded, t, rfl⟩ := ih hbody'
      have hopen : (c == '\x7d') = false := by
        rw [beq_eq_false_iff_ne]
        exact hbrace
      exact ⟨.plain hslash hopen hshielded, t, rfl⟩

/-- A block that is found is well formed, and the text begins with it. -/
theorem rawBlock?_eq_some {s weight : List Char} {b : RawBlock}
    (hstart : blockStart? s = some weight) (h : rawBlock? weight s = some b) :
    b.WellFormed ∧ ∃ t, s = b.text ++ t := by
  obtain ⟨hne, hdecimal, after, rfl⟩ := blockStart?_eq_some hstart
  have hafter : ('\x7b' :: (weight ++ ':' :: after)).drop (weight.length + 2) = after := by
    have hsplit : '\x7b' :: (weight ++ ':' :: after) = ('\x7b' :: weight ++ [':']) ++ after := by
      simp
    rw [hsplit, List.drop_left' (by simp)]
  unfold rawBlock? at h
  dsimp only at h
  rw [hafter] at h
  split at h
  · cases h
  next hkind =>
    split at h
    next r hr =>
      obtain ⟨body, hbody, rfl⟩ := Option.map_eq_some_iff.mp h
      obtain ⟨hshielded, t, rfl⟩ := blockBody?_eq_some hbody
      have hsplit : after = after.takeWhile isTagChar ++ ':' :: (body ++ '\x7d' :: t) := by
        rw [← hr, List.prefix_iff_eq_append.mp (List.takeWhile_prefix _)]
      refine ⟨⟨hne, hdecimal, ?_, fun c hc => List.mem_takeWhile_imp hc, hshielded⟩, t, ?_⟩
      · simpa using hkind
      · rw [RawBlock.text_append, ← hsplit]
    next => cases h

/-- A block that is decoded gives an answer for each of its options. -/
theorem decodeBlock_eq_ok {position : Nat} {b : RawBlock} {sub : Subquestion}
    (h : decodeBlock position b = .ok sub) :
    sub.position = position ∧
      List.Forall₂ (fun raw a => decodeAnswer sub.kind raw = .ok a) (rawAnswers b.body)
        sub.answers := by
  unfold decodeBlock at h
  split at h
  · cases h
  next kind _ =>
    split at h
    · cases h
    next hraws =>
      split at h
      · cases h
      next answers hanswers =>
        split at h
        · cases h
        next weight _ =>
          cases h
          exact ⟨rfl, Traversal.mapM_eq_ok_iff.mp hanswers⟩

/-! ## Texts that are taken apart -/

/-- **A text that is read is legible.** What is read are the questions of its blocks, with a
numbered place for each. -/
theorem legible_of_extractFrom {s text : List Char} {subs : List Subquestion} {pos position : Nat}
    (h : extractFrom pos position s = .ok (text, subs)) :
    ∃ ps, Legible ps ∧ render ps = s ∧ places position ps = text ∧
      List.Forall₂ (fun b sub => decodeBlock sub.position b = .ok sub) (blocks ps) subs := by
  induction pos, position, s using extractFrom.induct generalizing text subs with
  | case1 pos position =>
      rw [extractFrom] at h
      cases h
      exact ⟨[], trivial, rfl, rfl, .nil⟩
  | case2 pos position c r hnone ih =>
      rw [extractFrom, hnone] at h
      obtain ⟨⟨text', subs'⟩, hrest, he⟩ := Traversal.map_eq_ok_iff.mp h
      cases he
      obtain ⟨ps, hps, rfl, rfl, hsubs⟩ := ih hrest
      exact ⟨.sign c :: ps, ⟨hnone, hps⟩, rfl, rfl, hsubs⟩
  | case3 pos position c r weight hstart hraw =>
      rw [extractFrom, hstart] at h
      simp only [hraw] at h
      cases h
  | case4 pos position c r weight hstart b hraw e hdecode =>
      rw [extractFrom, hstart] at h
      simp only [hraw, hdecode] at h
      cases h
  | case5 pos position c r weight hstart b hraw sub hdecode size =>
      rename_i ih
      rw [extractFrom, hstart] at h
      simp only [hraw, hdecode] at h
      obtain ⟨⟨text', subs'⟩, hrest, he⟩ := Traversal.map_eq_ok_iff.mp h
      cases he
      obtain ⟨hb, t, ht⟩ := rawBlock?_eq_some hstart hraw
      obtain ⟨ps, hps, hrender, rfl, hsubs⟩ := ih hrest
      -- What is left after the block is what the block stands before.
      have hdrop : r.drop size = t := by
        have hlength : size + 1 = b.text.length := rfl
        have hcons : (c :: r).drop (size + 1) = t := by
          rw [ht, hlength, List.drop_left]
        exact hcons
      obtain ⟨hposition, -⟩ := decodeBlock_eq_ok hdecode
      refine ⟨.block b :: ps, ⟨hb, hps⟩, ?_, rfl, .cons (hposition ▸ hdecode) hsubs⟩
      rw [render_block, hrender, hdrop, ht]

end QuestionBank.Cloze
