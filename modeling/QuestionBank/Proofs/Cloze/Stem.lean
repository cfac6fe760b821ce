import QuestionBank.Proofs.Cloze.RoundTrip
import QuestionBank.Proofs.Cloze.Scan
import QuestionBank.Proofs.Cloze.Swallowed
import QuestionBank.Proofs.Text.Strip

/-!
# Stems in their texts

The block of a stem stands in the text of the stem, and this text is written as it is. The
block is read back as the only one just when the text holds no beginning of a block: what
begins a block in the text is read as one, is refused, or takes the block of the stem for
a part of its last option.
-/

namespace QuestionBank.Cloze

open QuestionBank.Scoring QuestionBank.Text QuestionBank.Number

/-! ## The place of a block -/

/-- What is joined to a quiet text without a colon begins no block in it. -/
theorem Quiet.append_of_forall_ne {s t : List Char} (hs : Quiet s) (h : ∀ c ∈ t, c ≠ ':') :
    Quiet (s ++ t) := by
  intro before digits after hne hdecimal he
  -- The colon of a beginning stands in the first text, and then the brace does so too.
  rcases List.append_eq_append_iff.mp
    (show s ++ t = (before ++ '\x7b' :: digits) ++ (':' :: after) by simpa using he) with
    ⟨u, -, ht⟩ | ⟨u, hsplit, hcolon⟩
  · exact h ':' (by simp [ht]) rfl
  · cases u with
    | nil =>
        have ht : t = ':' :: after := hcolon.symm
        exact h ':' (by simp [ht]) rfl
    | cons c u =>
        obtain ⟨rfl, -⟩ := List.cons.inj hcolon
        exact hs before digits u hne hdecimal (by simpa using hsplit)

/-- Underscores keep the beginnings of blocks on both sides apart. -/
theorem quiet_around_blank {before blank after : List Char} (hne : blank ≠ [])
    (hblank : ∀ c ∈ blank, c = '_') :
    Quiet (before ++ (blank ++ after)) ↔ Quiet before ∧ Quiet after := by
  constructor
  · intro h
    exact ⟨quiet_of_append_left h, quiet_of_append_right (quiet_of_append_right h)⟩
  · rintro ⟨hbefore, hafter⟩
    have hrest : Quiet (blank ++ after) := by
      clear hne
      induction blank with
      | nil => exact hafter
      | cons c blank ih =>
          obtain ⟨hc, hblank⟩ := List.forall_mem_cons.mp hblank
          have hbrace : c ≠ '\x7b' := by
            rw [hc]
            decide
          exact quiet_cons_iff.mpr ⟨blockStart?_of_ne hbrace _, ih hblank⟩
    have hstop : Stops (blank ++ after) := by
      cases blank with
      | nil => exact absurd rfl hne
      | cons c blank =>
          obtain rfl : c = '_' := hblank c (.head _)
          exact stops_cons (by decide) (by decide)
    exact hbefore.append hrest hstop

/-- A text has a blank, in the place of which every block is put, or it has none. -/
theorem fillBlank?_cases (text : List Char) :
    (∀ block, fillBlank? block text = none) ∨
      ∃ before blank after, text = before ++ (blank ++ after) ∧ blank ≠ [] ∧
        (∀ c ∈ blank, c = '_') ∧
        ∀ block, fillBlank? block text = some (before ++ (block ++ after)) := by
  induction text using fillBlank?.induct with
  | case1 => exact .inl fun _ => rfl
  | case2 r =>
      refine .inr ⟨[], '_' :: '_' :: r.takeWhile (· == '_'), r.dropWhile (· == '_'), ?_, ?_, ?_, ?_⟩
      · simp
      · simp
      · intro c hc
        rcases List.mem_cons.mp hc with rfl | hc
        · rfl
        · rcases List.mem_cons.mp hc with rfl | hc
          · rfl
          · simpa using List.mem_takeWhile_imp hc
      · intro block
        rfl
  | case3 c r hne ih =>
      rcases ih with hnone | ⟨before, blank, after, rfl, hblank, hunderscores, hfill⟩
      · refine .inl fun block => ?_
        rw [fillBlank?.eq_3 _ _ _ hne, hnone]
        rfl
      · refine .inr ⟨c :: before, blank, after, rfl, hblank, hunderscores, fun block => ?_⟩
        rw [fillBlank?.eq_3 _ _ _ hne, hfill]
        rfl

/-- Where a block is put does not depend on the block. What stands around it is quiet just
when the text is. -/
theorem placeBlock_around (text : String) : ∃ before after,
    (∀ block, placeBlock text block = String.ofList before ++ block ++ String.ofList after) ∧
      (Quiet text.toList ↔ Quiet before ∧ Quiet after) := by
  rcases fillBlank?_cases text.toList with
    hnone | ⟨before, blank, after, htext, hne, hblank, hfill⟩
  · by_cases hall : allBlank text = true
    · refine ⟨[], [], fun block => ?_, ?_⟩
      · simp [placeBlock, hnone, hall]
      · have hquiet : Quiet text.toList := by
          refine quiet_of_forall_ne fun c hc => ?_
          have hc : isBlank c = true := List.all_eq_true.mp hall c hc
          rintro rfl
          cases hc
        have hnil : Quiet [] := quiet_of_forall_ne (by simp)
        exact iff_of_true hquiet ⟨hnil, hnil⟩
    · refine ⟨stripEnd text.toList ++ [' '], [], fun block => ?_, ?_⟩
      · simp [placeBlock, hnone, hall, trimEnd]
      · obtain ⟨blanks, hsplit, hblanks⟩ := exists_stripEnd text.toList
        have hcolon : ∀ c ∈ blanks, c ≠ ':' := by
          rintro c hc rfl
          cases hblanks ':' hc
        have hnil : Quiet [] := quiet_of_forall_ne (by simp)
        constructor
        · intro h
          rw [hsplit] at h
          exact ⟨(quiet_of_append_left h).append_of_forall_ne (by simp), hnil⟩
        · rintro ⟨h, -⟩
          rw [hsplit]
          exact (quiet_of_append_left h).append_of_forall_ne hcolon
  · refine ⟨before, after, fun block => ?_, ?_⟩
    · rw [placeBlock, hfill]
      apply String.toList_inj.mp
      simp
    · rw [htext]
      exact quiet_around_blank hne hblank

/-! ## Stems -/

/-- The answers of a stem that is no number: its correct matches, its other matches, and
the residual texts, which are wrong. -/
def stemAnswers (found : List Match) (residual : List String) (residualFeedback : String) :
    List Answer :=
  (orderedMatches found).map (fun m => ⟨m.answer, m.isCorrect, m.feedback, none⟩) ++
    residual.map fun s => ⟨s, false, residualFeedback, none⟩

variable {text : String} {kind : Kind} {found : List Match} {residual : List String}
  {residualFeedback : String}

theorem AnswerOf.eq_of_text {m : Match} {a : Answer} (h : AnswerOf kind m a)
    (hkind : kind ≠ .numerical) : ⟨m.answer, m.isCorrect, m.feedback, none⟩ = a := by
  obtain ⟨htext, htolerance⟩ := h.text hkind
  obtain ⟨text, correct, feedback, tolerance⟩ := a
  obtain rfl : text = m.answer := htext
  obtain rfl : tolerance = none := htolerance
  obtain rfl : correct = m.isCorrect := h.correct
  obtain rfl : feedback = m.feedback := h.feedback
  rfl

theorem Encodes.answers_eq {sub : Subquestion}
    (h : Encodes kind found residual residualFeedback sub) (hkind : kind ≠ .numerical) :
    sub.answers = stemAnswers found residual residualFeedback := by
  obtain ⟨own, hown, hanswers⟩ := h.answers
  rw [if_neg hkind] at hanswers
  have hown : (orderedMatches found).map (fun m => ⟨m.answer, m.isCorrect, m.feedback, none⟩) =
      own := by
    rw [orderedMatches_eq, ← List.forall₂_eq_eq_eq, List.forall₂_map_left_iff]
    exact hown.imp fun _ _ hm => hm.eq_of_text hkind
  rw [hanswers, stemAnswers, hown]

/-- The stem has an answer for each option of its block. -/
theorem length_rawOptions (residual : List String) (residualFeedback : String)
    (hkind : kind ≠ .numerical) :
    (rawOptions (resolveKind kind found) found residual residualFeedback).length =
      (stemAnswers found residual residualFeedback).length := by
  have hnumeric : (resolveKind kind found).isNumeric = false := by
    rw [isNumeric_resolveKind, decide_eq_false hkind]
  simp [rawOptions, stemAnswers, hnumeric]

/-- A block that has the block of a stem in its options has more of them than the stem has
answers. -/
theorem length_rawAnswers_of_swallowed (hkind : kind ≠ .numerical) {b : RawBlock} {w : List Char}
    (hw : b.body =
      w ++ '\x7b' :: (encodedBlock kind found residual residualFeedback).inner) :
    (stemAnswers found residual residualFeedback).length < (rawAnswers b.body).length := by
  have hwell := wellFormed_encodedBlock kind found residual residualFeedback
  have htilde {c : Char} (hc : (c == '~') = true) : endsOption c = true := by
    simp [endsOption, beq_iff_eq.mp hc]
  rw [hw, RawBlock.inner_eq, ← length_rawOptions residual residualFeedback hkind]
  have hbody : (encodedBlock kind found residual residualFeedback).body =
      (rawOptions (resolveKind kind found) found residual residualFeedback).flatMap ('~' :: ·) :=
    blockOptions_eq ..
  rw [hbody]
  refine length_rawAnswers_lt (Shielded.of_plain fun c hc => ?_) fun raw hraw => ?_
  · obtain ⟨-, hslash, htilde, -⟩ := hwell.lead_ne c hc
    exact ⟨hslash, beq_eq_false_iff_ne.mpr htilde⟩
  · exact (shielded_rawOptions raw hraw).mono fun _ => htilde

/-- **What is read as one question with the answers of the stem has nothing else in it.** -/
theorem quiet_of_extract_placeBlock (hkind : kind ≠ .numerical) {e : Embedded} {sub : Subquestion}
    (h : extract (placeBlock text
      (String.ofList (encodedBlock kind found residual residualFeedback).text)) = .ok e)
    (hsub : e.subquestions = [sub])
    (hanswers : sub.answers = stemAnswers found residual residualFeedback) :
    Quiet text.toList := by
  obtain ⟨before, after, hplace, hquiet⟩ := placeBlock_around text
  rw [hquiet]
  obtain ⟨⟨place, subs⟩, hscan, rfl⟩ := Traversal.map_eq_ok_iff.mp h
  obtain rfl : subs = [sub] := hsub
  obtain ⟨ps, hps, hrender, -, hblocks⟩ := legible_of_extractFrom hscan
  have hrender : render ps =
      before ++ ((encodedBlock kind found residual residualFeedback).text ++ after) := by
    rw [hrender, hplace]
    simp
  rcases hps.block_or_swallowed (wellFormed_encodedBlock ..) hrender with
    ⟨ps₁, ps₂, rfl, rfl, rfl⟩ | ⟨b, hb, w, hw⟩
  · -- There is one block only, so that no other block stands on its sides.
    have hcount : (blocks ps₁).length + ((blocks ps₂).length + 1) = 1 := by
      have hlength := hblocks.length_eq
      rw [blocks_append] at hlength
      simpa [blocks, Piece.block?] using hlength
    have hps₁ : Legible ps₁ := hps.of_append_left
    have hps₂ : Legible ps₂ := hps.of_append_right.2
    exact ⟨quiet_render hps₁ (List.eq_nil_of_length_eq_zero (by omega)),
      quiet_render hps₂ (List.eq_nil_of_length_eq_zero (by omega))⟩
  · -- The one block has too many options.
    obtain ⟨b', bs, hdecode, hnil, hsingle⟩ := List.forall₂_cons_right_iff.mp hblocks
    obtain rfl := List.forall₂_nil_right_iff.mp hnil
    obtain rfl : b = b' := by
      rw [hsingle] at hb
      exact List.mem_singleton.mp hb
    obtain ⟨-, hdecoded⟩ := decodeBlock_eq_ok hdecode
    have hlength := hdecoded.length_eq
    rw [hanswers] at hlength
    have hlonger := length_rawAnswers_of_swallowed hkind hw
    omega

/-- **A block in a quiet text is read back** as the text with a numbered place and the question
that the block stands for. -/
theorem extract_placeBlock {P : Subquestion → Prop} (htext : Quiet text.toList) {b : RawBlock}
    (hb : b.WellFormed)
    (hdecode : ∀ position,
      ∃ sub, decodeBlock position b = .ok sub ∧ sub.position = position ∧ P sub) :
    ∃ sub, extract (placeBlock text (String.ofList b.text)) =
        .ok ⟨placeBlock text "\x7b#1\x7d", [sub]⟩ ∧ sub.position = 1 ∧ P sub := by
  obtain ⟨before, after, hplace, hquiet⟩ := placeBlock_around text
  obtain ⟨hbefore, hafter⟩ := hquiet.mp htext
  let ps := signs before ++ .block b :: signs after
  have hps : Legible ps := by
    have hrest : Legible (.block b :: signs after) := ⟨hb, legible_signs hafter⟩
    exact (legible_signs hbefore).append hrest (b.stops_text _)
  have hblocks : blocks ps = [b] := by
    have hrest : blocks (.block b :: signs after) = b :: blocks (signs after) := rfl
    rw [blocks_append, blocks_signs, hrest, blocks_signs]
    rfl
  have hrender : (placeBlock text (String.ofList b.text)).toList = render ps := by
    rw [hplace, render_append, render_block, render_signs, render_signs]
    simp
  have hplaces : String.ofList (places 1 ps) = placeBlock text "\x7b#1\x7d" := by
    have hrest : places 1 (.block b :: signs after) = placeholder 1 ++ places 2 (signs after) := rfl
    rw [hplace, places_signs_append, hrest, places_signs, placeholder_one]
    apply String.toList_inj.mp
    simp
  obtain ⟨subs, hscan, hsubs, hpositions⟩ := extractFrom_render (P := fun _ sub => P sub) hps
    (fun b' hb' position => by
      obtain rfl : b' = b := by simpa [hblocks] using hb'
      exact hdecode position) 0 1
  rw [hblocks] at hsubs hpositions
  obtain ⟨sub, subs, hP, hnil, rfl⟩ := List.forall₂_cons_left_iff.mp hsubs
  obtain rfl := List.forall₂_nil_left_iff.mp hnil
  have hposition : sub.position = 1 := by simpa using hpositions
  refine ⟨sub, ?_, hposition, hP⟩
  rw [extract, hrender, hscan, ← hplaces]
  rfl

/-- A stem that is read as one question with its answers has a quiet text, and a weight that
can be written. -/
theorem quiet_of_extract_encodeStem (hcorrect : ∃ m ∈ found, 0 < m.score)
    (hkind : kind ≠ .numerical) {markup : String} {e : Embedded} {sub : Subquestion}
    (hmarkup : encodeStem text kind found residual residualFeedback = .ok markup)
    (hextract : extract markup = .ok e) (hsub : e.subquestions = [sub])
    (hanswers : sub.answers = stemAnswers found residual residualFeedback) :
    Quiet text.toList ∧ credit found < 10 ^ digitLimit := by
  obtain ⟨block, hblock, rfl⟩ := Traversal.map_eq_ok_iff.mp hmarkup
  have hweight : credit found < 10 ^ digitLimit := by
    by_contra hlarge
    rw [encodeBlock_eq_error hcorrect (not_lt.mp hlarge)] at hblock
    cases hblock
  rw [encodeBlock_eq_ok hcorrect hweight] at hblock
  cases hblock
  exact ⟨quiet_of_extract_placeBlock hkind hextract hsub hanswers, hweight⟩

/-- A stem with a quiet text and a weight that can be written is read back. -/
theorem extract_encodeStem_of_quiet (hcorrect : ∃ m ∈ found, 0 < m.score)
    (hkind : kind ≠ .numerical) (htext : Quiet text.toList)
    (hweight : credit found < 10 ^ digitLimit) :
    ∃ markup sub, encodeStem text kind found residual residualFeedback = .ok markup ∧
      extract markup = .ok ⟨placeBlock text "\x7b#1\x7d", [sub]⟩ ∧ sub.position = 1 ∧
      Encodes kind found residual residualFeedback sub := by
  obtain ⟨sub, hextract, hposition, hencodes⟩ := extract_placeBlock htext
    (wellFormed_encodedBlock kind found residual residualFeedback)
    (decodeBlock_encodedBlock residual residualFeedback hcorrect (fun hn => absurd hn hkind)
      hweight)
  refine ⟨_, sub, ?_, hextract, hposition, hencodes⟩
  rw [encodeStem, encodeBlock_eq_ok hcorrect hweight]
  rfl

/-- **A stem is read back just when its text begins no block.** Then, and only then, the
markup of the stem is read as one question with the answers of the stem, provided that the
weight can be written; and what is read is the text with a numbered place, in which the
question stands that the stem was written for. -/
theorem extract_encodeStem (hcorrect : ∃ m ∈ found, 0 < m.score) (hkind : kind ≠ .numerical) :
    ((∃ markup e sub, encodeStem text kind found residual residualFeedback = .ok markup ∧
        extract markup = .ok e ∧ e.subquestions = [sub] ∧
        sub.answers = stemAnswers found residual residualFeedback) ↔
      Quiet text.toList ∧ credit found < 10 ^ digitLimit) ∧
    (Quiet text.toList → credit found < 10 ^ digitLimit →
      ∃ markup sub, encodeStem text kind found residual residualFeedback = .ok markup ∧
        extract markup = .ok ⟨placeBlock text "\x7b#1\x7d", [sub]⟩ ∧ sub.position = 1 ∧
        Encodes kind found residual residualFeedback sub) := by
  refine ⟨⟨?_, ?_⟩, extract_encodeStem_of_quiet hcorrect hkind⟩
  · rintro ⟨markup, e, sub, hmarkup, hextract, hsub, hanswers⟩
    exact quiet_of_extract_encodeStem hcorrect hkind hmarkup hextract hsub hanswers
  · rintro ⟨htext, hweight⟩
    obtain ⟨markup, sub, hmarkup, hextract, -, hencodes⟩ :=
      extract_encodeStem_of_quiet hcorrect hkind htext hweight
    exact ⟨markup, _, sub, hmarkup, hextract, rfl, hencodes.answers_eq hkind⟩

/-- A stem whose text holds braces, digits, colons and underscores on both sides of its blank,
and one with the beginning of a block in front of the blank. -/
theorem extract_encodeStem_braces :
    (∃ markup sub,
      encodeStem "\x7b1, 2\x7d 1:_ \x7b___ \x7b3\x7d __" .multichoice
          [⟨"0", "\x7b1:\x7d", 2, "#", true, .matching⟩] ["~"] "" = .ok markup ∧
        extract markup =
          .ok ⟨placeBlock "\x7b1, 2\x7d 1:_ \x7b___ \x7b3\x7d __" "\x7b#1\x7d", [sub]⟩ ∧
        sub.position = 1 ∧
        Encodes .multichoice [⟨"0", "\x7b1:\x7d", 2, "#", true, .matching⟩] ["~"] "" sub) ∧
    ¬ ∃ markup e sub,
      encodeStem "\x7b1: one\x7d is ___" .multichoice [⟨"0", "a", 1, "", true, .matching⟩] ["b"]
          "" = .ok markup ∧
        extract markup = .ok e ∧ e.subquestions = [sub] ∧
        sub.answers = stemAnswers [⟨"0", "a", 1, "", true, .matching⟩] ["b"] "" := by
  have hsmall : (2 : Int) < 10 ^ digitLimit :=
    lt_of_lt_of_le (by norm_num : (2 : Int) < 10 ^ 1)
      (pow_le_pow_right₀ (by norm_num) (by decide))
  constructor
  · exact (extract_encodeStem (by decide) (by decide)).2 (by decide) hsmall
  · intro h
    obtain ⟨hquiet, -⟩ := (extract_encodeStem (by decide) (by decide)).1.mp h
    exact absurd hquiet (by decide)

/-- The beginning of a block in the text of a stem is never closed, so that the markup of the
stem cannot be read. -/
theorem not_forall_extract_encodeStem :
    ¬ ∀ (text : String) (kind : Kind) (found : List Match) (residual : List String)
        (residualFeedback : String), (∃ m ∈ found, 0 < m.score) → kind ≠ .numerical →
      ∃ markup e sub, encodeStem text kind found residual residualFeedback = .ok markup ∧
        extract markup = .ok e ∧ e.subquestions = [sub] ∧
        sub.answers = stemAnswers found residual residualFeedback := by
  intro h
  obtain ⟨markup, e, sub, hmarkup, hextract, hsub, hanswers⟩ := h "\x7b1: one\x7d is ___"
    .multichoice [⟨"0", "a", 1, "", true, .matching⟩] ["b"] "" (by decide) (by decide)
  obtain ⟨hquiet, -⟩ := quiet_of_extract_encodeStem (by decide) (by decide) hmarkup hextract hsub
    hanswers
  exact absurd hquiet (by decide)

end QuestionBank.Cloze
