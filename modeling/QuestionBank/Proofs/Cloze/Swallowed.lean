import QuestionBank.Proofs.Cloze.Encoded
import QuestionBank.Proofs.Cloze.Piece

/-!
# Blocks that take others into their options

A well-formed block that stands in a legible text need not be one of its blocks. A block
that begins in front of it and is not closed there ends at the same brace, and then its
last option goes over into the weight, the kind and the options of the other. Such a
block has more options than the one that it takes in.
-/

namespace QuestionBank.Cloze

open QuestionBank.Text

/-! ## Blocks with the same end -/

theorem Shielded.of_plain {stop : Char → Bool} {s : List Char}
    (h : ∀ c ∈ s, c ≠ '\\' ∧ stop c = false) : Shielded stop s := by
  induction s with
  | nil => exact .nil
  | cons c s ih =>
      obtain ⟨⟨hslash, hstop⟩, hs⟩ := List.forall_mem_cons.mp h
      exact .plain hslash hstop (ih hs)

/-- What follows a sign that is no backslash is shielded, whether or not a backslash stands
before the sign. -/
theorem Shielded.of_append_cons {stop : Char → Bool} {w v : List Char} {c : Char}
    (hc : c ≠ '\\') (h : Shielded stop (w ++ c :: v)) : Shielded stop v := by
  generalize hs : w ++ c :: v = s at h
  induction h generalizing w with
  | nil => simp at hs
  | @literal d r hd hr ih =>
      match w with
      | [] => exact absurd (List.cons.inj hs).1 hc
      | [_] =>
          obtain ⟨-, hs⟩ := List.cons.inj hs
          obtain ⟨-, rfl⟩ := List.cons.inj hs
          exact hr
      | _ :: _ :: w =>
          obtain ⟨-, hs⟩ := List.cons.inj hs
          obtain ⟨-, hs⟩ := List.cons.inj hs
          exact ih hs
  | @plain d r hb hd hr ih =>
      cases w with
      | nil =>
          obtain ⟨-, rfl⟩ := List.cons.inj hs
          exact hr
      | cons _ w =>
          obtain ⟨-, hs⟩ := List.cons.inj hs
          exact ih hs

theorem isDecimal_ne {c : Char} (h : isDecimal c = true) :
    c ≠ '\x7b' ∧ c ≠ '\\' ∧ c ≠ '~' ∧ c ≠ '\x7d' := by
  refine ⟨?_, ?_, ?_, ?_⟩ <;>
  · rintro rfl
    exact absurd h (by decide)

theorem isTagChar_ne {c : Char} (h : isTagChar c = true) :
    c ≠ '\x7b' ∧ c ≠ '\\' ∧ c ≠ '~' ∧ c ≠ '\x7d' := by
  refine ⟨?_, ?_, ?_, ?_⟩ <;>
  · rintro rfl
    exact absurd h (by decide)

namespace RawBlock

variable {b b' : RawBlock}

/-- A block between its braces. -/
def inner (b : RawBlock) : List Char := b.weight ++ ':' :: (b.kind ++ ':' :: b.body)

theorem text_eq_inner (b : RawBlock) : b.text = '\x7b' :: (b.inner ++ ['\x7d']) := by
  simp [text, inner]

/-- The weight and the kind of a block hold no sign of the markup. -/
theorem WellFormed.lead_ne (hb : b.WellFormed) :
    ∀ c ∈ b.weight ++ ':' :: (b.kind ++ [':']),
      c ≠ '\x7b' ∧ c ≠ '\\' ∧ c ≠ '~' ∧ c ≠ '\x7d' := by
  intro c hc
  simp only [List.mem_append, List.mem_cons, List.not_mem_nil, or_false] at hc
  rcases hc with hc | rfl | hc | rfl
  · exact isDecimal_ne (hb.weight_decimal c hc)
  · decide
  · exact isTagChar_ne (hb.kind_tag c hc)
  · decide

theorem inner_eq (b : RawBlock) : b.inner = (b.weight ++ ':' :: (b.kind ++ [':'])) ++ b.body := by
  simp [inner]

theorem WellFormed.shielded_inner (hb : b.WellFormed) : Shielded (· == '\x7d') b.inner := by
  rw [inner_eq]
  refine Shielded.append (Shielded.of_plain fun c hc => ?_) hb.body
  obtain ⟨-, hslash, -, hbrace⟩ := hb.lead_ne c hc
  exact ⟨hslash, beq_eq_false_iff_ne.mpr hbrace⟩

/-- A text begins with at most one well-formed block. -/
theorem WellFormed.eq_of_text (hb : b.WellFormed) (hb' : b'.WellFormed) {t t' : List Char}
    (h : b.text ++ t = b'.text ++ t') : b = b' ∧ t = t' := by
  have hweight : b.weight = b'.weight := by
    have hstart := hb.blockStart? t
    rw [h, hb'.blockStart?] at hstart
    exact (Option.some.inj hstart).symm
  have hraw := hb.rawBlock? t
  rw [h, hweight, hb'.rawBlock?] at hraw
  obtain rfl : b' = b := Option.some.inj hraw
  exact ⟨rfl, List.append_cancel_left h⟩

/-- A block that begins before another one and ends behind its brace has the whole of the
other one, but for the closing brace, at the end of its options. -/
theorem WellFormed.swallows (hb : b.WellFormed) (hb' : b'.WellFormed) {before u t t' : List Char}
    (hbefore : before ≠ []) (hu : u ≠ []) (htext : b.text = before ++ u)
    (h : u ++ t = b'.text ++ t') : ∃ w, b.body = w ++ '\x7b' :: b'.inner := by
  -- Both texts go on with the brace of the other block.
  obtain ⟨v, rfl⟩ : ∃ v, u = '\x7b' :: v := by
    cases u with
    | nil => exact absurd rfl hu
    | cons c v =>
        rw [text_eq_inner] at h
        exact ⟨v, by rw [(List.cons.inj h).1]⟩
  have hlead : ('\x7b' :: (b.weight ++ ':' :: (b.kind ++ [':']))) ++ (b.body ++ ['\x7d']) =
      before ++ '\x7b' :: v := by
    rw [← htext, text_eq_inner, inner_eq]
    simp
  obtain ⟨w, hclosing⟩ : ∃ w, b.body ++ ['\x7d'] = w ++ '\x7b' :: v := by
    rcases List.append_eq_append_iff.mp hlead with ⟨w, -, hw⟩ | ⟨w, hw, hv⟩
    · exact ⟨w, hw⟩
    · -- The brace would stand in the weight or the kind.
      cases w with
      | nil => exact ⟨[], hv.symm⟩
      | cons c w =>
          obtain ⟨rfl, -⟩ := List.cons.inj hv
          cases before with
          | nil => exact absurd rfl hbefore
          | cons d before =>
              have hmem : '\x7b' ∈ b.weight ++ ':' :: (b.kind ++ [':']) := by
                rw [(List.cons.inj hw).2]
                simp
              exact absurd rfl (hb.lead_ne _ hmem).1
  obtain ⟨v, rfl, hbody⟩ : ∃ v', v = v' ++ ['\x7d'] ∧ b.body = w ++ '\x7b' :: v' := by
    rcases List.eq_nil_or_concat v with rfl | ⟨v', c, rfl⟩
    · obtain ⟨-, hlast⟩ := List.append_inj' hclosing rfl
      exact absurd hlast (by decide)
    · have hsplit : b.body ++ ['\x7d'] = (w ++ '\x7b' :: v') ++ [c] := by simpa using hclosing
      obtain ⟨hbody, hlast⟩ := List.append_inj' hsplit rfl
      obtain rfl : '\x7d' = c := by simpa using hlast
      exact ⟨v', List.concat_eq_append, hbody⟩
  refine ⟨w, ?_⟩
  have hshielded : Shielded (· == '\x7d') v := by
    have hb := hb.body
    rw [hbody] at hb
    exact hb.of_append_cons (by decide)
  -- The first closing brace behind the brace of the other block is that of both blocks.
  have hclosed : v ++ '\x7d' :: t = b'.inner ++ '\x7d' :: t' := by
    rw [text_eq_inner] at h
    simpa using h
  have hv := blockBody?_closed hshielded t
  rw [hclosed, blockBody?_closed hb'.shielded_inner] at hv
  rw [hbody, Option.some.inj hv]

end RawBlock

/-- A block that stands in a legible text is one of its blocks, or the options of one of its
blocks end with it. -/
theorem Legible.block_or_swallowed {ps : List Piece} (hps : Legible ps) {b : RawBlock}
    (hb : b.WellFormed) {before after : List Char}
    (h : render ps = before ++ (b.text ++ after)) :
    (∃ ps₁ ps₂, ps = ps₁ ++ .block b :: ps₂ ∧ render ps₁ = before ∧ render ps₂ = after) ∨
      ∃ b' ∈ blocks ps, ∃ w, b'.body = w ++ '\x7b' :: b.inner := by
  induction ps generalizing before with
  | nil => simp [RawBlock.text] at h
  | cons p ps ih =>
      have hlater {u : List Char} (hu : p.text ++ u = before)
          (hrest : render ps = u ++ (b.text ++ after)) (hps' : Legible ps) :
          (∃ ps₁ ps₂, p :: ps = ps₁ ++ .block b :: ps₂ ∧ render ps₁ = before ∧
              render ps₂ = after) ∨
            ∃ b' ∈ blocks (p :: ps), ∃ w, b'.body = w ++ '\x7b' :: b.inner := by
        rcases ih hps' hrest with ⟨ps₁, ps₂, rfl, rfl, rfl⟩ | ⟨b', hb', hw⟩
        · exact .inl ⟨p :: ps₁, ps₂, rfl, hu, rfl⟩
        · have hmem : b' ∈ blocks ([p] ++ ps) := by
            rw [blocks_append]
            exact List.mem_append_right _ hb'
          exact .inr ⟨b', hmem, hw⟩
      cases p with
      | sign c =>
          cases before with
          | nil =>
              -- A block would begin at the sign.
              have hstart : blockStart? (c :: render ps) = some b.weight := by
                have he : c :: render ps = b.text ++ after := h
                rw [he, hb.blockStart?]
              rw [hps.1] at hstart
              cases hstart
          | cons d u =>
              obtain ⟨rfl, hrest⟩ := List.cons.inj h
              exact hlater rfl hrest hps.2
      | block b' =>
          rcases List.append_eq_append_iff.mp h with ⟨u, hu, hrest⟩ | ⟨u, hu, hrest⟩
          · exact hlater hu.symm hrest hps.2
          · by_cases hnil : u = []
            · subst hnil
              have hwhole : (Piece.block b').text ++ [] = before := by
                rw [hu, List.append_nil, List.append_nil]
              exact hlater hwhole hrest.symm hps.2
            · by_cases hfirst : before = []
              · subst hfirst
                have he : b.text ++ after = b'.text ++ render ps := h.symm
                obtain ⟨rfl, rfl⟩ := hb.eq_of_text hps.1 he
                exact .inl ⟨[], ps, rfl, rfl, rfl⟩
              · obtain ⟨w, hw⟩ := hps.1.swallows hb hfirst hnil hu hrest.symm
                exact .inr ⟨b', .head _, w, hw⟩

/-! ## Options that are taken for a part of another -/

/-- A splitter that has a part begun goes on with it as with an empty one. -/
theorem exists_splitFrom (isDelimiter : Char → Bool) (literal : Bool) (s : List Char) :
    ∃ first rest, ∀ part,
      splitFrom isDelimiter part literal s = (part.reverse ++ first) :: rest := by
  induction s generalizing literal with
  | nil => exact ⟨[], [], fun part => by simp [splitFrom]⟩
  | cons c s ih =>
      cases literal with
      | true =>
          obtain ⟨first, rest, h⟩ := ih false
          exact ⟨c :: first, rest, fun part => by simp [splitFrom, h]⟩
      | false =>
          by_cases hslash : c = '\\'
          · obtain ⟨first, rest, h⟩ := ih true
            exact ⟨c :: first, rest, fun part => by simp [splitFrom, hslash, h]⟩
          · by_cases hc : isDelimiter c = true
            · exact ⟨[], splitFrom isDelimiter [] false s,
                fun part => by simp [splitFrom, hslash, hc]⟩
            · obtain ⟨first, rest, h⟩ := ih false
              exact ⟨c :: first, rest, fun part => by simp [splitFrom, hslash, hc, h]⟩

/-- A sign that is no delimiter and no backslash stands in one of the parts. The parts
behind this one do not depend on what stands in front of the sign. -/
theorem splitFrom_append_cons {isDelimiter : Char → Bool} {c : Char} (hslash : c ≠ '\\')
    (hc : isDelimiter c = false) (w t part : List Char) (literal : Bool) :
    ∃ parts p, splitFrom isDelimiter part literal (w ++ c :: t) =
      parts ++ p :: (splitUnescaped isDelimiter t).tail ∧ c ∈ p := by
  induction w generalizing part literal with
  | nil =>
      obtain ⟨first, rest, h⟩ := exists_splitFrom isDelimiter false t
      refine ⟨[], part.reverse ++ c :: first, ?_, by simp⟩
      rw [splitUnescaped, h]
      cases literal <;> simp [splitFrom, hslash, hc, h]
  | cons d w ih =>
      cases literal with
      | true => exact ih (d :: part) false
      | false =>
          by_cases hd : d = '\\'
          · obtain ⟨parts, p, h, hp⟩ := ih (d :: part) true
            exact ⟨parts, p, by simp [splitFrom, hd] at h ⊢; exact h, hp⟩
          · by_cases hdel : isDelimiter d = true
            · obtain ⟨parts, p, h, hp⟩ := ih [] false
              exact ⟨part.reverse :: parts, p, by simp [splitFrom, hd, hdel, h], hp⟩
            · obtain ⟨parts, p, h, hp⟩ := ih (d :: part) false
              exact ⟨parts, p, by simp [splitFrom, hd, hdel, h], hp⟩

/-- The options of a block that a brace stands in front of are more by one at least: the
brace belongs to an option of its own. -/
theorem length_rawAnswers_lt {w lead : List Char} {raws : List (List Char)}
    (hlead : Shielded (· == '~') lead) (hraws : ∀ raw ∈ raws, Shielded (· == '~') raw) :
    raws.length < (rawAnswers (w ++ '\x7b' :: (lead ++ raws.flatMap ('~' :: ·)))).length := by
  have htail : (splitUnescaped (· == '~') (lead ++ raws.flatMap ('~' :: ·))).tail = raws := by
    have hplain : splitUnescaped (· == '~') (raws.flatMap ('~' :: ·)) = [] :: raws :=
      splitUnescaped_flatMap (by decide) (by decide) hraws
    obtain ⟨first, rest, h⟩ := exists_splitFrom (· == '~') false (raws.flatMap ('~' :: ·))
    rw [splitUnescaped, h] at hplain
    rw [splitUnescaped, splitFrom_append hlead, h, List.tail_cons, (List.cons.inj hplain).2]
  obtain ⟨parts, p, hsplit, hp⟩ : ∃ parts p,
      splitFrom (· == '~') [] false (w ++ '\x7b' :: (lead ++ raws.flatMap ('~' :: ·))) =
        parts ++ p :: (splitUnescaped (· == '~') (lead ++ raws.flatMap ('~' :: ·))).tail ∧
      '\x7b' ∈ p :=
    splitFrom_append_cons (by decide) (by decide) w _ [] false
  rw [htail] at hsplit
  rw [rawAnswers, splitUnescaped, hsplit]
  cases parts with
  | nil =>
      cases p with
      | nil => cases hp
      | cons c p => simp
  | cons q parts =>
      cases q with
      | nil =>
          simp
          omega
      | cons c q =>
          simp
          omega

end QuestionBank.Cloze
