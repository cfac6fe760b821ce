import QuestionBank.Cloze.Block
import QuestionBank.Proofs.Cloze.Piece
import QuestionBank.Proofs.Text.Strip
import Mathlib.Data.List.Induction

/-!
# Blocks woven into a text

A text holds blocks if it is the text of legible pieces with these blocks. Blanks at
its ends may be stripped, several such texts may be joined by spaces, and a block may
take the place of a blank in a quiet text: the blocks and their order remain.
-/

namespace QuestionBank.Cloze

open QuestionBank.Text

/-- A text holds the blocks in their order, and no other beginning of a block. -/
def Woven (s : List Char) (bs : List RawBlock) : Prop :=
  ∃ ps, Legible ps ∧ render ps = s ∧ blocks ps = bs

theorem Quiet.woven {s : List Char} (h : Quiet s) : Woven s [] :=
  ⟨signs s, legible_signs h, render_signs s, blocks_signs s⟩

theorem Woven.eq_nil {bs : List RawBlock} (h : Woven [] bs) : bs = [] := by
  obtain ⟨ps, -, hrender, rfl⟩ := h
  cases ps with
  | nil => rfl
  | cons p ps => cases p <;> cases hrender

theorem Woven.append {s t : List Char} {bs cs : List RawBlock} (hs : Woven s bs)
    (ht : Woven t cs) (hstop : Stops t) : Woven (s ++ t) (bs ++ cs) := by
  obtain ⟨ps, hps, rfl, rfl⟩ := hs
  obtain ⟨qs, hqs, rfl, rfl⟩ := ht
  exact ⟨ps ++ qs, hps.append hqs hstop, render_append ps qs, blocks_append ps qs⟩

theorem Woven.space_cons {s : List Char} {bs : List RawBlock} (h : Woven s bs) :
    Woven (' ' :: s) bs := by
  obtain ⟨ps, hps, rfl, rfl⟩ := h
  exact ⟨.sign ' ' :: ps, ⟨rfl, hps⟩, rfl, rfl⟩

theorem woven_block {b : RawBlock} (hb : b.WellFormed) : Woven b.text [b] :=
  ⟨[.block b], legible_block hb, by simp, rfl⟩

/-! ## Stripping -/

theorem Woven.stripStart {s : List Char} {bs : List RawBlock} (h : Woven s bs) :
    Woven (stripStart s) bs := by
  obtain ⟨ps, hps, rfl, rfl⟩ := h
  induction ps with
  | nil => exact ⟨[], trivial, rfl, rfl⟩
  | cons p ps ih =>
      cases p with
      | sign c =>
          by_cases hc : isBlank c = true
          · rw [render_sign, Text.stripStart, List.dropWhile_cons_of_pos hc]
            exact ih hps.2
          · rw [render_sign, Text.stripStart, List.dropWhile_cons_of_neg hc]
            exact ⟨.sign c :: ps, hps, rfl, rfl⟩
      | block b => exact ⟨.block b :: ps, hps, rfl, rfl⟩

theorem Woven.stripEnd {s : List Char} {bs : List RawBlock} (h : Woven s bs) :
    Woven (stripEnd s) bs := by
  obtain ⟨ps, hps, rfl, rfl⟩ := h
  induction ps using List.reverseRecOn with
  | nil => exact ⟨[], trivial, rfl, rfl⟩
  | append_singleton ps p ih =>
      cases p with
      | sign c =>
          rw [render_append, render_sign, render_nil]
          by_cases hc : isBlank c = true
          · have hblocks : blocks (ps ++ [.sign c]) = blocks ps := by
              rw [blocks_append]
              exact List.append_nil _
            rw [stripEnd_append_blank _ hc, hblocks]
            exact ih hps.of_append_left
          · rw [stripEnd_append_of_not_blank _ (by simpa using hc)]
            exact ⟨ps ++ [.sign c], hps, by simp, rfl⟩
      | block b =>
          have hlast : render (ps ++ [.block b]) =
              (render ps ++ '\x7b' :: (b.weight ++ ':' :: (b.kind ++ ':' :: b.body))) ++
                ['\x7d'] := by
            simp [RawBlock.text]
          rw [hlast, stripEnd_append_of_not_blank _ (by decide), ← hlast]
          exact ⟨_, hps, rfl, rfl⟩

theorem Woven.strip {s : String} {bs : List RawBlock} (h : Woven s.toList bs) :
    Woven (strip s).toList bs := by
  rw [Text.strip, String.toList_ofList]
  exact h.stripStart.stripEnd

/-! ## Joining -/

theorem woven_intercalate {parts : List String} {bss : List (List RawBlock)}
    (h : List.Forall₂ (fun s bs => Woven s.toList bs) parts bss) :
    Woven (" ".intercalate parts).toList bss.flatten := by
  induction h with
  | nil => exact ⟨[], trivial, rfl, rfl⟩
  | @cons s bs parts bss hs hparts ih =>
      cases hparts with
      | nil => simpa using hs
      | cons ht hparts =>
          rw [String.intercalate_cons_cons, String.append_assoc, String.toList_append,
            String.toList_append]
          exact hs.append ih.space_cons (stops_cons (by decide) (by decide))

theorem woven_filter {parts : List String} {bss : List (List RawBlock)}
    (h : List.Forall₂ (fun s bs => Woven s.toList bs) parts bss) :
    ∃ css, List.Forall₂ (fun s bs => Woven s.toList bs) (parts.filter fun p => !p.isEmpty) css ∧
      css.flatten = bss.flatten := by
  induction h with
  | nil => exact ⟨[], .nil, rfl⟩
  | @cons s bs parts bss hs hparts ih =>
      obtain ⟨css, hcss, hflatten⟩ := ih
      by_cases he : s = ""
      · subst he
        obtain rfl : bs = [] := Woven.eq_nil hs
        exact ⟨css, hcss, hflatten⟩
      · refine ⟨bs :: css, ?_, by rw [List.flatten_cons, hflatten, List.flatten_cons]⟩
        rw [List.filter_cons_of_pos (by simpa using he)]
        exact .cons hs hcss

/-- Texts that are joined keep their blocks. -/
theorem woven_joinStripped {parts : List String} {bss : List (List RawBlock)}
    (h : List.Forall₂ (fun s bs => Woven s.toList bs) parts bss) :
    Woven (joinStripped parts).toList bss.flatten := by
  have hstrip : List.Forall₂ (fun s bs => Woven s.toList bs) (parts.map strip) bss :=
    List.forall₂_map_left_iff.mpr (h.imp fun _ _ hs => hs.strip)
  obtain ⟨css, hcss, hflatten⟩ := woven_filter hstrip
  rw [joinStripped, ← hflatten]
  exact woven_intercalate hcss

/-! ## Placing -/

theorem fillBlank?_eq_some {block text s : List Char} (h : fillBlank? block text = some s) :
    ∃ before blank after, text = before ++ (blank ++ after) ∧ s = before ++ (block ++ after) := by
  induction text using fillBlank?.induct generalizing s with
  | case1 => cases h
  | case2 r =>
      rw [fillBlank?] at h
      cases h
      refine ⟨[], '_' :: '_' :: r.takeWhile (· == '_'), r.dropWhile (· == '_'), ?_, rfl⟩
      simp
  | case3 c r hne ih =>
      rw [fillBlank?.eq_3 _ _ _ hne] at h
      obtain ⟨t, ht, rfl⟩ := Option.map_eq_some_iff.mp h
      obtain ⟨before, blank, after, rfl, rfl⟩ := ih ht
      exact ⟨c :: before, blank, after, rfl, rfl⟩

/-- A quiet text with a block in it, or behind it, holds just this block. -/
theorem woven_placeBlock {text : String} (htext : Quiet text.toList) {b : RawBlock}
    (hb : b.WellFormed) : Woven (placeBlock text (String.ofList b.text)).toList [b] := by
  unfold placeBlock
  rw [String.toList_ofList]
  split
  next s hs =>
    obtain ⟨before, blank, after, he, rfl⟩ := fillBlank?_eq_some hs
    rw [he] at htext
    have hbefore : Woven before [] := (quiet_of_append_left htext).woven
    have hafter : Legible (signs after) :=
      legible_signs (quiet_of_append_right (quiet_of_append_right htext))
    have hblock : Woven (b.text ++ after) [b] :=
      ⟨.block b :: signs after, ⟨hb, hafter⟩, by simp, congrArg (b :: ·) (blocks_signs after)⟩
    rw [String.toList_ofList]
    exact hbefore.append hblock (b.stops_text after)
  next =>
    split
    · rw [String.toList_ofList]
      exact woven_block hb
    · simp only [String.append_assoc, String.toList_append, trimEnd, String.toList_ofList]
      exact htext.woven.stripEnd.append (woven_block hb).space_cons
        (stops_cons (by decide) (by decide))

end QuestionBank.Cloze
