import QuestionBank.Proofs.Cloze.Block
import Mathlib.Data.List.Infix
import Mathlib.Data.List.TakeWhile

/-!
# Texts with blocks

A text with blocks is a list of pieces, each of which is a sign or a block. It is
legible if a reader finds the blocks and no others. Legible texts may be put together
when what follows does not go on with a block that the end of the first text begins.
A legible text is read back with a numbered place for each of its blocks.
-/

namespace QuestionBank.Cloze

open QuestionBank.Text

/-- A piece of a text. -/
inductive Piece where
  | sign (c : Char)
  | block (b : RawBlock)

namespace Piece

/-- The text of a piece. -/
def text : Piece → List Char
  | sign c => [c]
  | block b => b.text

/-- The block of a piece. -/
def block? : Piece → Option RawBlock
  | sign _ => none
  | block b => some b

end Piece

/-- The text of pieces. -/
def render (ps : List Piece) : List Char := ps.flatMap Piece.text

/-- The blocks among pieces. -/
def blocks (ps : List Piece) : List RawBlock := ps.filterMap Piece.block?

/-- The pieces of a text without blocks. -/
def signs (s : List Char) : List Piece := s.map Piece.sign

/-- The text of pieces with a numbered place for each block; `position` is the number of
the first one. -/
def places (position : Nat) : List Piece → List Char
  | [] => []
  | .sign c :: ps => c :: places position ps
  | .block _ :: ps => placeholder position ++ places (position + 1) ps

/-- Blocks are well formed, and no block begins at a sign. -/
def Legible : List Piece → Prop
  | [] => True
  | .sign c :: ps => blockStart? (c :: render ps) = none ∧ Legible ps
  | .block b :: ps => b.WellFormed ∧ Legible ps

/-- A text holds no beginning of a block: no brace with digits and a colon behind it. -/
def Quiet (s : List Char) : Prop :=
  ∀ before digits after, digits ≠ [] → (∀ c ∈ digits, isDecimal c = true) →
    s ≠ before ++ '\x7b' :: (digits ++ ':' :: after)

@[simp] theorem render_nil : render [] = [] := rfl

@[simp] theorem render_sign (c : Char) (ps : List Piece) :
    render (.sign c :: ps) = c :: render ps := rfl

@[simp] theorem render_block (b : RawBlock) (ps : List Piece) :
    render (.block b :: ps) = b.text ++ render ps := rfl

@[simp] theorem render_append (ps qs : List Piece) : render (ps ++ qs) = render ps ++ render qs :=
  List.flatMap_append

@[simp] theorem render_signs (s : List Char) : render (signs s) = s := by
  induction s with
  | nil => rfl
  | cons c s ih => exact congrArg (c :: ·) ih

@[simp] theorem blocks_append (ps qs : List Piece) : blocks (ps ++ qs) = blocks ps ++ blocks qs :=
  List.filterMap_append

@[simp] theorem blocks_signs (s : List Char) : blocks (signs s) = [] := by
  induction s with
  | nil => rfl
  | cons c s ih => exact ih

theorem places_signs_append (position : Nat) (s : List Char) (ps : List Piece) :
    places position (signs s ++ ps) = s ++ places position ps := by
  induction s with
  | nil => rfl
  | cons c s ih => exact congrArg (c :: ·) ih

theorem places_signs (position : Nat) (s : List Char) : places position (signs s) = s := by
  have h := places_signs_append position s []
  rwa [List.append_nil, places, List.append_nil] at h

/-! ## Beginnings of blocks -/

theorem blockStart?_eq_some {s digits : List Char} (h : blockStart? s = some digits) :
    digits ≠ [] ∧ (∀ c ∈ digits, isDecimal c = true) ∧
      ∃ after, s = '\x7b' :: (digits ++ ':' :: after) := by
  unfold blockStart? at h
  split at h
  next r =>
    dsimp only at h
    split at h
    next hd =>
      cases h
      rw [Bool.and_eq_true, decide_eq_true_eq] at hd
      obtain ⟨after, hafter⟩ : ∃ after,
          r.drop (r.takeWhile isDecimal).length = ':' :: after := by
        cases he : r.drop (r.takeWhile isDecimal).length with
        | nil => simp [he] at hd
        | cons c after =>
            rw [he] at hd
            exact ⟨after, by rw [Option.some.inj hd.2]⟩
      refine ⟨by simpa using hd.1, fun c hc => List.mem_takeWhile_imp hc, after, ?_⟩
      have hsplit := List.take_append_drop (r.takeWhile isDecimal).length r
      rw [List.prefix_iff_eq_take.mp (List.takeWhile_prefix _) |>.symm, hafter] at hsplit
      rw [hsplit]
    next => cases h
  next => cases h

theorem blockStart?_eq_none_iff {s : List Char} :
    blockStart? s = none ↔ ∀ digits after, digits ≠ [] →
      (∀ c ∈ digits, isDecimal c = true) → s ≠ '\x7b' :: (digits ++ ':' :: after) := by
  constructor
  · rintro h digits after hne hd rfl
    rw [blockStart?_append hne hd] at h
    cases h
  · intro h
    cases hs : blockStart? s with
    | none => rfl
    | some digits =>
        obtain ⟨hne, hd, after, he⟩ := blockStart?_eq_some hs
        exact absurd he (h digits after hne hd)

theorem quiet_iff {s : List Char} : Quiet s ↔ ∀ t ∈ s.tails, blockStart? t = none := by
  constructor
  · intro h t ht
    rw [List.mem_tails] at ht
    obtain ⟨before, rfl⟩ := ht
    rw [blockStart?_eq_none_iff]
    rintro digits after hne hd rfl
    exact h before digits after hne hd rfl
  · rintro h before digits after hne hd rfl
    have hstart := h _ ((List.mem_tails _ _).mpr ⟨before, rfl⟩)
    rw [blockStart?_append hne hd] at hstart
    cases hstart

instance : DecidablePred Quiet := fun _ => decidable_of_iff _ quiet_iff.symm

/-- A text does not go on with the beginning of a block. -/
def Stops (s : List Char) : Prop := ∀ c ∈ s.head?, isDecimal c = false ∧ c ≠ ':'

theorem stops_cons {c : Char} {s : List Char} (hd : isDecimal c = false) (hc : c ≠ ':') :
    Stops (c :: s) := by
  intro d hd'
  obtain rfl : c = d := by simpa using hd'
  exact ⟨hd, hc⟩

/-- A beginning of a block does not reach into a text that stops it. -/
theorem blockStart?_append_stops {s t : List Char} (hs : s ≠ []) (h : blockStart? s = none)
    (ht : Stops t) : blockStart? (s ++ t) = none := by
  rw [blockStart?_eq_none_iff] at h ⊢
  intro digits after hne hd he
  -- The colon stands in the first text, since the second cannot begin with what is
  -- left of the digits and the colon.
  rcases List.append_eq_append_iff.mp
    (show s ++ t = ('\x7b' :: digits) ++ (':' :: after) by simpa using he) with
    ⟨u, hu, hut⟩ | ⟨u, hu, hut⟩
  · cases u with
    | nil =>
        have hc := ht ':' (by simp [hut])
        exact hc.2 rfl
    | cons c u =>
        have hmem : c ∈ digits := by
          cases s with
          | nil => exact absurd rfl hs
          | cons d s =>
              have hdig : digits = s ++ c :: u := by simpa using (List.cons.inj hu).2
              simp [hdig]
        have hc := (ht c (by simp [hut])).1
        rw [hd c hmem] at hc
        cases hc
  · cases u with
    | nil =>
        obtain rfl : t = ':' :: after := hut.symm
        exact (ht ':' rfl).2 rfl
    | cons c u =>
        obtain ⟨rfl, rfl⟩ := List.cons.inj hut
        exact h digits u hne hd (by simpa using hu)

/-- What begins no block still begins none when its end is cut off. -/
theorem blockStart?_of_append {s t : List Char} (h : blockStart? (s ++ t) = none) :
    blockStart? s = none := by
  rw [blockStart?_eq_none_iff] at h ⊢
  rintro digits after hne hd rfl
  exact h digits (after ++ t) hne hd (by simp)

theorem quiet_cons_iff {c : Char} {s : List Char} :
    Quiet (c :: s) ↔ blockStart? (c :: s) = none ∧ Quiet s := by
  rw [quiet_iff, quiet_iff, List.tails_cons, List.forall_mem_cons]

theorem Quiet.append {s t : List Char} (hs : Quiet s) (ht : Quiet t) (hstop : Stops t) :
    Quiet (s ++ t) := by
  induction s with
  | nil => exact ht
  | cons c s ih =>
      obtain ⟨hc, hs⟩ := quiet_cons_iff.mp hs
      have hstart : blockStart? (c :: (s ++ t)) = none :=
        blockStart?_append_stops (by simp) hc hstop
      exact quiet_cons_iff.mpr ⟨hstart, ih hs⟩

/-- A block does not begin at a sign other than a brace. -/
theorem blockStart?_of_ne {c : Char} (h : c ≠ '\x7b') (s : List Char) :
    blockStart? (c :: s) = none := by
  rw [blockStart?_eq_none_iff]
  intro digits after _ _ he
  exact h (List.cons.inj he).1

theorem quiet_of_forall_ne {s : List Char} (h : ∀ c ∈ s, c ≠ '\x7b') : Quiet s := by
  rintro before digits after _ _ rfl
  exact h '\x7b' (by simp) rfl

/-! ## Legible texts -/

theorem Legible.of_append_left {ps qs : List Piece} (h : Legible (ps ++ qs)) : Legible ps := by
  induction ps with
  | nil => trivial
  | cons p ps ih =>
      cases p with
      | sign c =>
          refine ⟨blockStart?_of_append (t := render qs) ?_, ih h.2⟩
          simpa using h.1
      | block b => exact ⟨h.1, ih h.2⟩

theorem Legible.of_append_right {ps qs : List Piece} (h : Legible (ps ++ qs)) : Legible qs := by
  induction ps with
  | nil => exact h
  | cons p ps ih =>
      cases p with
      | sign c => exact ih h.2
      | block b => exact ih h.2

theorem Legible.append {ps qs : List Piece} (hps : Legible ps) (hqs : Legible qs)
    (hstop : Stops (render qs)) : Legible (ps ++ qs) := by
  induction ps with
  | nil => exact hqs
  | cons p ps ih =>
      cases p with
      | sign c =>
          refine ⟨?_, ih hps.2⟩
          change blockStart? (c :: render (ps ++ qs)) = none
          rw [render_append, ← List.cons_append]
          exact blockStart?_append_stops (by simp) hps.1 hstop
      | block b => exact ⟨hps.1, ih hps.2⟩

theorem quiet_of_append_right {s t : List Char} (h : Quiet (s ++ t)) : Quiet t := by
  rintro before digits after hne hd rfl
  exact h (s ++ before) digits after hne hd (by simp)

theorem quiet_of_append_left {s t : List Char} (h : Quiet (s ++ t)) : Quiet s := by
  rintro before digits after hne hd rfl
  exact h before digits (after ++ t) hne hd (by simp)

/-- The signs of a quiet text are legible. -/
theorem legible_signs {s : List Char} (h : Quiet s) : Legible (signs s) := by
  induction s with
  | nil => trivial
  | cons c s ih =>
      refine ⟨?_, ih (quiet_of_append_right (s := [c]) h)⟩
      change blockStart? (c :: render (signs s)) = none
      rw [render_signs, blockStart?_eq_none_iff]
      exact h []

/-- The text of legible pieces without blocks is quiet. -/
theorem quiet_render {ps : List Piece} (hps : Legible ps) (hblocks : blocks ps = []) :
    Quiet (render ps) := by
  induction ps with
  | nil => exact quiet_of_forall_ne (by simp)
  | cons p ps ih =>
      cases p with
      | sign c => exact quiet_cons_iff.mpr ⟨hps.1, ih hps.2 hblocks⟩
      | block b => cases hblocks

theorem RawBlock.stops_text (b : RawBlock) (t : List Char) : Stops (b.text ++ t) :=
  stops_cons (by decide) (by decide)

theorem legible_block {b : RawBlock} (hb : b.WellFormed) : Legible [.block b] := ⟨hb, trivial⟩

/-! ## Numbered places -/

/-- **A legible text is read back with a numbered place for each block.** The questions
are those that the blocks are decoded to, numbered in their order. -/
theorem extractFrom_render {P : RawBlock → Subquestion → Prop} {ps : List Piece}
    (hps : Legible ps)
    (hdecode : ∀ b ∈ blocks ps, ∀ position,
      ∃ sub, decodeBlock position b = .ok sub ∧ sub.position = position ∧ P b sub)
    (pos position : Nat) :
    ∃ subs, extractFrom pos position (render ps) = .ok (places position ps, subs) ∧
      List.Forall₂ P (blocks ps) subs ∧
      subs.map Subquestion.position = List.range' position (blocks ps).length := by
  induction ps generalizing pos position with
  | nil => exact ⟨[], by rw [render_nil, extractFrom]; rfl, .nil, rfl⟩
  | cons p ps ih =>
      cases p with
      | sign c =>
          obtain ⟨subs, hscan, hsubs, hpositions⟩ := ih hps.2 hdecode (pos + 1) position
          refine ⟨subs, ?_, hsubs, hpositions⟩
          rw [render_sign, extractFrom, hps.1, hscan]
          rfl
      | block b =>
          obtain ⟨sub, hsub, hposition, hP⟩ := hdecode b (.head _) position
          obtain ⟨subs, hscan, hsubs, hpositions⟩ :=
            ih hps.2 (fun b' hb' => hdecode b' (.tail _ hb')) (pos + b.text.length) (position + 1)
          refine ⟨sub :: subs, ?_, .cons hP hsubs, ?_⟩
          · rw [render_block, extractFrom_block hps.1, hsub, Except.bind, hscan]
            rfl
          · rw [List.map_cons, hposition, hpositions]
            rfl

end QuestionBank.Cloze
