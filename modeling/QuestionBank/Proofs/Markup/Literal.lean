import QuestionBank.Proofs.Markup.RawContent

/-!
# Texts without markup

A text is literal if nothing in it is taken for markup: no bracket begins a tag, a comment or a
declaration, and what stands behind an ampersand is no reference. Cleaning such a text as plain
text only squeezes its blanks.
-/

namespace QuestionBank.Markup

open QuestionBank.Text

/-- A text in which nothing is taken for a tag or a reference. -/
inductive Literal : List Char → Prop where
  | nil : Literal []
  | char {c : Char} {s : List Char} (hbracket : c ≠ '<') (hamp : c ≠ '&') (hs : Literal s) :
      Literal (c :: s)
  /-- What is taken for a reference stays as it is. -/
  | amp {s : List Char} (h : ∀ p ∈ reference? s, p.1 = '&' :: s.take p.2) (hs : Literal s) :
      Literal ('&' :: s)
  | bracket {s : List Char} (h : StaysText s) (hs : Literal s) : Literal ('<' :: s)

variable {s : List Char} {depth : Nat} {final : Bool}

theorem Literal.drop (h : Literal s) (n : Nat) : Literal (s.drop n) := by
  induction n generalizing s with
  | zero => exact h
  | succ n ih =>
      cases h with
      | nil => exact .nil
      | char hbracket hamp hs => exact ih hs
      | amp href hs => exact ih hs
      | bracket hstays hs => exact ih hs

/-- Characters that begin no markup can stand anywhere. -/
theorem Literal.plain {d : List Char} (hd : ∀ c ∈ d, c ≠ '<' ∧ c ≠ '&') (hs : Literal s) :
    Literal (d ++ s) := by
  induction d with
  | nil => exact hs
  | cons c d ih =>
      obtain ⟨⟨hbracket, hamp⟩, hd⟩ := List.forall_mem_cons.mp hd
      exact .char hbracket hamp (ih hd)

/-- A literal text has nothing to decode. -/
theorem Literal.decode_eq (h : Literal s) : decode s = s := by
  -- A reference may take any number of characters, so the induction is on the length.
  generalize hn : s.length = n
  induction n using Nat.strong_induction_on generalizing s with
  | _ n ih =>
    subst hn
    cases h with
    | nil => exact decode_nil
    | char hbracket hamp hs => rw [decode_cons hamp, ih _ (Nat.lt_succ_self _) hs rfl]
    | bracket hstays hs => rw [decode_cons (by decide), ih _ (Nat.lt_succ_self _) hs rfl]
    | @amp s href hs =>
        rw [decode, if_pos rfl]
        split
        next text size hreference =>
          obtain rfl : text = '&' :: s.take size := href (text, size) hreference
          have hlength : (s.drop size).length < ('&' :: s).length := by
            rw [List.length_drop, List.length_cons]
            omega
          rw [ih _ hlength (hs.drop size) rfl, List.cons_append, List.take_append_drop]
        next => rw [ih _ (Nat.lt_succ_self _) hs rfl]

theorem charOfCode_ne (n : Nat) (c d : Char) (r : List Char) : charOfCode n ≠ c :: d :: r := by
  unfold charOfCode
  split_ifs <;> simp

/-- A literal text holds no code. -/
theorem digits_of_literal {r : List Char}
    (h : ∀ p ∈ reference? ('#' :: r), p.1 = '&' :: ('#' :: r).take p.2) :
    r.takeWhile Char.isDigit = [] := by
  by_contra hdigits
  have hsome : (!(r.takeWhile Char.isDigit).isEmpty) = true := by
    rw [Bool.not_eq_true', List.isEmpty_eq_false_iff]
    exact hdigits
  simp only [reference?, hsome, if_true, Option.mem_some_iff, forall_eq', Nat.add_assoc,
    Nat.add_comm 1] at h
  exact charOfCode_ne _ _ _ _ h

theorem Literal.readable (h : Literal s) : Readable s := by
  induction h with
  | nil => exact readable_nil
  | char hbracket hamp hs ih => exact (readable_cons hamp _).mpr ih
  | bracket hstays hs ih => exact (readable_cons (by decide) _).mpr ih
  | @amp s href hs ih =>
      by_cases hhead : s.head? = some '#'
      · obtain ⟨r, rfl⟩ := List.head?_eq_some_iff.mp hhead
        rw [readable_code, digits_of_literal href]
        exact ⟨Nat.zero_le _, (readable_cons (by decide) _).mp ih⟩
      · exact (readable_amp hhead).mpr ih

/-- The text in front of the first bracket, and what begins with it. -/
theorem exists_bracket (s : List Char) :
    ∃ d r, s = d ++ r ∧ '<' ∉ d ∧ ∀ c ∈ r.head?, c = '<' := by
  refine ⟨s.takeWhile (· != '<'), s.dropWhile (· != '<'), (List.takeWhile_append_dropWhile).symm,
    fun hmem => ?_, fun c hc => ?_⟩
  · simpa using List.mem_takeWhile_imp hmem
  · obtain ⟨r, hr⟩ := List.head?_eq_some_iff.mp hc
    simpa using not_of_dropWhile hr

/-- A literal text is visible as it is. -/
theorem Literal.shown (h : Literal s) : shownOf depth final s = .ok (outside depth s) := by
  generalize hn : s.length = n
  induction n using Nat.strong_induction_on generalizing s final with
  | _ n ih =>
    obtain ⟨d, r, rfl, hd, hr⟩ := exists_bracket s
    have hrest : Literal r := by
      have := h.drop d.length
      rwa [List.drop_left] at this
    have hapart : Apart r := fun c hc => hr c hc ▸ by decide
    have hdecode : decode d = d := by
      have := h.decode_eq
      rw [decode_append hapart, hrest.decode_eq] at this
      exact List.append_cancel_right this
    rw [shownOf_readable hd hr h.readable.of_append, hdecode, outside_append]
    cases hrest with
    | nil =>
        rw [shownOf_nil]
        simp [Except.map, outside]
    | char hbracket => exact absurd (hr _ rfl) hbracket
    | amp => exact absurd (hr _ rfl) (by decide)
    | @bracket r hstays hs =>
        obtain ⟨final', hshown⟩ := shownOf_bracket hstays
        have hlength : r.length < n := by
          rw [← hn, List.length_append, List.length_cons]
          omega
        have hsplit : outside depth ('<' :: r) = outside depth ['<'] ++ outside depth r :=
          outside_append depth ['<'] r
        rw [hshown, ih r.length hlength hs rfl, hsplit]
        rfl

/-- Cleaning a literal text squeezes its blanks. -/
theorem toPlain_of_literal {text : String} (h : Literal text.toList) :
    toPlain text = .ok (squeeze text) := by
  rw [toPlain_of_shownOf h.shown]
  show Except.ok (squeeze (String.ofList text.toList)) = _
  rw [String.ofList_toList]

end QuestionBank.Markup
