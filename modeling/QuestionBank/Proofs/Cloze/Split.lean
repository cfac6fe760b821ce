import QuestionBank.Proofs.Cloze.Shielded

/-!
# Escaped texts that are joined and split again

A splitter cuts a text at each delimiter that no backslash makes literal, and drops nothing but
these delimiters: its parts with the delimiter between them are the text again. Texts that are
shielded from the delimiter are the parts of what they are joined to, so escaped texts come out
of a split as they went in.
-/

namespace QuestionBank.Cloze

/-- A delimiter of one character is that character. -/
theorem isDelimiterOf_singleton (d : Char) :
    isDelimiterOf (String.singleton d) = fun c => c == d := by
  funext c
  rw [isDelimiterOf, Bool.eq_iff_iff, beq_iff_eq, beq_iff_eq, String.singleton_inj, eq_comm]

/-! ## Joining what was split -/

theorem splitFrom_ne_nil (isDelimiter : Char → Bool) (part : List Char) (literal : Bool)
    (s : List Char) : splitFrom isDelimiter part literal s ≠ [] := by
  induction s generalizing part literal with
  | nil => exact List.cons_ne_nil _ _
  | cons c s ih =>
      unfold splitFrom
      split_ifs
      · exact ih _ _
      · exact ih _ _
      · exact List.cons_ne_nil _ _
      · exact ih _ _

/-- The parts that a splitter still gives, with the delimiter between them, are what it has read
of the first part and what is left of the text. -/
theorem intercalate_splitFrom (d : Char) (part : List Char) (literal : Bool) (s : List Char) :
    [d].intercalate (splitFrom (· == d) part literal s) = part.reverse ++ s := by
  induction s generalizing part literal with
  | nil => rw [splitFrom, List.intercalate_singleton, List.append_nil]
  | cons c s ih =>
      have hpass (flag : Bool) :
          [d].intercalate (splitFrom (· == d) (c :: part) flag s) = part.reverse ++ c :: s := by
        rw [ih, List.reverse_cons, List.append_assoc, List.singleton_append]
      unfold splitFrom
      split_ifs with hliteral hslash hdelimiter
      · exact hpass false
      · exact hpass true
      · -- the delimiter is dropped here, and the join puts it back
        obtain rfl : c = d := beq_iff_eq.mp hdelimiter
        obtain ⟨q, qs, hq⟩ :=
          List.exists_cons_of_ne_nil (splitFrom_ne_nil (· == c) [] false s)
        have hrest := ih [] false
        rw [hq] at hrest
        rw [hq, List.intercalate_cons_cons, hrest, List.append_assoc]
        rfl
      · exact hpass false

/-! ## Splitting what was joined -/

variable {isDelimiter : Char → Bool}

/-- Texts that are shielded from a delimiter are the parts of what they are joined to. -/
theorem splitUnescaped_intercalate {d : Char} (hd : isDelimiter d = true) (hb : d ≠ '\\')
    {parts : List (List Char)} (hne : parts ≠ []) (h : ∀ p ∈ parts, Shielded isDelimiter p) :
    splitUnescaped isDelimiter ([d].intercalate parts) = parts := by
  induction parts with
  | nil => exact absurd rfl hne
  | cons p parts ih =>
      obtain ⟨hp, hparts⟩ := List.forall_mem_cons.mp h
      cases parts with
      | nil => rw [List.intercalate_singleton, splitUnescaped_of_shielded hp]
      | cons q parts =>
          rw [List.intercalate_cons_cons, List.append_assoc, List.singleton_append,
            splitUnescaped_append hp hd hb, ih (List.cons_ne_nil q parts) hparts]

/-- **Escaping and splitting are undone.** Unescaping gives back every text that was escaped.
Escaped texts that are joined by a tilde or by a number sign are the parts of what they are
joined to. A text that is split at any character is the join of its parts. -/
theorem escape_split_inverse :
    (∀ s, unescape (escape s) = s) ∧
    (∀ d ∈ ['~', '#'], ∀ texts : List (List Char), texts ≠ [] →
      splitUnescaped (isDelimiterOf (String.singleton d)) ([d].intercalate (texts.map escape)) =
        texts.map escape) ∧
    ∀ (d : Char) (s : List Char),
      [d].intercalate (splitUnescaped (isDelimiterOf (String.singleton d)) s) = s := by
  refine ⟨unescape_escape, ?_, ?_⟩
  · intro d hd texts hne
    obtain ⟨hspecial, hslash⟩ : isSpecial d = true ∧ d ≠ '\\' := by
      rw [List.mem_pair] at hd
      rcases hd with rfl | rfl <;> decide
    have hparts : ∀ p ∈ texts.map escape, Shielded (· == d) p := by
      intro p hp
      obtain ⟨s, -, rfl⟩ := List.mem_map.mp hp
      exact (shielded_escape s).of_special hspecial
    rw [isDelimiterOf_singleton]
    refine splitUnescaped_intercalate ?_ hslash ?_ hparts
    · exact beq_self_eq_true d
    · simpa using hne
  · intro d s
    rw [isDelimiterOf_singleton, splitUnescaped, intercalate_splitFrom, List.reverse_nil,
      List.nil_append]

/-- Texts that end in backslashes, hold the delimiter behind backslashes, or are empty; and a text
that is split at a backslash, at which nothing is cut. -/
theorem escape_split_inverse_slashes :
    unescape (escape "a\\\\~\n\\".toList) = "a\\\\~\n\\".toList ∧
    splitUnescaped (isDelimiterOf "~")
      ['a', '\\', '\\', '~', '\\', '\\', '\\', '~', '~', '~', '\\', '\\', '\n'] =
        ["a\\\\".toList, "\\\\\\~".toList, [], "\\\\\n".toList] ∧
    ['\\'].intercalate (splitUnescaped (isDelimiterOf "\\") "a\\~\\".toList) = "a\\~\\".toList := by
  obtain ⟨hescape, hsplit, hjoin⟩ := escape_split_inverse
  refine ⟨hescape _, ?_, hjoin '\\' _⟩
  exact hsplit '~' (by decide) ["a\\".toList, "\\~".toList, [], "\\\n".toList] (by decide)

end QuestionBank.Cloze
