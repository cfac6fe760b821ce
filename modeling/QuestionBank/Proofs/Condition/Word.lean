import QuestionBank.Proofs.Number.Signs
import QuestionBank.Proofs.Text.Lower
import QuestionBank.Proofs.Text.Strip
import QuestionBank.Scoring.Aggregate

/-!
# Words that no condition has

A condition that is one word, with blanks around it, is refused unless the word is a keyword or
names an operator. The word `OTHER`, by which an outcome is for all other answers, is none of
these, so the condition of such an outcome is never read.
-/

namespace QuestionBank.Condition

open QuestionBank.Text

theorem toUpper_of_not_isLower {c : Char} (h : ¬ c.isLower = true) : c.toUpper = c := by
  unfold Char.isLower at h
  unfold Char.toUpper
  exact dif_neg (by simpa using h)

theorem isAlpha_of_isLower {c : Char} (h : c.isLower = true) : c.isAlpha = true := by
  unfold Char.isAlpha
  rw [h, Bool.or_true]

theorem isAlpha_of_toUpper {c : Char} (h : c.toUpper.isAlpha = true) : c.isAlpha = true := by
  by_cases hlower : c.isLower = true
  · exact isAlpha_of_isLower hlower
  · rwa [toUpper_of_not_isLower hlower] at h

/-- Only a letter has another capital. -/
theorem eq_of_toUpper {c d : Char} (h : c.toUpper = d) (hd : d.isAlpha = false) : c = d := by
  by_cases hlower : c.isLower = true
  · have halpha : c.toUpper.isAlpha = true :=
      of_ascii (P := fun c => c.isLower = true → c.toUpper.isAlpha = true) (by decide +kernel)
        (toNat_of_isAlpha (isAlpha_of_isLower hlower)).2 hlower
    rw [h, hd] at halpha
    cases halpha
  · rwa [toUpper_of_not_isLower hlower] at h

/-- What begins with a letter is a word, and refused if it is not known. -/
theorem lexeme_unknownWord {c : Char} {r : List Char} (h : c.isAlpha = true)
    (hunknown : wordLexeme?
      (String.ofList ((c :: r.takeWhile isWordChar).map Char.toUpper)) = none) (pos : Nat) :
    lexeme pos c r =
      .error (.unexpectedWord (String.ofList (c :: r.takeWhile isWordChar)) pos) := by
  obtain ⟨hdecimal, hquote, hminus, habove, hbelow, hequal⟩ :
      isDecimal c = false ∧ c ≠ '"' ∧ c ≠ '-' ∧ c ≠ '>' ∧ c ≠ '<' ∧ c ≠ '=' :=
    of_ascii (P := fun c => c.isAlpha = true → isDecimal c = false ∧ c ≠ '"' ∧ c ≠ '-' ∧
      c ≠ '>' ∧ c ≠ '<' ∧ c ≠ '=') (by decide +kernel) (toNat_of_isAlpha h).2 h
  have hword : isWordChar c = true := by rw [isWordChar, h, Bool.true_or]
  have hnumber : Number.plainNumber? (c :: r) = none := by
    simp [Number.plainNumber?, hminus, hdecimal]
  simp only [lexeme, hquote, hnumber, habove, hbelow, hequal, hword, decide_false,
    Bool.false_and, Bool.false_eq_true, if_false, if_true, hunknown]

theorem tokensFrom_append_blank {blanks : List Char} (h : ∀ c ∈ blanks, isBlank c = true)
    (pos : Nat) (s : List Char) :
    tokensFrom pos (blanks ++ s) = tokensFrom (pos + blanks.length) s := by
  induction blanks generalizing pos with
  | nil => rfl
  | cons c blanks ih =>
      obtain ⟨hc, hblanks⟩ := List.forall_mem_cons.mp h
      rw [List.cons_append, tokensFrom_blank hc, ih hblanks, List.length_cons,
        Nat.add_right_comm, Nat.add_assoc]

/-- A text is what is left when it is stripped, between blanks. -/
theorem exists_strip (text : String) :
    ∃ before after, text.toList = before ++ ((strip text).toList ++ after) ∧
      (∀ c ∈ before, isBlank c = true) ∧ ∀ c ∈ after, isBlank c = true := by
  obtain ⟨after, hafter, hblank⟩ := exists_stripEnd (stripStart text.toList)
  refine ⟨text.toList.takeWhile isBlank, after, ?_, ?_, hblank⟩
  · rw [strip, String.toList_ofList, ← hafter]
    exact List.takeWhile_append_dropWhile.symm
  · exact fun c hc => List.mem_takeWhile_imp hc

/-- A blank ends a word. -/
theorem not_isWordChar_of_isBlank {c : Char} (h : isBlank c = true) : isWordChar c = false := by
  by_contra hword
  rw [Bool.not_eq_false, isWordChar, Bool.or_eq_true, beq_iff_eq] at hword
  rcases hword with halpha | rfl
  · exact absurd h (of_ascii (P := fun c => c.isAlpha = true → ¬ isBlank c = true)
      (by decide +kernel) (toNat_of_isAlpha halpha).2 halpha)
  · exact absurd h (by decide)

/-- A condition that is one word is refused unless the word is known. -/
theorem parse_word {text : String} (hne : strip text ≠ "")
    (halpha : ∀ c ∈ (strip text).toList, c.isAlpha = true)
    (hunknown : wordLexeme? (upperAscii (strip text)) = none) :
    ∃ pos, parse text = .error (.unexpectedWord (strip text) pos) := by
  obtain ⟨before, after, htext, hbefore, hafter⟩ := exists_strip text
  cases hstrip : (strip text).toList with
  | nil => exact absurd (String.toList_eq_nil_iff.mp hstrip) hne
  | cons c w =>
      rw [hstrip] at htext halpha
      obtain ⟨hc, hw⟩ := List.forall_mem_cons.mp halpha
      -- the word ends where the blanks behind it begin
      have hrun : (w ++ after).takeWhile isWordChar = w := by
        rw [List.takeWhile_append_of_pos fun d hd => by rw [isWordChar, hw d hd, Bool.true_or]]
        cases after with
        | nil => exact List.append_nil w
        | cons d after =>
            rw [List.takeWhile_cons_of_neg, List.append_nil]
            simp [not_isWordChar_of_isBlank (hafter d (.head _))]
      have hblank : ¬ isBlank c = true := by
        intro hblank
        have hword := not_isWordChar_of_isBlank hblank
        rw [isWordChar, hc, Bool.true_or] at hword
        cases hword
      have hword : String.ofList (c :: w) = strip text := by
        rw [← hstrip, String.ofList_toList]
      have hlexeme : lexeme (0 + before.length) c (w ++ after) =
          .error (.unexpectedWord (strip text) (0 + before.length)) := by
        rw [upperAscii, hstrip, ← hrun] at hunknown
        rw [lexeme_unknownWord hc hunknown, hrun, hword]
      refine ⟨0 + before.length, ?_⟩
      rw [parse, tokenize, htext, tokensFrom_append_blank hbefore, List.cons_append,
        tokensFrom_error hblank hlexeme]

end QuestionBank.Condition

namespace QuestionBank.Scoring

open QuestionBank.Condition QuestionBank.Text

/-- The condition of an outcome for all other answers is refused. -/
theorem conditionOf_isOther {o : Outcome} (h : o.isOther = true) (question : Option String) :
    ∃ pos, conditionOf question o =
      .error ⟨.condition (.unexpectedWord (strip o.condition) pos) o.condition (some o.id),
        question⟩ := by
  have hupper : upperAscii (strip o.condition) = "OTHER" := beq_iff_eq.mp h
  have hletters : (strip o.condition).toList.map Char.toUpper = "OTHER".toList := by
    rw [← hupper, upperAscii, String.toList_ofList]
  have hparse : ∃ pos, parse o.condition = .error (.unexpectedWord (strip o.condition) pos) := by
    apply parse_word
    · intro hempty
      rw [hempty] at hupper
      exact absurd hupper (by decide)
    · intro c hc
      have hmem : c.toUpper ∈ "OTHER".toList := hletters ▸ List.mem_map_of_mem hc
      have hall : ∀ d ∈ "OTHER".toList, d.isAlpha = true := by decide
      exact isAlpha_of_toUpper (hall _ hmem)
    · rw [hupper]
      rfl
  obtain ⟨pos, hpos⟩ := hparse
  refine ⟨pos, ?_⟩
  rw [conditionOf, Condition.read, hpos]

end QuestionBank.Scoring
