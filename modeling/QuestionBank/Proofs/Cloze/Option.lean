import QuestionBank.Proofs.Cloze.Block
import QuestionBank.Proofs.Number.Signs

/-!
# Options that are decoded

An option without its tilde has a mark of correctness, a body and feedback. Its
body is never taken for a mark, and body and feedback are parted at the one number
sign that no backslash makes literal; so each part is decoded to the text that it
was made of.
-/

namespace QuestionBank.Cloze

open QuestionBank.Scoring QuestionBank.Text QuestionBank.Number

/-- An option as it stands in a block behind its tilde. -/
def rawOption (text : String) (correct : Bool) (feedback : String) : List Char :=
  (if correct then ['='] else []) ++ optionBody text.toList ++ feedbackPart feedback.toList

/-- The signs that end an option: the tilde of the next one, or the closing brace. -/
def endsOption (c : Char) : Bool := c == '~' || c == '\x7d'

theorem isSpecial_of_endsOption {c : Char} (h : endsOption c = true) : isSpecial c = true := by
  simp only [endsOption, Bool.or_eq_true, beq_iff_eq] at h
  rcases h with rfl | rfl <;> decide

theorem shielded_feedbackPart (s : List Char) : Shielded endsOption (feedbackPart s) := by
  unfold feedbackPart
  split
  · exact .nil
  · exact .plain (by decide) (by decide)
      ((shielded_escape s).mono fun _ => isSpecial_of_endsOption)

/-- Nothing in an option ends it too early. -/
theorem shielded_rawOption (text : String) (correct : Bool) (feedback : String) :
    Shielded endsOption (rawOption text correct feedback) := by
  have hbody := (shielded_optionBody text.toList).mono fun _ => isSpecial_of_endsOption
  have hmark : Shielded endsOption (if correct then ['='] else []) := by
    cases correct
    · exact .nil
    · exact .plain (by decide) (by decide) .nil
  exact (hmark.append hbody).append (shielded_feedbackPart _)

/-! ## The mark of correctness -/

/-- A text that begins with a mark of correctness. -/
def beginsWithMark (s : List Char) : Bool := s.head? == some '=' || s.head? == some '%'

theorem correctness_of_not_mark {s : List Char} (h : beginsWithMark s = false) :
    correctness s = (false, s) := by
  unfold correctness
  split
  · simp [beginsWithMark] at h
  · simp [beginsWithMark] at h
  · rfl

theorem beginsWithMark_optionBody (s : List Char) : beginsWithMark (optionBody s) = false := by
  unfold optionBody
  split
  next => rfl
  next => rfl
  next h₁ h₂ =>
    cases he : escape s with
    | nil => rfl
    | cons c r =>
        have hne : c ≠ '=' ∧ c ≠ '%' := ⟨fun hc => h₁ r (hc ▸ he), fun hc => h₂ r (hc ▸ he)⟩
        simp [beginsWithMark, hne]

theorem beginsWithMark_body_append (text feedback : List Char) :
    beginsWithMark (optionBody text ++ feedbackPart feedback) = false := by
  cases hb : optionBody text with
  | nil =>
      rw [List.nil_append, feedbackPart]
      split <;> rfl
  | cons c r =>
      rw [List.cons_append]
      have h := beginsWithMark_optionBody text
      rw [hb] at h
      exact h

/-- The mark of an option is the one that it was written with. -/
theorem correctness_rawOption (text : String) (correct : Bool) (feedback : String) :
    correctness (rawOption text correct feedback) =
      (correct, optionBody text.toList ++ feedbackPart feedback.toList) := by
  cases correct
  · rw [rawOption, if_neg (by decide), List.nil_append]
    exact correctness_of_not_mark (beginsWithMark_body_append _ _)
  · rfl

/-! ## Text and feedback -/

theorem shielded_number_sign {s : List Char} (h : Shielded isSpecial s) :
    Shielded (· == '#') s :=
  h.of_special (by decide)

theorem splitUnescaped_option (text feedback : List Char) :
    splitUnescaped (· == '#') (optionBody text ++ feedbackPart feedback) =
      optionBody text :: if feedback = [] then [] else [escape feedback] := by
  have hbody := shielded_number_sign (shielded_optionBody text)
  by_cases hf : feedback = []
  · rw [if_pos hf, hf, feedbackPart, if_pos (by rfl), List.append_nil,
      splitUnescaped_of_shielded hbody]
  · rw [if_neg hf, feedbackPart, if_neg (by simpa using hf),
      splitUnescaped_append hbody (by decide) (by decide),
      splitUnescaped_of_shielded (shielded_number_sign (shielded_escape feedback))]

theorem unescape_joined_feedback (feedback : List Char) :
    unescape (['#'].intercalate (if feedback = [] then [] else [escape feedback])) = feedback := by
  by_cases hf : feedback = []
  · rw [if_pos hf, hf]
    rfl
  · rw [if_neg hf, List.intercalate_singleton, unescape_escape]

/-- An option that is no number is decoded to what it was made of. -/
theorem decodeAnswer_text {kind : Kind} (hk : kind.isNumeric = false) (text : String)
    (correct : Bool) (feedback : String) :
    decodeAnswer kind (rawOption text correct feedback) = .ok ⟨text, correct, feedback, none⟩ := by
  simp only [decodeAnswer, correctness_rawOption, splitUnescaped_option, hk, List.headD_cons,
    List.tail_cons, unescape_joined_feedback, unescape_optionBody, String.ofList_toList,
    Bool.false_eq_true, if_false]

theorem decodeAnswer_number {kind : Kind} (hk : kind.isNumeric = true) {text : String}
    {number : List Char} {tolerance : Binary64}
    (h : numericParts? (optionBody text.toList) = some (number, tolerance)) (correct : Bool)
    (feedback : String) :
    decodeAnswer kind (rawOption text correct feedback) =
      .ok ⟨String.ofList (unescape number), correct, feedback, some tolerance⟩ := by
  simp only [decodeAnswer, correctness_rawOption, splitUnescaped_option, hk, List.headD_cons,
    List.tail_cons, unescape_joined_feedback, String.ofList_toList, if_true, h]

end QuestionBank.Cloze
