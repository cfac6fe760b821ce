import QuestionBank.Text.Replace
import Mathlib.Data.List.Infix

/-!
# What replacing a word does

Replacing goes along a text: where the word begins, its value takes its place, and any other
character is kept.
-/

namespace QuestionBank.Text

variable {word value s : List Char} {c d : Char}

theorem replaceFrom_eq_drop (c : Char) (w value : List Char) (n : Nat) (s : List Char) :
    replaceFrom c w value n s = replaceFrom c w value 0 (s.drop n) := by
  induction n generalizing s with
  | zero => rfl
  | succ n ih =>
      cases s with
      | nil => simp [replaceFrom]
      | cons d s => simp only [replaceFrom, List.drop_succ_cons, ih]

@[simp]
theorem replace_nil (word value : List Char) : replace word value [] = [] := by
  cases word <;> simp [replace, replaceFrom]

/-- The value takes the place of a word that a text begins with. -/
theorem replace_append (h : word ≠ []) (value s : List Char) :
    replace word value (word ++ s) = value ++ replace word value s := by
  obtain ⟨c, w, rfl⟩ := List.exists_cons_of_ne_nil h
  have hbegins : (c :: w).isPrefixOf (c :: (w ++ s)) = true :=
    List.isPrefixOf_iff_prefix.mpr (List.prefix_append (c :: w) s)
  simp only [replace, List.cons_append, replaceFrom, hbegins, if_true]
  rw [replaceFrom_eq_drop, List.drop_left]

/-- A character is kept where the word does not begin. -/
theorem replace_cons_of_not_prefix (h : ¬ word <+: d :: s) (value : List Char) :
    replace word value (d :: s) = d :: replace word value s := by
  cases word with
  | nil => rfl
  | cons c w =>
      rw [← List.isPrefixOf_iff_prefix, Bool.not_eq_true] at h
      simp only [replace, replaceFrom, h, Bool.false_eq_true, if_false]

/-- A part of a text is kept if the word begins nowhere in it. -/
theorem replace_append_of_not_prefix (value : List Char) {kept : List Char}
    (h : ∀ front back, kept = front ++ back → back ≠ [] → ¬ word <+: back ++ s) :
    replace word value (kept ++ s) = kept ++ replace word value s := by
  induction kept with
  | nil => rfl
  | cons c kept ih =>
      have hhead : ¬ word <+: c :: (kept ++ s) := h [] (c :: kept) rfl (List.cons_ne_nil _ _)
      rw [List.cons_append, replace_cons_of_not_prefix hhead, ih]
      · rfl
      · rintro front back rfl hback
        exact h (c :: front) back rfl hback

/-- A text in which the word does not occur stays as it is. -/
theorem replace_of_not_infix (value : List Char) (h : ¬ word <:+: s) :
    replace word value s = s := by
  have hkept : replace word value (s ++ []) = s ++ replace word value [] := by
    refine replace_append_of_not_prefix value ?_
    rintro front back rfl - hbegins
    rw [List.append_nil] at hbegins
    exact h (hbegins.isInfix.trans (List.suffix_append front back).isInfix)
  simpa using hkept

end QuestionBank.Text
