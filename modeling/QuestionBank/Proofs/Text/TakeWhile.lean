import Mathlib.Data.List.TakeWhile

/-!
# Runs of characters

Readers take the characters of a kind from the beginning of a text and go on with what
is left.
-/

namespace QuestionBank.Text

/-- What holds of every character of a text is decided along the text, not over all the
characters there are. -/
instance decidableForallMem (s : List Char) (p : Char → Prop) [DecidablePred p] :
    Decidable (∀ c ∈ s, p c) :=
  List.decidableBAll p s

variable {p : Char → Bool} {s : List Char}

theorem takeWhile_append_stop (hs : ∀ c ∈ s, p c = true) {d : Char} (hd : p d = false)
    (r : List Char) : (s ++ d :: r).takeWhile p = s := by
  rw [List.takeWhile_append_of_pos hs, List.takeWhile_cons_of_neg (by simp [hd]),
    List.append_nil]

/-- What is left after a run. -/
theorem drop_length_takeWhile (p : Char → Bool) (s : List Char) :
    s.drop (s.takeWhile p).length = s.dropWhile p := by
  induction s with
  | nil => rfl
  | cons c s ih =>
      by_cases hc : p c = true
      · rw [List.takeWhile_cons_of_pos hc, List.dropWhile_cons_of_pos hc, List.length_cons,
          List.drop_succ_cons, ih]
      · rw [List.takeWhile_cons_of_neg hc, List.dropWhile_cons_of_neg hc]
        rfl

/-- What is left after a run begins with a character of another kind. -/
theorem not_of_dropWhile {c : Char} {r : List Char} (h : s.dropWhile p = c :: r) : p c = false := by
  have hhead := List.head?_dropWhile_not p s
  rw [h] at hhead
  simpa using hhead

end QuestionBank.Text
