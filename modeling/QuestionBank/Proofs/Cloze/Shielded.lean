import QuestionBank.Cloze.Block
import QuestionBank.Cloze.Extract
import Mathlib.Data.List.Basic

/-!
# Shielded texts

A text is shielded from some signs if none of them stands in it without a
backslash and every backslash makes a character literal. A reader that looks for
one of these signs passes over a shielded text as a whole: it neither stops inside
nor takes a backslash at its end for one in front of what follows. `escape` and
the formatting of options give shielded texts, and `unescape` takes them back.
-/

namespace QuestionBank.Cloze

/-- No sign of `stop` stands without a backslash, and every backslash makes a
character other than a line end literal. -/
inductive Shielded (stop : Char → Bool) : List Char → Prop
  | nil : Shielded stop []
  | literal {c : Char} {r : List Char} (hc : c ≠ '\n') (hr : Shielded stop r) :
      Shielded stop ('\\' :: c :: r)
  | plain {c : Char} {r : List Char} (hb : c ≠ '\\') (hc : stop c = false)
      (hr : Shielded stop r) : Shielded stop (c :: r)

namespace Shielded

variable {stop stop' : Char → Bool} {s t : List Char}

theorem append (hs : Shielded stop s) (ht : Shielded stop t) : Shielded stop (s ++ t) := by
  induction hs with
  | nil => exact ht
  | literal hc _ ih => exact .literal hc ih
  | plain hb hc _ ih => exact .plain hb hc ih

/-- A text shielded from some signs is shielded from fewer. -/
theorem mono (hs : Shielded stop s) (h : ∀ c, stop' c = true → stop c = true) :
    Shielded stop' s := by
  induction hs with
  | nil => exact .nil
  | literal hc _ ih => exact .literal hc ih
  | plain hb hc _ ih =>
      refine .plain hb ?_ ih
      rw [Bool.eq_false_iff] at hc ⊢
      exact fun hs => hc (h _ hs)

theorem flatMap {α : Type} {f : α → List Char} {l : List α}
    (h : ∀ a ∈ l, Shielded stop (f a)) : Shielded stop (l.flatMap f) := by
  induction l with
  | nil => exact .nil
  | cons a l ih =>
      rw [List.flatMap_cons]
      exact (h a (by simp)).append (ih fun b hb => h b (by simp [hb]))

end Shielded

/-! ## Escaping -/

theorem escape_cons (c : Char) (s : List Char) :
    escape (c :: s) = (if isSpecial c then ['\\', c] else [c]) ++ escape s := by
  rw [escape, List.flatMap_cons]
  rfl

theorem isSpecial_backslash : isSpecial '\\' = true := rfl

theorem ne_backslash_of_not_special {c : Char} (h : ¬ isSpecial c = true) : c ≠ '\\' := by
  rintro rfl
  exact h isSpecial_backslash

theorem ne_newline_of_special {c : Char} (h : isSpecial c = true) : c ≠ '\n' := by
  rintro rfl
  exact absurd h (by decide)

/-- A text that is shielded from the special signs is shielded from each of them. -/
theorem Shielded.of_special {d : Char} {s : List Char} (hs : Shielded isSpecial s)
    (hd : isSpecial d = true) : Shielded (· == d) s := by
  refine hs.mono fun c hc => ?_
  rwa [beq_iff_eq.mp hc]

/-- An escaped text is shielded from every sign that has a meaning in a block. -/
theorem shielded_escape (s : List Char) : Shielded isSpecial (escape s) := by
  induction s with
  | nil => exact .nil
  | cons c s ih =>
      rw [escape_cons]
      by_cases h : isSpecial c = true
      · rw [if_pos h]
        exact .literal (ne_newline_of_special h) ih
      · rw [if_neg h]
        exact .plain (ne_backslash_of_not_special h) (Bool.eq_false_iff.mpr h) ih

/-- The body of an option is shielded as the escaped text is. -/
theorem shielded_optionBody (s : List Char) : Shielded isSpecial (optionBody s) := by
  have h := shielded_escape s
  unfold optionBody
  split
  next r he =>
    rw [he] at h
    cases h with
    | plain _ _ hr => exact .literal (by decide) hr
  next r he =>
    rw [he] at h
    cases h with
    | plain _ _ hr => exact .literal (by decide) hr
  next => exact h

/-! ## Taking backslashes away -/

theorem unescape_literal {c : Char} (h : c ≠ '\n') (r : List Char) :
    unescape ('\\' :: c :: r) = c :: unescape r := by
  rw [unescape, if_neg h]

theorem unescape_plain {c : Char} (h : c ≠ '\\') (r : List Char) :
    unescape (c :: r) = c :: unescape r := by
  rw [unescape]
  · exact fun hc => absurd hc h
  · exact fun _ _ hc => absurd hc h

/-- **Unescaping takes escaping back.** -/
theorem unescape_escape (s : List Char) : unescape (escape s) = s := by
  induction s with
  | nil => rfl
  | cons c s ih =>
      rw [escape_cons]
      by_cases h : isSpecial c = true
      · rw [if_pos h, List.cons_append, List.singleton_append,
          unescape_literal (ne_newline_of_special h), ih]
      · rw [if_neg h, List.singleton_append, unescape_plain (ne_backslash_of_not_special h), ih]

theorem unescape_optionBody (s : List Char) : unescape (optionBody s) = s := by
  have h := unescape_escape s
  unfold optionBody
  split
  next r he =>
    rw [he, unescape_plain (by decide)] at h
    rw [unescape_literal (by decide), h]
  next r he =>
    rw [he, unescape_plain (by decide)] at h
    rw [unescape_literal (by decide), h]
  next => exact h

/-! ## Splitting -/

variable {isDelimiter : Char → Bool}

/-- A splitter passes over a shielded text without cutting it. -/
theorem splitFrom_append {s : List Char} (hs : Shielded isDelimiter s) (part t : List Char) :
    splitFrom isDelimiter part false (s ++ t) =
      splitFrom isDelimiter (s.reverse ++ part) false t := by
  induction hs generalizing part with
  | nil => rfl
  | literal hc _ ih =>
      simp [splitFrom, ih]
  | plain hb hc _ ih =>
      simp [splitFrom, hb, hc, ih]

theorem splitFrom_nil (part : List Char) : splitFrom isDelimiter part false [] = [part.reverse] :=
  rfl

theorem splitFrom_delimiter {d : Char} (hd : isDelimiter d = true) (hb : d ≠ '\\')
    (part t : List Char) :
    splitFrom isDelimiter part false (d :: t) = part.reverse :: splitUnescaped isDelimiter t := by
  simp [splitFrom, splitUnescaped, hd, hb]

theorem splitUnescaped_of_shielded {s : List Char} (hs : Shielded isDelimiter s) :
    splitUnescaped isDelimiter s = [s] := by
  have h := splitFrom_append hs [] []
  rw [List.append_nil] at h
  rw [splitUnescaped, h, splitFrom_nil]
  simp

theorem splitUnescaped_append {s : List Char} {d : Char} (hs : Shielded isDelimiter s)
    (hd : isDelimiter d = true) (hb : d ≠ '\\') (t : List Char) :
    splitUnescaped isDelimiter (s ++ d :: t) = s :: splitUnescaped isDelimiter t := by
  rw [splitUnescaped, splitFrom_append hs, splitFrom_delimiter hd hb]
  simp

/-- Shielded texts, each with a delimiter in front, are the parts after the empty one
that stands before the first delimiter. -/
theorem splitUnescaped_flatMap {d : Char} (hd : isDelimiter d = true) (hb : d ≠ '\\')
    {parts : List (List Char)} (h : ∀ p ∈ parts, Shielded isDelimiter p) :
    splitUnescaped isDelimiter (parts.flatMap (d :: ·)) = [] :: parts := by
  suffices go : ∀ s, Shielded isDelimiter s →
      splitUnescaped isDelimiter (s ++ parts.flatMap (d :: ·)) = s :: parts from go [] .nil
  induction parts with
  | nil =>
      intro s hs
      rw [List.flatMap_nil, List.append_nil, splitUnescaped_of_shielded hs]
  | cons p parts ih =>
      intro s hs
      rw [List.flatMap_cons, List.cons_append, splitUnescaped_append hs hd hb,
        ih (fun q hq => h q (by simp [hq])) p (h p (by simp))]

end QuestionBank.Cloze
