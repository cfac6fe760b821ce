import QuestionBank.Number.Plain
import QuestionBank.Proofs.Number.Written
import QuestionBank.Proofs.Text.TakeWhile

/-!
# What plain numbers are

A plain number is read off the beginning of a text as far as it goes: what is read has the form
of a plain number, and no digit follows it.
-/

namespace QuestionBank.Number

open QuestionBank.Text

/-- Digits of any script, at least one. -/
def IsDecimalRun (s : List Char) : Prop := s ≠ [] ∧ ∀ c ∈ s, isDecimal c = true

/-- The form of a plain number: digits, a minus sign that may stand in front, and a point with
digits that may follow. -/
inductive IsPlain : List Char → Prop
  | mk {sign whole fraction : List Char} (hsign : sign = [] ∨ sign = ['-'])
      (hwhole : IsDecimalRun whole)
      (hfraction : fraction = [] ∨ ∃ digits, IsDecimalRun digits ∧ fraction = '.' :: digits) :
      IsPlain (sign ++ whole ++ fraction)

theorem noDigitAhead_iff {s : List Char} : NoDigitAhead s ↔ ∀ c ∈ s.head?, isDecimal c = false := by
  simp [NoDigitAhead, isDecimal]

theorem noDigitAhead_dropWhile (s : List Char) : NoDigitAhead (s.dropWhile isDecimal) := by
  refine noDigitAhead_iff.mpr fun c hc => ?_
  obtain ⟨r, hr⟩ := List.head?_eq_some_iff.mp hc
  exact not_of_dropWhile hr

theorem isDecimalRun_takeWhile {s : List Char} (h : (s.takeWhile isDecimal).isEmpty = false) :
    IsDecimalRun (s.takeWhile isDecimal) :=
  ⟨by simpa using h, fun _ hc => List.mem_takeWhile_imp hc⟩

/-- The fraction that is read off is missing, or a point with all the digits behind it. -/
theorem fractionSlice_cases (s : List Char) :
    fractionSlice s = [] ∨ ∃ digits rest, IsDecimalRun digits ∧ fractionSlice s = '.' :: digits ∧
      s = '.' :: (digits ++ rest) ∧ NoDigitAhead rest := by
  unfold fractionSlice
  split
  next r =>
    dsimp only
    split
    next => exact .inl rfl
    next hdigits =>
      exact .inr ⟨r.takeWhile isDecimal, r.dropWhile isDecimal,
        isDecimalRun_takeWhile (by simpa using hdigits), rfl,
        by rw [List.takeWhile_append_dropWhile], noDigitAhead_dropWhile r⟩
  next => exact .inl rfl

/-- The number that is read off a text is a plain number, and the text goes on without a digit. -/
theorem plainNumber?_eq_some {s number : List Char} (h : plainNumber? s = some number) :
    IsPlain number ∧ ∃ rest, s = number ++ rest ∧ NoDigitAhead rest := by
  obtain ⟨sign, tail, rfl, hsign, hread⟩ : ∃ sign tail, s = sign ++ tail ∧
      (sign = [] ∨ sign = ['-']) ∧ (if s.head? = some '-' then ['-'] else []) = sign := by
    split
    next hminus =>
      obtain ⟨tail, rfl⟩ := List.head?_eq_some_iff.mp hminus
      exact ⟨['-'], tail, rfl, .inr rfl, rfl⟩
    next => exact ⟨[], s, rfl, .inl rfl, rfl⟩
  simp only [plainNumber?, hread, List.drop_left, Option.ite_none_left_eq_some,
    Option.some.injEq] at h
  obtain ⟨hempty, rfl⟩ := h
  have hwhole : IsDecimalRun (tail.takeWhile isDecimal) :=
    isDecimalRun_takeWhile (by simpa using hempty)
  have hdrop : (sign ++ tail).drop (sign.length + (tail.takeWhile isDecimal).length) =
      tail.dropWhile isDecimal := by
    rw [← List.drop_drop, List.drop_left, drop_length_takeWhile]
  have htail : tail = tail.takeWhile isDecimal ++ tail.dropWhile isDecimal :=
    List.takeWhile_append_dropWhile.symm
  rw [hdrop]
  rcases fractionSlice_cases (tail.dropWhile isDecimal) with hnone | ⟨digits, rest, hdigits, hslice,
    hrest, hahead⟩
  · refine ⟨.mk hsign hwhole (.inl hnone), tail.dropWhile isDecimal, ?_, noDigitAhead_dropWhile _⟩
    rw [hnone, List.append_nil, List.append_assoc, ← htail]
  · refine ⟨.mk hsign hwhole (.inr ⟨digits, hdigits, hslice⟩), rest, ?_, hahead⟩
    rw [hslice, List.append_assoc, List.append_assoc, List.cons_append, ← hrest, ← htail]

/-- A text does not go on with what would make a number longer. -/
def NoNumberAhead (s : List Char) : Prop := ∀ c ∈ s.head?, isDecimal c = false ∧ c ≠ '.'

theorem NoNumberAhead.takeWhile {digits rest : List Char} (h : NoNumberAhead rest)
    (hdigits : ∀ c ∈ digits, isDecimal c = true) :
    (digits ++ rest).takeWhile isDecimal = digits := by
  cases rest with
  | nil => rw [List.append_nil, List.takeWhile_eq_self_iff.mpr hdigits]
  | cons d rest => exact takeWhile_append_stop hdigits (h d rfl).1 rest

theorem NoNumberAhead.fractionSlice_eq_nil {rest : List Char} (h : NoNumberAhead rest) :
    fractionSlice rest = [] := by
  unfold fractionSlice
  split
  next => exact absurd rfl (h '.' rfl).2
  next => rfl

/-- Digits with or without a sign are read off where nothing goes on with them. -/
theorem plainNumber?_append (sign digits : List Char) {rest : List Char}
    (hsign : sign = [] ∨ sign = ['-']) (hdigits : IsDecimalRun digits)
    (hahead : NoNumberAhead rest) :
    plainNumber? (sign ++ (digits ++ rest)) = some (sign ++ digits) := by
  obtain ⟨d, digits, rfl⟩ := List.exists_cons_of_ne_nil hdigits.1
  have hread : (if (sign ++ (d :: digits ++ rest)).head? = some '-' then ['-'] else []) = sign := by
    rcases hsign with rfl | rfl
    · refine if_neg fun hminus => ?_
      obtain rfl := Option.some.inj hminus
      exact absurd (hdigits.2 '-' (.head _)) (by decide)
    · rfl
  simp only [plainNumber?, hread, List.drop_left, hahead.takeWhile hdigits.2, List.isEmpty_cons,
    Bool.false_eq_true, if_false]
  rw [← List.append_assoc, ← List.length_append, List.drop_left, hahead.fractionSlice_eq_nil,
    List.append_nil]

theorem IsDecimalRun.exists_last {s : List Char} (h : IsDecimalRun s) :
    ∃ init d, s = init ++ [d] ∧ isDecimal d = true := by
  obtain ⟨init, d, rfl⟩ := (List.eq_nil_or_concat s).resolve_left h.1
  exact ⟨init, d, List.concat_eq_append, h.2 d (by simp)⟩

/-- A plain number ends in a digit. -/
theorem IsPlain.exists_last {s : List Char} (h : IsPlain s) :
    ∃ init d, s = init ++ [d] ∧ isDecimal d = true := by
  obtain ⟨-, hwhole, rfl | ⟨digits, hdigits, rfl⟩⟩ := h
  · obtain ⟨init, d, rfl, hd⟩ := hwhole.exists_last
    exact ⟨_, d, by rw [List.append_nil, ← List.append_assoc], hd⟩
  · obtain ⟨init, d, rfl, hd⟩ := hdigits.exists_last
    exact ⟨_, d, by rw [← List.cons_append, ← List.append_assoc], hd⟩

theorem IsPlain.isDecimal_last (init : List Char) {d : Char} (h : IsPlain (init ++ [d])) :
    isDecimal d = true := by
  obtain ⟨init', d', hlast, hdecimal⟩ := h.exists_last
  obtain ⟨-, hd⟩ := List.append_inj' hlast rfl
  rwa [(List.cons.inj hd).1]

theorem IsPlain.ne_nil {s : List Char} (h : IsPlain s) : s ≠ [] := by
  obtain ⟨init, d, rfl, -⟩ := h.exists_last
  simp

/-- A plain number begins with a minus sign or a digit. -/
theorem IsPlain.head {c : Char} {s : List Char} (h : IsPlain (c :: s)) :
    c = '-' ∨ isDecimal c = true := by
  generalize hs : c :: s = t at h
  obtain ⟨rfl | rfl, ⟨hne, hwhole⟩, -⟩ := h
  · obtain ⟨d, whole, rfl⟩ := List.exists_cons_of_ne_nil hne
    obtain ⟨rfl, -⟩ := List.cons.inj hs
    exact .inr (hwhole c (.head _))
  · exact .inl (List.cons.inj hs).1

end QuestionBank.Number
