import QuestionBank.Text.Blank
import Mathlib.Data.List.TakeWhile

/-!
# Texts without blanks at their ends

Stripping takes away blanks only, and nothing from a text that begins and ends with other
characters. The words of a text do not depend on blanks at its ends, and with one space between
them they are read as they are.
-/

namespace QuestionBank.Text

theorem stripEnd_append_blank (s : List Char) {c : Char} (h : isBlank c = true) :
    stripEnd (s ++ [c]) = stripEnd s := by
  rw [stripEnd, List.reverse_append, List.reverse_singleton, List.singleton_append,
    List.dropWhile_cons_of_pos h, stripEnd]

theorem stripEnd_append_of_not_blank (s : List Char) {c : Char} (h : isBlank c = false) :
    stripEnd (s ++ [c]) = s ++ [c] := by
  rw [stripEnd, List.reverse_append, List.reverse_singleton, List.singleton_append,
    List.dropWhile_cons_of_neg (by simp [h])]
  simp

/-- A text is what is left when its end is stripped, and blanks. -/
theorem exists_stripEnd (s : List Char) :
    ∃ blanks, s = stripEnd s ++ blanks ∧ ∀ c ∈ blanks, isBlank c = true := by
  refine ⟨(s.reverse.takeWhile isBlank).reverse, ?_, ?_⟩
  · rw [stripEnd, ← List.reverse_append, List.takeWhile_append_dropWhile, List.reverse_reverse]
  · intro c hc
    rw [List.mem_reverse] at hc
    exact List.mem_takeWhile_imp hc

theorem stripStart_stripStart (s : List Char) : stripStart (stripStart s) = stripStart s :=
  List.dropWhile_eq_self_iff.mpr (List.dropWhile_get_zero_not isBlank s)

theorem stripEnd_stripEnd (s : List Char) : stripEnd (stripEnd s) = stripEnd s := by
  rw [stripEnd, stripEnd, List.reverse_reverse]
  exact congrArg List.reverse (stripStart_stripStart s.reverse)

/-- A text that begins with no blank still does so when its end is stripped. -/
theorem stripStart_stripEnd {s : List Char} (h : stripStart s = s) :
    stripStart (stripEnd s) = stripEnd s := by
  obtain ⟨blanks, hsplit, -⟩ := exists_stripEnd s
  cases hend : stripEnd s with
  | nil => rfl
  | cons c r =>
      have hc : ¬ isBlank c = true := by
        intro hblank
        rw [hsplit, hend, List.cons_append, stripStart, List.dropWhile_cons_of_pos hblank] at h
        have hlonger := congrArg List.length h
        have hshorter := (List.dropWhile_sublist (p := isBlank) (l := r ++ blanks)).length_le
        rw [List.length_cons] at hlonger
        omega
      exact List.dropWhile_cons_of_neg hc

/-- Nothing is left to be stripped from a text that was stripped. -/
theorem strip_strip (s : String) : strip (strip s) = strip s := by
  have hstart := stripStart_stripEnd (stripStart_stripStart s.toList)
  rw [strip, strip, String.toList_ofList, hstart, stripEnd_stripEnd]

/-- A text between characters that are no blanks is stripped of nothing. -/
theorem strip_between {c d : Char} (hc : isBlank c = false) (hd : isBlank d = false)
    (s : List Char) :
    strip (String.ofList (c :: (s ++ [d]))) = String.ofList (c :: (s ++ [d])) := by
  have hstart : stripStart (c :: (s ++ [d])) = c :: s ++ [d] :=
    List.dropWhile_cons_of_neg (by simp [hc])
  rw [strip, String.toList_ofList, hstart, stripEnd_append_of_not_blank _ hd]
  rfl

theorem mem_dropWhile_isBlank {s : List Char} {c : Char} (hc : c ∈ s) (h : isBlank c = false) :
    c ∈ s.dropWhile isBlank := by
  rw [← List.takeWhile_append_dropWhile (p := isBlank) (l := s), List.mem_append] at hc
  refine hc.resolve_left fun hblank => ?_
  rw [List.mem_takeWhile_imp hblank] at h
  cases h

/-- Only blanks are stripped. -/
theorem mem_strip {s : String} {c : Char} (hc : c ∈ s.toList) (h : isBlank c = false) :
    c ∈ (strip s).toList := by
  have hstart : c ∈ stripStart s.toList := mem_dropWhile_isBlank hc h
  rw [strip, String.toList_ofList, stripEnd, List.mem_reverse]
  exact mem_dropWhile_isBlank (List.mem_reverse.mpr hstart) h

/-! ## Words -/

theorem wordsFrom_concat_blank {c : Char} (hc : isBlank c = true) (current s : List Char) :
    wordsFrom current (s ++ [c]) = wordsFrom current s := by
  induction s generalizing current with
  | nil => cases current <;> simp [wordsFrom, hc]
  | cons d s ih => simp only [List.cons_append, wordsFrom, ih]

/-- Blanks in front of a text do not matter to its words. -/
theorem squeeze_cons_blank {c : Char} (hc : isBlank c = true) (s : List Char) :
    squeeze (String.ofList (c :: s)) = squeeze (String.ofList s) := by
  simp [squeeze, words, wordsFrom, hc]

theorem squeeze_concat_blank {c : Char} (hc : isBlank c = true) (s : List Char) :
    squeeze (String.ofList (s ++ [c])) = squeeze (String.ofList s) := by
  rw [squeeze, words, String.toList_ofList, wordsFrom_concat_blank hc, squeeze, words,
    String.toList_ofList]

/-- A run of characters that are no blanks. -/
def IsWord (w : List Char) : Prop := w ≠ [] ∧ ∀ c ∈ w, isBlank c = false

theorem isWord_reverse {current : List Char} (hcurrent : ∀ c ∈ current, isBlank c = false)
    (hne : current.isEmpty = false) : IsWord current.reverse :=
  ⟨by simpa using hne, by simpa using hcurrent⟩

theorem isWord_of_mem_wordsFrom {current s w : List Char}
    (hcurrent : ∀ c ∈ current, isBlank c = false) (hw : w ∈ wordsFrom current s) : IsWord w := by
  induction s generalizing current with
  | nil =>
      cases hempty : current.isEmpty with
      | true => simp [wordsFrom, hempty] at hw
      | false =>
          obtain rfl : w = current.reverse := by simpa [wordsFrom, hempty] using hw
          exact isWord_reverse hcurrent hempty
  | cons c s ih =>
      cases hblank : isBlank c with
      | false =>
          rw [wordsFrom, if_neg (by simp [hblank])] at hw
          exact ih (List.forall_mem_cons.mpr ⟨hblank, hcurrent⟩) hw
      | true =>
          rw [wordsFrom, if_pos hblank] at hw
          cases hempty : current.isEmpty with
          | true => exact ih (List.forall_mem_nil _) (by simpa [hempty] using hw)
          | false =>
              rw [hempty, if_neg Bool.false_ne_true] at hw
              rcases List.mem_cons.mp hw with rfl | hw
              · exact isWord_reverse hcurrent hempty
              · exact ih (List.forall_mem_nil _) hw

theorem wordsFrom_append_of_not_blank {w : List Char} (hw : ∀ c ∈ w, isBlank c = false)
    (current s : List Char) : wordsFrom current (w ++ s) = wordsFrom (w.reverse ++ current) s := by
  induction w generalizing current with
  | nil => rfl
  | cons c w ih =>
      obtain ⟨hc, hw⟩ := List.forall_mem_cons.mp hw
      simp [wordsFrom, hc, ih hw]

/-- Words with one space between them are read as these words. -/
theorem wordsFrom_intercalate {ws : List (List Char)} (h : ∀ w ∈ ws, IsWord w) :
    wordsFrom [] ([' '].intercalate ws) = ws := by
  induction ws with
  | nil => rfl
  | cons w ws ih =>
      obtain ⟨⟨hne, hw⟩, hws⟩ := List.forall_mem_cons.mp h
      have hread : (w.reverse ++ []).isEmpty = false := by simpa using hne
      cases ws with
      | nil =>
          have happend := wordsFrom_append_of_not_blank hw [] []
          rw [List.append_nil] at happend
          rw [List.intercalate_singleton, happend, wordsFrom, hread]
          simp
      | cons w' ws =>
          have hspace : isBlank ' ' = true := by decide
          rw [List.intercalate_cons_cons, List.append_assoc, wordsFrom_append_of_not_blank hw,
            List.singleton_append, wordsFrom, if_pos hspace, hread, if_neg Bool.false_ne_true,
            ih hws]
          simp

theorem toList_squeeze (s : String) :
    (squeeze s).toList = [' '].intercalate (wordsFrom [] s.toList) := by
  have hlist : (wordsFrom [] s.toList).map (String.toList ∘ String.ofList) =
      wordsFrom [] s.toList := by
    simp [Function.comp_def]
  rw [squeeze, String.toList_intercalate, words, List.map_map, hlist]
  rfl

theorem squeeze_squeeze (s : String) : squeeze (squeeze s) = squeeze s := by
  have hwords : words (squeeze s) = words s := by
    rw [words, toList_squeeze, wordsFrom_intercalate fun w hw =>
      isWord_of_mem_wordsFrom (List.forall_mem_nil _) hw, words]
  rw [squeeze, hwords, squeeze]

/-- Words with one space between them end in no blank. -/
theorem exists_concat_intercalate {ws : List (List Char)} (h : ∀ w ∈ ws, IsWord w)
    (hne : ws ≠ []) :
    ∃ s c, [' '].intercalate ws = s ++ [c] ∧ isBlank c = false := by
  induction ws with
  | nil => exact absurd rfl hne
  | cons w ws ih =>
      obtain ⟨⟨hw, hblank⟩, hws⟩ := List.forall_mem_cons.mp h
      cases ws with
      | nil =>
          obtain ⟨s, c, rfl⟩ := (List.eq_nil_or_concat w).resolve_left hw
          refine ⟨s, c, by simp, hblank c (by simp)⟩
      | cons w' ws =>
          obtain ⟨s, c, hs, hc⟩ := ih hws (List.cons_ne_nil _ _)
          exact ⟨w ++ [' '] ++ s, c, by rw [List.intercalate_cons_cons, hs]; simp, hc⟩

/-- A text of words with one space between them has no blanks at its ends. -/
theorem strip_squeeze (s : String) : strip (squeeze s) = squeeze s := by
  have hwords : ∀ w ∈ wordsFrom [] s.toList, IsWord w := fun w hw =>
    isWord_of_mem_wordsFrom (List.forall_mem_nil _) hw
  have hstart : stripStart (squeeze s).toList = (squeeze s).toList := by
    rw [toList_squeeze]
    match hread : wordsFrom [] s.toList with
    | [] => rfl
    | w :: ws =>
      obtain ⟨hw, hblank⟩ := hwords w (hread ▸ .head _)
      obtain ⟨c, w, rfl⟩ := List.exists_cons_of_ne_nil hw
      have hc : ¬ isBlank c = true := by simp [hblank c (.head _)]
      cases ws with
      | nil => exact List.dropWhile_cons_of_neg hc
      | cons w' ws => exact List.dropWhile_cons_of_neg hc
  have hend : stripEnd (squeeze s).toList = (squeeze s).toList := by
    rw [toList_squeeze]
    by_cases hne : wordsFrom [] s.toList = []
    · rw [hne]
      rfl
    · obtain ⟨t, c, ht, hc⟩ := exists_concat_intercalate hwords hne
      rw [ht, stripEnd_append_of_not_blank _ hc]
  rw [strip, hstart, hend, String.ofList_toList]

end QuestionBank.Text
