import QuestionBank.Markup.Token
import QuestionBank.Proofs.Traversal

/-!
# How a scan goes on

A scan takes what stands at an opening bracket or at an ampersand, or a run of character data, and
goes on behind it. Everything it reports is text, what stands at a bracket, a reference, or the end
of an element with raw content.
-/

namespace QuestionBank.Markup

variable {decoding final : Bool} {raw raw' : Option (List Char)} {r s : List Char} {t : Token}
  {size : Nat}

/-! ## One step -/

theorem scan_nil (decoding final : Bool) (raw : Option (List Char)) :
    scan decoding final raw [] = {} := by
  rw [scan]

theorem scan_token (h : construct r = .token t size) :
    scan decoding final none ('<' :: r) =
      (scan decoding final (rawAfter t) (r.drop size)).cons t := by
  rw [scan]
  simp only [if_true, h]

theorem scan_skipped (h : construct r = .skipped size) :
    scan decoding final none ('<' :: r) = scan decoding final none (r.drop size) := by
  rw [scan]
  simp only [if_true, h]

/-- A bracket that is left unfinished is character data, and ends the first pass. -/
theorem scan_unfinished (h : construct r = .unfinished) :
    scan decoding final none ('<' :: r) =
      withData decoding ('<' :: r.take (looseSize r))
        (scan decoding true none (r.drop (looseSize r))) := by
  rw [scan]
  simp only [if_true, h]

/-- A reader that does not decode looks at what follows an ampersand. -/
theorem scan_ampersand (s : List Char) :
    scan false final none ('&' :: s) =
      match ampersand s with
      | .reference t size => (scan false final none (s.drop size)).cons t
      | .numberSign =>
        if final then { tokens := [.text ['&', '#'], .text (s.drop 1)] }
        else (scan false true none (s.drop 1)).cons (.text ['&', '#'])
      | .alone => (scan false final none s).cons (.text ['&'])
      | .rest u => { tokens := [.text u] } := by
  rw [scan]
  exact (if_neg (by decide)).trans (if_pos rfl)

/-- Character data is taken up to the next bracket, or to an ampersand that is looked at. -/
theorem scan_data {c : Char} {run : List Char} (hc : c ≠ '<') (hamp : c = '&' → decoding = true)
    (hrun : s.takeWhile (fun c => c != '<' && (decoding || c != '&')) = run) :
    scan decoding final none (c :: s) =
      withData decoding (c :: run) (scan decoding final none (s.drop run.length)) := by
  have hlooked : (decide (c = '&') && !decoding) = false := by
    by_cases h : c = '&' <;> simp [h, hamp]
  rw [scan]
  simp only [hc, if_false, hlooked, Bool.false_eq_true, hrun]

/-! ## What is reported -/

theorem mem_tokens_cons {u : Token} {report : Report} :
    t ∈ (report.cons u).tokens ↔ t = u ∨ t ∈ report.tokens := List.mem_cons

theorem mem_withData {report : Report} (h : t ∈ (withData decoding s report).tokens) :
    (∃ s, t = .text s) ∨ t ∈ report.tokens := by
  unfold withData at h
  split at h
  · cases h
  next u hu =>
    rcases mem_tokens_cons.mp h with rfl | h
    · unfold dataToken at hu
      split at hu
      · obtain ⟨s', -, rfl⟩ := Traversal.map_eq_ok_iff.mp hu
        exact .inl ⟨s', rfl⟩
      · cases hu
        exact .inl ⟨s, rfl⟩
    · exact .inr h

/-- An element whose raw content follows what stands at a bracket. -/
def OpensRaw (name : List Char) : Prop :=
  ∃ r t size, construct r = .token t size ∧ rawAfter t = some name

/-- What a scan can report: text, what stands at a bracket, a reference unless it decodes, and
the end of an element with raw content, in which the text begins or which was opened on the way. -/
inductive Reported (decoding : Bool) (raw : Option (List Char)) : Token → Prop
  | text (s : List Char) : Reported decoding raw (.text s)
  | bracket {r : List Char} {t : Token} {size : Nat} (h : construct r = .token t size) :
      Reported decoding raw t
  | reference {s : List Char} {t : Token} {size : Nat} (hdecoding : decoding = false)
      (h : ampersand s = .reference t size) : Reported decoding raw t
  | rawEnd {name : List Char} (h : raw = some name ∨ OpensRaw name) :
      Reported decoding raw (.endTag name)

theorem Reported.mono (hraw : ∀ name, raw = some name → raw' = some name ∨ OpensRaw name)
    (h : Reported decoding raw t) : Reported decoding raw' t := by
  cases h with
  | text s => exact .text s
  | bracket h => exact .bracket h
  | reference hdecoding h => exact .reference hdecoding h
  | rawEnd h => exact .rawEnd (h.elim (hraw _) .inr)

/-- **Every token of a scan is of these kinds.** -/
theorem reported_of_mem_scan (h : t ∈ (scan decoding final raw s).tokens) :
    Reported decoding raw t := by
  fun_induction scan decoding final raw s with
  | case1 => cases h
  | case2 => cases h
  | case3 final c r name size _ rest ih =>
      rcases mem_tokens_cons.mp h with rfl | h
      · exact .rawEnd (.inl rfl)
      · exact (ih h).mono (by nofun)
  | case4 final c r name place size _ rest _ ih =>
      rcases mem_tokens_cons.mp h with rfl | h
      · exact .text _
      · rcases mem_tokens_cons.mp h with rfl | h
        · exact .rawEnd (.inl rfl)
        · exact (ih h).mono (by nofun)
  | case5 final r u size hu ih =>
      rcases mem_tokens_cons.mp h with rfl | h
      · exact .bracket hu
      · exact (ih h).mono fun name hname => .inr ⟨r, u, size, hu, hname⟩
  | case6 final r size _ ih => exact ih h
  | case7 final r _ size ih =>
      rcases mem_withData h with ⟨s, rfl⟩ | h
      · exact .text s
      · exact ih h
  | case8 => cases h
  | case9 final c r _ hamp u size hu ih =>
      rcases mem_tokens_cons.mp h with rfl | h
      · exact .reference (by simpa using (Bool.and_eq_true_iff.mp hamp).2) hu
      · exact ih h
  | case10 =>
      rcases List.mem_cons.mp h with rfl | h
      · exact .text _
      · rw [List.mem_singleton.mp h]
        exact .text _
  | case11 final c r _ _ _ _ ih =>
      rcases mem_tokens_cons.mp h with rfl | h
      · exact .text _
      · exact ih h
  | case12 final c r _ _ _ ih =>
      rcases mem_tokens_cons.mp h with rfl | h
      · exact .text _
      · exact ih h
  | case13 =>
      rw [List.mem_singleton.mp h]
      exact .text _
  | case14 final c r _ _ more ih =>
      rcases mem_withData h with ⟨s, rfl⟩ | h
      · exact .text s
      · exact ih h

end QuestionBank.Markup
