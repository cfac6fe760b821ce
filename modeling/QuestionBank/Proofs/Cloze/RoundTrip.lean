import QuestionBank.Proofs.Cloze.Encoded
import Mathlib.Tactic.NormNum
import Mathlib.Tactic.Positivity

/-!
# Round trip of a block

The markup of a stem is a text with one block and nothing else. It is read back as a
text with one numbered place and the question that the stem stands for. The only
stems without markup are those whose weight has more digits than a number may be
written with.
-/

namespace QuestionBank.Cloze

open QuestionBank.Scoring QuestionBank.Text QuestionBank.Number

theorem placeholder_one : placeholder 1 = "\x7b#1\x7d".toList := by
  rw [placeholder, showInt_toList (by decide), Int.toNat_natCast, decimalDigits]
  decide

/-- A text that is just one block is read back as just one place. -/
theorem extract_text {b : RawBlock} (hb : b.WellFormed) {sub : Subquestion}
    (hd : decodeBlock 1 b = .ok sub) :
    extract (String.ofList b.text) = .ok ⟨"\x7b#1\x7d", [sub]⟩ := by
  have hscan := extractFrom_block hb 0 1 []
  rw [List.append_nil, hd, Except.bind] at hscan
  rw [extract, String.toList_ofList, hscan, extractFrom]
  simp only [Except.map, List.append_nil, placeholder_one, String.ofList_toList]

variable {kind : Kind} {found : List Match} {residual : List String} {residualFeedback : String}

/-- **The markup of a stem is read back.** With a correct match, the block of a stem is
written and decoded to what it stands for, unless the weight has too many digits. A
weight of too many digits is refused when it is written. -/
theorem extract_encodeBlock (hcorrect : ∃ m ∈ found, 0 < m.score)
    (hnumber : kind = .numerical → ∀ m ∈ found, ∃ v x, NumberText m.answer v x) :
    (credit found < 10 ^ digitLimit →
      ∃ block sub, encodeBlock kind found residual residualFeedback = .ok block ∧
        extract block = .ok ⟨"\x7b#1\x7d", [sub]⟩ ∧
        sub.position = 1 ∧ Encodes kind found residual residualFeedback sub) ∧
    (10 ^ digitLimit ≤ credit found →
      encodeBlock kind found residual residualFeedback = .error (.broken .integerTooLong)) := by
  constructor
  · intro hweight
    obtain ⟨sub, hsub, hposition, hencodes⟩ :=
      decodeBlock_encodedBlock residual residualFeedback hcorrect hnumber hweight 1
    exact ⟨_, sub, encodeBlock_eq_ok hcorrect hweight,
      extract_text (wellFormed_encodedBlock kind found residual residualFeedback) hsub,
      hposition, hencodes⟩
  · exact encodeBlock_eq_error hcorrect

/-- A stem whose texts hold every sign of the markup, and a numeric stem with and
without tolerances. -/
theorem extract_encodeBlock_of_signs :
    (∃ block sub,
      encodeBlock .shortAnswer [⟨"0", "=\x7d\\~#%50%\n", 2, "#\x7b1:\x7d", true, .matching⟩,
          ⟨"0", "%", 0, "", true, .matching⟩] ["\\"] "~" = .ok block ∧
        extract block = .ok ⟨"\x7b#1\x7d", [sub]⟩ ∧ sub.position = 1 ∧
        Encodes .shortAnswer [⟨"0", "=\x7d\\~#%50%\n", 2, "#\x7b1:\x7d", true, .matching⟩,
          ⟨"0", "%", 0, "", true, .matching⟩] ["\\"] "~" sub) ∧
    ∃ block sub,
      encodeBlock .numerical [⟨"0", "1.5:0.1", 2, "", true, .matching⟩,
          ⟨"0", "-2", 0, "", true, .matching⟩] [] "" = .ok block ∧
        extract block = .ok ⟨"\x7b#1\x7d", [sub]⟩ ∧ sub.position = 1 ∧
        Encodes .numerical [⟨"0", "1.5:0.1", 2, "", true, .matching⟩,
          ⟨"0", "-2", 0, "", true, .matching⟩] [] "" sub := by
  have hsmall : (2 : Int) < 10 ^ digitLimit :=
    lt_of_lt_of_le (by norm_num : (2 : Int) < 10 ^ 1)
      (pow_le_pow_right₀ (by norm_num) (by decide))
  constructor
  · exact (extract_encodeBlock (by decide) (fun h => absurd h (by decide))).1 hsmall
  · refine (extract_encodeBlock (by decide) fun _ m hm => ?_).1 hsmall
    rcases List.mem_cons.mp hm with rfl | hm
    · obtain ⟨x, hx⟩ : ∃ x, readBinary64? "0.1" = some x := Option.isSome_iff_exists.mp (by decide)
      exact ⟨"1.5", x, .tolerance (v := "1.5") (t := "0.1") (by decide) hx⟩
    · rw [List.mem_singleton.mp hm]
      exact ⟨"-2", .zero false, .bare (by decide)⟩

/-- A single match can score so much that no block is written for its stem. -/
theorem not_forall_extract_encodeBlock :
    ¬ ∀ (kind : Kind) (found : List Match) (residual : List String) (residualFeedback : String),
      kind ≠ .numerical → (∃ m ∈ found, 0 < m.score) →
      ∃ block sub, encodeBlock kind found residual residualFeedback = .ok block ∧
        extract block = .ok ⟨"\x7b#1\x7d", [sub]⟩ ∧
        Encodes kind found residual residualFeedback sub := by
  intro h
  have hpos : (0 : Int) < 10 ^ digitLimit := by positivity
  let m : Match := ⟨"0", "a", 10 ^ digitLimit, "", true, .matching⟩
  have hcorrect : ∃ m' ∈ [m], 0 < m'.score := ⟨m, by simp, hpos⟩
  have hcredit : credit [m] = 10 ^ digitLimit := by
    have hfilter : [m].filter (fun m => 0 < m.score) = [m] :=
      List.filter_eq_self.mpr fun m' hm' => by
        rw [List.mem_singleton.mp hm']
        exact decide_eq_true hpos
    rw [credit, hfilter]
    simp [m]
  obtain ⟨block, sub, hblock, -⟩ := h .multichoice [m] [] "" (by decide) hcorrect
  rw [encodeBlock_eq_error hcorrect hcredit.ge] at hblock
  cases hblock

end QuestionBank.Cloze
