import QuestionBank.Proofs.Cloze.Option
import Mathlib.Algebra.Order.BigOperators.Group.List
import Mathlib.Algebra.Order.Ring.Int

/-!
# Blocks of a stem

`Encodes` says what the block of a stem stands for, without markup: a kind, a weight,
and answers in the order of the matches. The block that is written for a stem is well
formed and is decoded to a question of this description; it is written unless its
weight has too many digits.
-/

namespace QuestionBank.Cloze

open QuestionBank.Scoring QuestionBank.Text QuestionBank.Number

/-! ## What a block stands for -/

/-- The sum of the scores above zero. -/
def credit (found : List Match) : Int := ((found.filter fun m => 0 < m.score).map Match.score).sum

/-- A text names a number, and a tolerance after a colon. A tolerance that is left out
is zero. -/
inductive NumberText : String → String → Binary64 → Prop
  | bare {v : String} (hv : (readBinary64? v).isSome) : NumberText v v (.zero false)
  | emptyTolerance {v : String} (hv : (readBinary64? v).isSome) :
      NumberText (v ++ ":") v (.zero false)
  | tolerance {v t : String} {x : Binary64} (hv : (readBinary64? v).isSome)
      (ht : readBinary64? t = some x) : NumberText (v ++ ":" ++ t) v x

/-- The answer that a match becomes. -/
structure AnswerOf (kind : Kind) (m : Match) (a : Answer) : Prop where
  correct : a.correct = decide (0 < m.score)
  feedback : a.feedback = m.feedback
  text : kind ≠ .numerical → a.text = m.answer ∧ a.tolerance = none
  number : kind = .numerical → ∃ x, NumberText m.answer a.text x ∧ a.tolerance = some x

/-- A question has the kind and the weight of a stem. Its answers are the correct
matches, then the other ones, and then the distractors, which numbers do not have. -/
structure Encodes (kind : Kind) (found : List Match) (residual : List String)
    (residualFeedback : String) (sub : Subquestion) : Prop where
  kind_eq : sub.kind = resolveKind kind found
  weight_eq : (sub.weight : Int) = credit found
  answers : ∃ own,
    List.Forall₂ (AnswerOf kind)
      (found.filter (fun m => 0 < m.score) ++ found.filter fun m => ¬ 0 < m.score) own ∧
    sub.answers = own ++
      if kind = .numerical then []
      else residual.map fun s => ⟨s, false, residualFeedback, none⟩

/-! ## Numbers -/

theorem escape_of_plain {s : List Char} (h : ∀ c ∈ s, isSpecial c = false) : escape s = s := by
  induction s with
  | nil => rfl
  | cons c s ih =>
      rw [escape_cons, if_neg (by simp [h c (by simp)]), List.singleton_append,
        ih fun d hd => h d (by simp [hd])]

theorem unescape_of_plain {s : List Char} (h : ∀ c ∈ s, isSpecial c = false) :
    unescape s = s := by
  have hs := unescape_escape s
  rwa [escape_of_plain h] at hs

theorem optionBody_of_plain {s : List Char} (h : ∀ c ∈ s, isSpecial c = false)
    (hm : beginsWithMark s = false) : optionBody s = s := by
  unfold optionBody
  rw [escape_of_plain h]
  split
  · simp [beginsWithMark] at hm
  · simp [beginsWithMark] at hm
  · rfl

theorem not_special_of_isNumberSign {c : Char} (h : isNumberSign c = true) :
    isSpecial c = false := by
  rw [Bool.eq_false_iff]
  intro hc
  simp only [isSpecial, Bool.or_eq_true, beq_iff_eq] at hc
  rcases hc with ((rfl | rfl) | rfl) | rfl <;> exact absurd h (by decide)

theorem colon_not_mem_of_readBinary64? {s : String} (h : (readBinary64? s).isSome) :
    ∀ c ∈ s.toList, c ≠ ':' := by
  obtain ⟨x, hx⟩ := Option.isSome_iff_exists.mp h
  rintro c hc rfl
  exact absurd (onlyNumberSigns_of_readBinary64? hx _ hc) (by decide)

theorem not_special_of_readBinary64? {s : String} (h : (readBinary64? s).isSome) :
    ∀ c ∈ s.toList, isSpecial c = false := by
  obtain ⟨x, hx⟩ := Option.isSome_iff_exists.mp h
  exact fun c hc => not_special_of_isNumberSign (onlyNumberSigns_of_readBinary64? hx c hc)

theorem ne_empty_of_readBinary64? {s : String} (h : (readBinary64? s).isSome) : s ≠ "" := by
  rintro rfl
  exact absurd h (by decide)

theorem not_mark_of_readBinary64? {s : String} (h : (readBinary64? s).isSome)
    (r : List Char) : beginsWithMark (s.toList ++ ':' :: r) = false := by
  obtain ⟨x, hx⟩ := Option.isSome_iff_exists.mp h
  have hs := onlyNumberSigns_of_readBinary64? hx
  cases he : s.toList with
  | nil => rfl
  | cons c cs =>
      rw [he] at hs
      have hc := hs c (by simp)
      have hne : c ≠ '=' ∧ c ≠ '%' :=
        ⟨fun h => absurd (h ▸ hc) (by decide), fun h => absurd (h ▸ hc) (by decide)⟩
      simp [beginsWithMark, hne]

/-- What stands in a numeric block: a number, a colon, and a tolerance that may be
empty. -/
structure WrittenNumber (s : List Char) (v t : String) : Prop where
  text : s = v.toList ++ ':' :: t.toList
  number : (readBinary64? v).isSome
  tolerance : t = "" ∨ (readBinary64? t).isSome

theorem WrittenNumber.optionBody {s : List Char} {v t : String} (h : WrittenNumber s v t) :
    optionBody s = s := by
  rw [h.text]
  refine optionBody_of_plain ?_ (not_mark_of_readBinary64? h.number _)
  intro c hc
  rcases List.mem_append.mp hc with hc | hc
  · exact not_special_of_readBinary64? h.number c hc
  · rcases List.mem_cons.mp hc with rfl | hc
    · rfl
    · rcases h.tolerance with rfl | ht
      · simp at hc
      · exact not_special_of_readBinary64? ht c hc

/-- A number and its tolerance are found where they were written. -/
theorem WrittenNumber.numericParts? {s : List Char} {v t : String} (h : WrittenNumber s v t) :
    numericParts? s =
      some (v.toList, if t = "" then .zero false else (readBinary64? t).getD .nan) := by
  have hcolon : ∀ c ∈ v.toList, (c != ':') = true := fun c hc => by
    simpa using colon_not_mem_of_readBinary64? h.number c hc
  have htake : s.takeWhile (· != ':') = v.toList := by
    rw [h.text]
    exact takeWhile_append_stop hcolon (by decide) _
  have hdrop : s.drop (v.toList.length + 1) = t.toList := by
    rw [h.text, ← List.drop_drop, List.drop_left' rfl]
    rfl
  obtain ⟨x, hx⟩ := Option.isSome_iff_exists.mp h.number
  rw [Cloze.numericParts?, htake, hdrop, String.ofList_toList, hx]
  rcases h.tolerance with rfl | ht
  · rfl
  · obtain ⟨y, hy⟩ := Option.isSome_iff_exists.mp ht
    have hne := ne_empty_of_readBinary64? ht
    have hnil : t.toList.isEmpty = false := by
      simpa using hne
    simp [hnil, hne, hy]

theorem writtenNumber_numericText {s v : String} {x : Binary64} (h : NumberText s v x) :
    ∃ t, WrittenNumber (numericText s).toList v t ∧
      (if t = "" then .zero false else (readBinary64? t).getD .nan) = x := by
  cases h with
  | bare hv =>
      have hno : s.toList.contains ':' = false := by
        rw [Bool.eq_false_iff]
        intro hc
        exact colon_not_mem_of_readBinary64? hv ':' (by simpa using hc) rfl
      refine ⟨"0", ⟨?_, hv, .inr (by decide)⟩, by decide⟩
      rw [numericText, if_neg (by simpa using hno)]
      simp
  | emptyTolerance hv =>
      refine ⟨"", ⟨?_, hv, .inl rfl⟩, rfl⟩
      rw [numericText, if_pos (by simp)]
      simp
  | @tolerance v t x hv ht =>
      have hne := ne_empty_of_readBinary64? (s := t) (by simp [ht])
      refine ⟨t, ⟨?_, hv, .inr (by simp [ht])⟩, by simp [hne, ht]⟩
      rw [numericText, if_pos (by simp)]
      simp

/-! ## Matches -/

theorem isNumeric_resolveKind (kind : Kind) (found : List Match) :
    (resolveKind kind found).isNumeric = decide (kind = .numerical) := by
  unfold resolveKind
  split
  next h =>
    rw [Bool.and_eq_true, decide_eq_true_eq] at h
    rw [h.1]
    rfl
  next => cases kind <;> rfl

/-- The option of a match without its tilde. -/
def rawMatch (kind : Kind) (m : Match) : List Char :=
  rawOption (if kind.isNumeric then numericText m.answer else m.answer) m.isCorrect m.feedback

/-- The option of a match is decoded to the answer that the match becomes. -/
theorem decodeAnswer_rawMatch {kind kind' : Kind}
    (hk : kind'.isNumeric = decide (kind = .numerical)) {m : Match}
    (hm : kind = .numerical → ∃ v x, NumberText m.answer v x) :
    ∃ a, decodeAnswer kind' (rawMatch kind' m) = .ok a ∧ AnswerOf kind m a := by
  by_cases hn : kind = .numerical
  · rw [decide_eq_true hn] at hk
    obtain ⟨v, x, hv⟩ := hm hn
    obtain ⟨t, hw, hx⟩ := writtenNumber_numericText hv
    have hparts : numericParts? (optionBody (numericText m.answer).toList) =
        some (v.toList, x) := by
      rw [hw.optionBody, hw.numericParts?, hx]
    have hplain : unescape v.toList = v.toList :=
      unescape_of_plain (not_special_of_readBinary64? hw.number)
    refine ⟨⟨v, m.isCorrect, m.feedback, some x⟩, ?_, rfl, rfl, fun h => absurd hn h,
      fun _ => ⟨x, hv, rfl⟩⟩
    rw [rawMatch, if_pos hk, decodeAnswer_number hk hparts, hplain, String.ofList_toList]
  · rw [decide_eq_false hn] at hk
    refine ⟨⟨m.answer, m.isCorrect, m.feedback, none⟩, ?_, rfl, rfl, fun _ => ⟨rfl, rfl⟩,
      fun h => absurd h hn⟩
    rw [rawMatch, if_neg (by simp [hk]), decodeAnswer_text hk]

/-! ## The block of a stem -/

/-- The options of a stem without their tildes. -/
def rawOptions (kind : Kind) (found : List Match) (residual : List String)
    (residualFeedback : String) : List (List Char) :=
  (orderedMatches found).map (rawMatch kind) ++
    if kind.isNumeric then [] else residual.map fun s => rawOption s false residualFeedback

theorem blockOptions_eq (kind : Kind) (found : List Match) (residual : List String)
    (residualFeedback : String) :
    blockOptions kind found residual residualFeedback =
      (rawOptions kind found residual residualFeedback).flatMap ('~' :: ·) := by
  unfold blockOptions rawOptions
  rw [List.flatMap_append, List.flatMap_map]
  split
  · rfl
  · rw [List.flatMap_map]
    rfl

theorem shielded_rawOptions {kind : Kind} {found : List Match} {residual : List String}
    {residualFeedback : String} :
    ∀ raw ∈ rawOptions kind found residual residualFeedback, Shielded endsOption raw := by
  intro raw hraw
  rcases List.mem_append.mp hraw with h | h
  · obtain ⟨m, -, rfl⟩ := List.mem_map.mp h
    exact shielded_rawOption _ _ _
  · split at h
    · cases h
    · obtain ⟨s, -, rfl⟩ := List.mem_map.mp h
      exact shielded_rawOption _ _ _

/-- The block of a stem in its parts. -/
def encodedBlock (kind : Kind) (found : List Match) (residual : List String)
    (residualFeedback : String) : RawBlock :=
  { weight := decimalDigits (blockWeight found).toNat
    kind := (resolveKind kind found).tag.toList
    body := blockOptions (resolveKind kind found) found residual residualFeedback }

theorem tag_ne_nil (kind : Kind) : kind.tag.toList ≠ [] := by cases kind <;> decide

theorem isTagChar_of_mem_tag (kind : Kind) : ∀ c ∈ kind.tag.toList, isTagChar c = true := by
  cases kind <;> decide

theorem ofTag?_tag (kind : Kind) : Kind.ofTag? kind.tag = some kind := by cases kind <;> decide

theorem wellFormed_encodedBlock (kind : Kind) (found : List Match) (residual : List String)
    (residualFeedback : String) :
    (encodedBlock kind found residual residualFeedback).WellFormed where
  weight_ne_nil := decimalDigits_ne_nil _
  weight_decimal := fun _ => isDecimal_of_mem_decimalDigits
  kind_ne_nil := tag_ne_nil _
  kind_tag := isTagChar_of_mem_tag _
  body := by
    have hbrace : ∀ c, (c == '\x7d') = true → endsOption c = true := fun c hc => by
      simp [endsOption, beq_iff_eq.mp hc]
    rw [encodedBlock, blockOptions_eq]
    refine Shielded.flatMap fun raw hraw => ?_
    exact .plain (by decide) (by decide) ((shielded_rawOptions raw hraw).mono hbrace)

/-! ## Weights -/

theorem foldl_add_eq_sum (found : List Match) (total : Int) :
    found.foldl (fun total m => total + m.score) total = total + (found.map Match.score).sum := by
  induction found generalizing total with
  | nil => simp
  | cons m found ih =>
      rw [List.foldl_cons, ih, List.map_cons, List.sum_cons, add_assoc]

theorem blockWeight_eq (found : List Match) : blockWeight found = credit found := by
  rw [blockWeight, foldl_add_eq_sum, zero_add]
  rfl

theorem credit_nonneg (found : List Match) : 0 ≤ credit found := by
  refine List.sum_nonneg fun score hscore => ?_
  obtain ⟨m, hm, rfl⟩ := List.mem_map.mp hscore
  have hpos := (List.mem_filter.mp hm).2
  exact (of_decide_eq_true hpos).le

/-- The digits of a weight are few enough just when the weight is small enough. -/
theorem length_weight_le (found : List Match) :
    (decimalDigits (credit found).toNat).length ≤ digitLimit ↔ credit found < 10 ^ digitLimit := by
  rw [length_decimalDigits_le (by decide), Int.toNat_lt (credit_nonneg found)]
  push_cast
  rfl

/-! ## Writing and decoding -/

variable {kind : Kind} {found : List Match} {residual : List String} {residualFeedback : String}

theorem any_isCorrect_iff : found.any Match.isCorrect = true ↔ ∃ m ∈ found, 0 < m.score := by
  simp [Match.isCorrect]

theorem encodeBlock_eq_ok (hcorrect : ∃ m ∈ found, 0 < m.score)
    (hweight : credit found < 10 ^ digitLimit) :
    encodeBlock kind found residual residualFeedback =
      .ok (String.ofList (encodedBlock kind found residual residualFeedback).text) := by
  have htext : weightText (credit found) = .ok (decimalDigits (credit found).toNat) := by
    rw [weightText, showInt_toList (credit_nonneg found),
      if_neg (Nat.not_lt.mpr ((length_weight_le found).mpr hweight))]
  rw [encodeBlock, if_pos (any_isCorrect_iff.mpr hcorrect), blockWeight_eq, htext]
  simp only [encodedBlock, RawBlock.text, blockWeight_eq]

/-- A weight of too many digits cannot be written. -/
theorem encodeBlock_eq_error (hcorrect : ∃ m ∈ found, 0 < m.score)
    (hweight : 10 ^ digitLimit ≤ credit found) :
    encodeBlock kind found residual residualFeedback = .error (.broken .integerTooLong) := by
  have hlong : (decimalDigits (credit found).toNat).length > digitLimit := by
    rw [gt_iff_lt, ← Nat.not_le, length_weight_le]
    exact Int.not_lt.mpr hweight
  have htext : weightText (credit found) = .error .integerTooLong := by
    rw [weightText, showInt_toList (credit_nonneg found), if_pos hlong]
  rw [encodeBlock, if_pos (any_isCorrect_iff.mpr hcorrect), blockWeight_eq, htext]

theorem weightOf_digits (hweight : credit found < 10 ^ digitLimit) :
    weightOf (decimalDigits (credit found).toNat) = .ok (credit found).toNat := by
  rw [weightOf, if_neg (Nat.not_lt.mpr ((length_weight_le found).mpr hweight)),
    ofDigits_decimalDigits]

theorem orderedMatches_eq (found : List Match) :
    orderedMatches found =
      found.filter (fun m => 0 < m.score) ++ found.filter fun m => ¬ 0 < m.score := by
  have hother : (fun m : Match => !m.isCorrect) = fun m => decide (¬ 0 < m.score) := by
    funext m
    exact (decide_not ..).symm
  rw [orderedMatches, hother]
  rfl

theorem mem_of_mem_orderedMatches {m : Match} (h : m ∈ orderedMatches found) : m ∈ found := by
  rcases List.mem_append.mp h with h | h
  · exact List.mem_of_mem_filter h
  · exact List.mem_of_mem_filter h

/-- The options of a stem are decoded to its answers. -/
theorem mapM_decodeAnswer (residual : List String) (residualFeedback : String)
    (hnumber : kind = .numerical → ∀ m ∈ found, ∃ v x, NumberText m.answer v x) :
    ∃ own, List.Forall₂ (AnswerOf kind) (orderedMatches found) own ∧
      (rawOptions (resolveKind kind found) found residual residualFeedback).mapM
          (decodeAnswer (resolveKind kind found)) =
        .ok (own ++ if kind = .numerical then []
          else residual.map fun s => ⟨s, false, residualFeedback, none⟩) := by
  have hnumeric := isNumeric_resolveKind kind found
  obtain ⟨own, hown⟩ := Traversal.exists_forall₂ fun m hm =>
    decodeAnswer_rawMatch hnumeric (m := m) fun hn => hnumber hn m (mem_of_mem_orderedMatches hm)
  refine ⟨own, hown.imp fun _ _ h => h.2, ?_⟩
  rw [Traversal.mapM_eq_ok_iff, rawOptions]
  refine List.rel_append ?_ ?_
  · rw [List.forall₂_map_left_iff]
    exact hown.imp fun _ _ h => h.1
  · by_cases hn : kind = .numerical
    · rw [if_pos (by rw [hnumeric, decide_eq_true hn]), if_pos hn]
      exact .nil
    · have hk : (resolveKind kind found).isNumeric = false := by rw [hnumeric, decide_eq_false hn]
      rw [if_neg (by simp [hk]), if_neg hn, List.forall₂_map_left_iff, List.forall₂_map_right_iff]
      exact List.forall₂_same.mpr fun s _ => decodeAnswer_text hk s false residualFeedback

/-- **The block of a stem is decoded to what it stands for.** -/
theorem decodeBlock_encodedBlock (residual : List String) (residualFeedback : String)
    (hcorrect : ∃ m ∈ found, 0 < m.score)
    (hnumber : kind = .numerical → ∀ m ∈ found, ∃ v x, NumberText m.answer v x)
    (hweight : credit found < 10 ^ digitLimit) (position : Nat) :
    ∃ sub, decodeBlock position (encodedBlock kind found residual residualFeedback) = .ok sub ∧
      sub.position = position ∧ Encodes kind found residual residualFeedback sub := by
  obtain ⟨own, hown, hanswers⟩ :=
    mapM_decodeAnswer residual residualFeedback hnumber
  have hraws : rawAnswers (blockOptions (resolveKind kind found) found residual residualFeedback) =
      rawOptions (resolveKind kind found) found residual residualFeedback := by
    have htilde : ∀ c, (c == '~') = true → endsOption c = true := fun c hc => by
      simp [endsOption, beq_iff_eq.mp hc]
    rw [rawAnswers, blockOptions_eq, splitUnescaped_flatMap (by decide) (by decide)
      fun raw hraw => (shielded_rawOptions raw hraw).mono htilde]
  have hne : rawOptions (resolveKind kind found) found residual residualFeedback ≠ [] := by
    obtain ⟨m, hm, hscore⟩ := hcorrect
    have hmem : m ∈ orderedMatches found :=
      List.mem_append_left _ (List.mem_filter.mpr ⟨hm, decide_eq_true hscore⟩)
    exact List.append_ne_nil_of_left_ne_nil (by simpa using List.ne_nil_of_mem hmem) _
  refine ⟨⟨position, resolveKind kind found, (credit found).toNat, own ++ _⟩, ?_, rfl, rfl,
    Int.toNat_of_nonneg (credit_nonneg found), own, orderedMatches_eq found ▸ hown, rfl⟩
  simp only [decodeBlock, encodedBlock, String.ofList_toList, ofTag?_tag, hraws, blockWeight_eq,
    weightOf_digits hweight, hanswers]

end QuestionBank.Cloze
