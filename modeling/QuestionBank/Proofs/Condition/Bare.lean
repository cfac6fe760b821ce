import QuestionBank.Proofs.Condition.Crowded
import QuestionBank.Proofs.Condition.Printed

/-!
# What is taken for a lone reference

A whole number is a reference, with or without quotes, if it is read at all. So a text that is
taken for a lone reference is one, unless it is short and crowded; and each crowded text is taken
for a lone reference and read as more than that.
-/

namespace QuestionBank.Condition

open QuestionBank.Text

variable {pos : Nat} {blanks s : List Char} {ts : List Token} {text : String}

/-! ## Whole numbers -/

/-- A whole number, with or without a quote on either side. -/
inductive IsWhole : List Char → Prop
  | mk {opening digits closing : List Char} (hopening : opening = [] ∨ opening = ['"'])
      (hdigits : Number.IsDecimalRun digits) (hclosing : closing = [] ∨ closing = ['"']) :
      IsWhole (opening ++ (digits ++ closing))

theorem isBareReference_of_short (h : (strip text).toList.length < 4) :
    isBareReference text = true := by
  rw [strip, String.toList_ofList] at h
  exact if_pos h

/-- What is taken for a lone reference and not short is a whole number. -/
theorem isWhole_of_isBareReference (h : isBareReference text = true)
    (hlong : ¬ (strip text).toList.length < 4) : IsWhole (strip text).toList := by
  rw [strip, String.toList_ofList] at hlong ⊢
  rw [isBareReference, if_neg hlong] at h
  generalize stripEnd (stripStart text.toList) = s at h
  obtain ⟨opening, tail, rfl, hopening, htail⟩ : ∃ opening tail, s = opening ++ tail ∧
      (opening = [] ∨ opening = ['"']) ∧ (if s.head? = some '"' then s.drop 1 else s) = tail := by
    split
    next hquote =>
      obtain ⟨tail, rfl⟩ := List.head?_eq_some_iff.mp hquote
      exact ⟨['"'], tail, rfl, .inr rfl, rfl⟩
    next => exact ⟨[], s, rfl, .inl rfl, rfl⟩
  dsimp only at h
  rw [htail, drop_length_takeWhile, Bool.and_eq_true, Bool.not_eq_true', Bool.or_eq_true,
    List.isEmpty_iff, decide_eq_true_eq] at h
  obtain ⟨hdigits, hclosing⟩ := h
  rw [← List.takeWhile_append_dropWhile (p := isDecimal) (l := tail)]
  exact .mk hopening (Number.isDecimalRun_takeWhile hdigits) hclosing

/-- What begins with a quote and goes on with digits is a literal only if a quote closes it. -/
theorem rest_of_quote {l : Lexeme} {taken rest digits closing : List Char}
    (hwritten : l.WrittenAs ('"' :: taken)) (hdigits : ∀ c ∈ digits, isDecimal c = true)
    (hclosing : closing = [] ∨ closing = ['"']) (hsplit : digits ++ closing = taken ++ rest) :
    (∃ v, l = .literal v) ∧ rest = [] := by
  obtain ⟨value, hvalue, rfl, rfl⟩ := hwritten.of_quote
  refine ⟨⟨_, rfl⟩, ?_⟩
  have hunquoted : '"' ∉ digits := fun hmem => absurd (hdigits _ hmem) (by decide)
  rw [List.append_assoc, List.singleton_append] at hsplit
  rcases hclosing with rfl | rfl
  · refine absurd ?_ hunquoted
    rw [← List.append_nil digits, hsplit]
    simp
  · exact ((List.append_cons_inj_of_notMem hunquoted List.not_mem_nil).mp hsplit).2.2.symm

/-- A number takes all the digits that come first, and not the quote behind them. -/
theorem rest_of_number {c : Char} {taken rest digits closing : List Char}
    (hplain : Number.IsPlain (c :: taken)) (hahead : Number.NoDigitAhead (rest ++ blanks))
    (hdigits : ∀ c ∈ digits, isDecimal c = true) (hclosing : closing = [] ∨ closing = ['"'])
    (hsplit : digits ++ closing = taken ++ rest) : rest = closing := by
  rcases List.append_eq_append_iff.mp hsplit with ⟨u, htaken, hrest⟩ | ⟨u, hdigits', hrest⟩
  · rcases hclosing with rfl | rfl
    · exact (List.append_eq_nil_iff.mp hrest.symm).2
    · match u, hrest with
      | [], hrest => exact hrest.symm
      | d :: u, hrest =>
        -- the number would end in a quote
        obtain ⟨rfl, hnil⟩ := List.cons.inj hrest
        obtain ⟨rfl, rfl⟩ := List.append_eq_nil_iff.mp hnil.symm
        rw [htaken, ← List.cons_append] at hplain
        exact absurd (hplain.isDecimal_last _) (by decide)
  · match u, hdigits' with
    | [], _ => exact hrest
    | d :: u, hdigits' =>
      have hd := hdigits d (by simp [hdigits'])
      rw [Number.noDigitAhead_iff.mp hahead d (by simp [hrest])] at hd
      cases hd

/-- A whole number with blanks behind it is a reference, if it is read. -/
theorem isReference_of_isWhole {d : ExpressionTree} (hs : IsWhole s)
    (hblanks : ∀ c ∈ blanks, isBlank c = true) (h : tokensFrom pos (s ++ blanks) = .ok ts)
    (hd : d.lexemes = lexemes ts) (source : String) : (d.expression source).IsReference := by
  obtain ⟨rfl | rfl, ⟨hne, hdigits⟩, hclosing⟩ := hs
  · obtain ⟨c, digits, rfl⟩ := List.exists_cons_of_ne_nil hne
    obtain ⟨hc, hdigits⟩ := List.forall_mem_cons.mp hdigits
    obtain ⟨l, taken, rest, ts', pos', hsplit, hwritten, hahead, hts, hts'⟩ :=
      exists_first (isBlank_of_isDecimal hc) hblanks h
    obtain ⟨hplain, rfl⟩ := hwritten.of_digit hc
    have hquote : c ≠ '"' := by
      rintro rfl
      exact absurd hc (by decide)
    rw [hts] at hd
    obtain rfl := rest_of_number hplain (hahead _ rfl hquote) hdigits hclosing hsplit
    rcases hclosing with rfl | rfl
    · rw [tokens_of_blanks hblanks hts'] at hd
      exact isReference_of_one hd source
    · -- a quote alone is no literal
      refine (reference_or_digit hblanks source hts' hd).resolve_right ?_
      rintro ⟨hquote', -⟩
      exact absurd hquote' (by decide)
  · obtain ⟨l, taken, rest, ts', pos', hsplit, hwritten, -, hts, hts'⟩ :=
      exists_first (by decide) hblanks h
    obtain ⟨⟨v, rfl⟩, rfl⟩ := rest_of_quote hwritten hdigits hclosing hsplit
    rw [hts, tokens_of_blanks hblanks hts'] at hd
    exact isReference_of_one hd source

/-! ## What is taken for a lone reference is one, or crowded -/

theorem isBlank_head_strip {c : Char} {r : List Char} (h : (strip text).toList = c :: r) :
    isBlank c = false := by
  have hstart : stripStart (strip text).toList = (strip text).toList := by
    rw [strip, String.toList_ofList]
    exact stripStart_stripEnd (stripStart_stripStart _)
  rw [h, stripStart, List.dropWhile_eq_self_iff] at hstart
  exact (Bool.not_eq_true _).mp (hstart (by simp))

/-- A text that is taken for a lone reference is one or crowded, if it is read. -/
theorem reference_or_crowded_of_bare {e : Expression} (hbare : isBareReference text = true)
    (h : parse text = .ok e) : e.IsReference ∨ Crowded (strip text).toList e.comparisons := by
  obtain ⟨d, ⟨ts, htokens, hd⟩, rfl⟩ := parse_eq_ok_iff.mp h
  obtain ⟨before, after, htext, hbefore, hafter⟩ := exists_strip text
  rw [tokenize, htext, tokensFrom_append_blank hbefore] at htokens
  by_cases hshort : (strip text).toList.length < 4
  · cases hstrip : (strip text).toList with
    | nil =>
        rw [hstrip, List.nil_append] at htokens
        exact absurd (hd.trans (tokens_of_blanks hafter htokens)) d.opensTerm.ne_nil
    | cons c r =>
        rw [hstrip] at htokens hshort
        rw [List.length_cons] at hshort
        exact reference_or_crowded hafter text (isBlank_head_strip hstrip) (by omega) htokens hd
  · exact .inl (isReference_of_isWhole (isWhole_of_isBareReference hbare hshort) hafter htokens hd
      text)

/-! ## What is crowded is read as more than a reference -/

/-- The text is cut into tokens with these lexemes, wherever it stands. -/
def Cuts (s : List Char) (l : List Lexeme) : Prop :=
  ∀ pos, ∃ ts, tokensFrom pos s = .ok ts ∧ lexemes ts = l

theorem cuts_blanks (h : ∀ c ∈ blanks, isBlank c = true) : Cuts blanks [] := by
  intro pos
  refine ⟨[], ?_, rfl⟩
  rw [← List.append_nil blanks, tokensFrom_append_blank h, tokensFrom_nil]

theorem Cuts.blank {c : Char} {l : List Lexeme} (h : Cuts s l) (hc : isBlank c = true) :
    Cuts (c :: s) l := by
  intro pos
  rw [tokensFrom_blank hc]
  exact h (pos + 1)

/-- A lexeme in front. -/
theorem Cuts.cons {c : Char} (taken : List Char) {l : Lexeme} {ls : List Lexeme} (h : Cuts s ls)
    (hc : isBlank c = false)
    (hlexeme : ∀ pos, lexeme pos c (taken ++ s) = .ok (l, taken.length)) :
    Cuts (c :: (taken ++ s)) (l :: ls) := by
  intro pos
  obtain ⟨ts, hts, rfl⟩ := h (pos + 1 + taken.length)
  refine ⟨⟨l, pos⟩ :: ts, ?_, rfl⟩
  rw [tokensFrom_cons (by simp [hc]) (hlexeme pos), List.drop_left, hts]
  rfl

/-- A number of one digit in front of a text that does not go on with it, with or without a
sign. -/
theorem Cuts.digit {a : Char} {ls : List Lexeme} (h : Cuts s ls) (ha : isDecimal a = true)
    (hahead : Number.NoNumberAhead s) : Cuts (a :: s) (.literal (.ofList [a]) :: ls) := by
  have hnumber : Number.plainNumber? (a :: s) = some [a] :=
    Number.plainNumber?_append [] [a] (.inl rfl) ⟨by simp, by simpa⟩ hahead
  refine h.cons [] (isBlank_of_isDecimal ha) fun pos => ?_
  have hquote : a ≠ '"' := by
    rintro rfl
    exact absurd ha (by decide)
  simp [lexeme, hquote, hnumber]

theorem Cuts.signedDigit {b : Char} {ls : List Lexeme} (h : Cuts s ls) (hb : isDecimal b = true)
    (hahead : Number.NoNumberAhead s) :
    Cuts ('-' :: b :: s) (.literal (.ofList ['-', b]) :: ls) := by
  have hnumber : Number.plainNumber? ('-' :: b :: s) = some ['-', b] :=
    Number.plainNumber?_append ['-'] [b] (.inr rfl) ⟨by simp, by simpa⟩ hahead
  refine h.cons [b] (by decide) fun pos => ?_
  simp [lexeme, hnumber]

/-- A literal between quotes with nothing in it. -/
theorem Cuts.quotes {ls : List Lexeme} (h : Cuts s ls) :
    Cuts ('"' :: '"' :: s) (.literal "" :: ls) :=
  h.cons ['"'] (by decide) fun pos => lexeme_quoted List.not_mem_nil pos s

/-- A sign of comparison in front of a digit. -/
theorem Cuts.sign {sign b : Char} {op : Operator} {ls : List Lexeme} (h : Cuts (b :: s) ls)
    (hop : op.text.toList = [sign]) (hb : isDecimal b = true) :
    Cuts (sign :: b :: s) (.operator op :: ls) := by
  have hequal : b ≠ '=' := by
    rintro rfl
    exact absurd hb (by decide)
  have hnumber (hdecimal : isDecimal sign = false) (hminus : sign ≠ '-') :
      Number.plainNumber? (sign :: b :: s) = none := by
    simp [Number.plainNumber?, hminus, hdecimal]
  rcases Operator.sign_cases hop with ⟨rfl, rfl⟩ | ⟨rfl, rfl⟩ | ⟨rfl, rfl⟩ <;>
  · refine h.cons [] (by decide) fun pos => ?_
    simp [lexeme, hnumber (by decide) (by decide), hequal]

/-- A blank does not make a number longer. -/
theorem noNumberAhead_of_isBlank {c : Char} (hc : isBlank c = true) (r : List Char) :
    Number.NoNumberAhead (c :: r) := by
  rintro _ ⟨⟩
  refine ⟨?_, ?_⟩
  · by_contra hdecimal
    rw [isBlank_of_isDecimal ((Bool.not_eq_false _).mp hdecimal)] at hc
    cases hc
  · rintro rfl
    exact absurd hc (by decide)

theorem noNumberAhead_blanks (h : ∀ c ∈ blanks, isBlank c = true) :
    Number.NoNumberAhead blanks := by
  cases blanks with
  | nil => exact nofun
  | cons c r => exact noNumberAhead_of_isBlank (h c (.head _)) r

theorem noNumberAhead_sign {op : Operator} {sign : Char} (hop : op.text.toList = [sign])
    (r : List Char) : Number.NoNumberAhead (sign :: r) := by
  rintro _ ⟨⟩
  rcases Operator.sign_cases hop with ⟨rfl, -⟩ | ⟨rfl, -⟩ | ⟨rfl, -⟩ <;> decide

/-- A crowded text is a sentence. -/
theorem Crowded.exists_tree {cs : List Comparison} (h : Crowded s cs) :
    ∃ d : ExpressionTree,
      (∀ blanks, (∀ c ∈ blanks, isBlank c = true) → Cuts (s ++ blanks) d.lexemes) ∧
      ∀ source, (d.expression source).comparisons = cs := by
  cases h with
  | @compared a sign b op ha hop hb =>
      refine ⟨comparedTree (.ofList [a]) op (Operator.ne_selected_of_sign hop) (.ofList [b]),
        fun blanks hblanks => ?_, fun _ => rfl⟩
      have hright := (cuts_blanks hblanks).digit hb (noNumberAhead_blanks hblanks)
      exact (hright.sign hop hb).digit ha (noNumberAhead_sign hop _)
  | @apart a c b ha hc hb =>
      refine ⟨referencesTree (.ofList [a]) (.ofList [b]), fun blanks hblanks => ?_, fun _ => rfl⟩
      have hright := (cuts_blanks hblanks).digit hb (noNumberAhead_blanks hblanks)
      exact (hright.blank hc).digit ha (noNumberAhead_of_isBlank hc _)
  | @signed a b ha hb =>
      refine ⟨referencesTree (.ofList [a]) (.ofList ['-', b]), fun blanks hblanks => ?_,
        fun _ => rfl⟩
      have hright := (cuts_blanks hblanks).signedDigit hb (noNumberAhead_blanks hblanks)
      exact hright.digit ha (by rintro _ ⟨⟩; decide)
  | @beforeQuotes a ha =>
      refine ⟨referencesTree (.ofList [a]) "", fun blanks hblanks => ?_, fun _ => rfl⟩
      exact (cuts_blanks hblanks).quotes.digit ha (by rintro _ ⟨⟩; decide)
  | @behindQuotes b hb =>
      refine ⟨referencesTree "" (.ofList [b]), fun blanks hblanks => ?_, fun _ => rfl⟩
      exact ((cuts_blanks hblanks).digit hb (noNumberAhead_blanks hblanks)).quotes

/-- What a crowded text stands for is no reference. -/
theorem Crowded.not_isReference {e : Expression} (h : Crowded s e.comparisons) :
    ¬ e.IsReference := by
  rintro ⟨c, hone, hselected, -⟩
  rw [hone] at h
  cases h with
  | compared ha hop hb => exact Operator.ne_selected_of_sign hop hselected

/-- A crowded text begins with a digit or with two quotes. -/
theorem Crowded.opening {cs : List Comparison} (h : Crowded s cs) :
    ∃ c d t, s = c :: d :: t ∧ (isDecimal c = true ∨ d = '"') := by
  cases h with
  | behindQuotes _ => exact ⟨_, _, _, rfl, .inr rfl⟩
  | compared ha _ _ | apart ha _ _ | signed ha _ | beforeQuotes ha =>
      exact ⟨_, _, _, rfl, .inl ha⟩

theorem Crowded.length_eq {cs : List Comparison} (h : Crowded s cs) : s.length = 3 := by
  cases h <;> rfl

/-- A text that is crowded when it is stripped is taken for a lone reference, and read as more than
that. -/
theorem Crowded.read {cs : List Comparison} (h : Crowded (strip text).toList cs) :
    isBareReference text = true ∧ ∃ e, parse text = .ok e ∧ e.comparisons = cs := by
  refine ⟨isBareReference_of_short (by rw [h.length_eq]; decide), ?_⟩
  obtain ⟨d, hcuts, hcomparisons⟩ := h.exists_tree
  obtain ⟨before, after, htext, hbefore, hafter⟩ := exists_strip text
  obtain ⟨ts, hts, hlexemes⟩ := hcuts after hafter (0 + before.length)
  refine ⟨d.expression text, parse_eq_ok_iff.mpr ⟨d, ⟨ts, ?_, hlexemes.symm⟩, rfl⟩,
    hcomparisons text⟩
  rw [tokenize, htext, tokensFrom_append_blank hbefore, hts]

/-- A text that is read is taken for a lone reference and is none just when it is crowded. -/
theorem crowded_iff {e : Expression} (h : parse text = .ok e) :
    Crowded (strip text).toList e.comparisons ↔ isBareReference text = true ∧ ¬ e.IsReference := by
  constructor
  · intro hcrowded
    exact ⟨hcrowded.read.1, hcrowded.not_isReference⟩
  · rintro ⟨hbare, hreference⟩
    exact (reference_or_crowded_of_bare hbare h).resolve_left hreference

end QuestionBank.Condition
