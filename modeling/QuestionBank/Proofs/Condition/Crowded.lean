import QuestionBank.Proofs.Condition.Parsed
import QuestionBank.Proofs.Condition.Tiling

/-!
# Short conditions

A text that is taken for a lone reference is shorter than four characters, or a whole number with
or without quotes. Three characters are enough for more than a reference: two digits with a sign
of comparison, a blank or a minus sign between them, or a digit beside an empty literal. These
crowded texts are the only ones that are taken for a lone reference and read as something else.
-/

namespace QuestionBank.Condition

open QuestionBank.Text

/-- The comparison that only refers to a choice. -/
def Comparison.reference (choice : String) : Comparison := ⟨choice, .selected, "", false, true⟩

/-- The expression only refers to a choice: it is one comparison, without an operator and not
negated. -/
def Expression.IsReference (e : Expression) : Prop :=
  ∃ c, e.comparisons = [c] ∧ c.operator = .selected ∧ c.negated = false

/-- Three characters that hold more than a reference, with the comparisons that they are. -/
inductive Crowded : List Char → List Comparison → Prop
  | compared {a sign b : Char} {op : Operator} (ha : isDecimal a = true)
      (hop : op.text.toList = [sign]) (hb : isDecimal b = true) :
      Crowded [a, sign, b] [⟨.ofList [a], op, .ofList [b], false, true⟩]
  | apart {a c b : Char} (ha : isDecimal a = true) (hc : isBlank c = true)
      (hb : isDecimal b = true) :
      Crowded [a, c, b] [.reference (.ofList [a]), .reference (.ofList [b])]
  | signed {a b : Char} (ha : isDecimal a = true) (hb : isDecimal b = true) :
      Crowded [a, '-', b] [.reference (.ofList [a]), .reference (.ofList ['-', b])]
  | beforeQuotes {a : Char} (ha : isDecimal a = true) :
      Crowded [a, '"', '"'] [.reference (.ofList [a]), .reference ""]
  | behindQuotes {b : Char} (hb : isDecimal b = true) :
      Crowded ['"', '"', b] [.reference "", .reference (.ofList [b])]

/-! ## Where lexemes end -/

/-- A digit is no blank. -/
theorem isBlank_of_isDecimal {c : Char} (h : isDecimal c = true) : isBlank c = false := by
  by_cases hascii : c.toNat < 0x80
  · exact of_ascii (P := fun c => isDecimal c = true → isBlank c = false) (by decide +kernel)
      hascii h
  · by_contra hblank
    have hpoint := mem_unsettledPoints ((Bool.not_eq_false _).mp hblank) (by omega)
    have hnone : ∀ n ∈ unsettledPoints, isDecimal (Char.ofNat n) = false := by decide +kernel
    have hdecimal := hnone _ hpoint
    rw [Char.ofNat_toNat, h] at hdecimal
    cases hdecimal

/-- A digit has no other letter case. -/
theorem toUpper_of_isDecimal {c : Char} (h : isDecimal c = true) : c.toUpper = c := by
  apply toUpper_of_not_isLower
  intro hlower
  exact absurd h (of_ascii (P := fun c => c.isLower = true → ¬ isDecimal c = true)
    (by decide +kernel) (toNat_of_isAlpha (isAlpha_of_isLower hlower)).2 hlower)

/-- A word whose capitals are no blanks has none. -/
theorem isBlank_of_toUpper {word text : List Char} (h : word.map Char.toUpper = text)
    (htext : ∀ c ∈ text, isBlank c = false) : ∀ c ∈ word, isBlank c = false := by
  intro c hc
  by_contra hblank
  have hword := not_isWordChar_of_isBlank ((Bool.not_eq_false _).mp hblank)
  have hlower : ¬ c.isLower = true := fun hlower => by
    rw [isWordChar, isAlpha_of_isLower hlower] at hword
    cases hword
  have hmem : c ∈ text := by
    rw [← h, ← toUpper_of_not_isLower hlower]
    exact List.mem_map_of_mem hc
  exact hblank (htext c hmem)

theorem exists_last_of_forall {s : List Char} (hne : s ≠ []) (h : ∀ c ∈ s, isBlank c = false) :
    ∃ init d, s = init ++ [d] ∧ isBlank d = false := by
  obtain ⟨init, d, rfl⟩ := (List.eq_nil_or_concat s).resolve_left hne
  exact ⟨init, d, List.concat_eq_append, h d (by simp)⟩

/-- A lexeme ends in a character that is no blank. -/
theorem Lexeme.WrittenAs.exists_last {l : Lexeme} {slice : List Char} (h : l.WrittenAs slice) :
    ∃ init d, slice = init ++ [d] ∧ isBlank d = false := by
  have hne := h.ne_nil
  cases h with
  | @quoted value _ => exact ⟨'"' :: value, '"', rfl, by decide⟩
  | number hplain =>
      obtain ⟨init, d, rfl, hd⟩ := hplain.exists_last
      exact ⟨init, d, rfl, isBlank_of_isDecimal hd⟩
  | @operator op _ hword =>
      exact exists_last_of_forall hne (isBlank_of_toUpper hword (by cases op <;> decide))
  | @keyword w _ hword =>
      exact exists_last_of_forall hne (isBlank_of_toUpper hword (by cases w <;> decide))

/-- A lexeme that is cut off in front of blanks does not reach into them. -/
theorem Lexeme.WrittenAs.le_of_append {l : Lexeme} {c : Char} {taken rest r blanks : List Char}
    (h : l.WrittenAs (c :: taken)) (hblanks : ∀ c ∈ blanks, isBlank c = true)
    (hsplit : r ++ blanks = taken ++ rest) : ∃ u, r = taken ++ u ∧ rest = u ++ blanks := by
  rcases List.append_eq_append_iff.mp hsplit with ⟨u, htaken, hrest⟩ | ⟨u, hr, hrest⟩
  · rcases List.eq_nil_or_concat u with rfl | ⟨v, d, rfl⟩
    · exact ⟨[], by simpa using htaken.symm, by simpa using hrest.symm⟩
    · -- the last character of the lexeme would be a blank
      obtain ⟨init, d', hlast, hd'⟩ := h.exists_last
      rw [htaken, List.concat_eq_append, ← List.append_assoc, ← List.cons_append] at hlast
      obtain ⟨-, hd⟩ := List.append_inj' hlast rfl
      have hmem : d ∈ blanks := by
        rw [hrest]
        simp
      rw [← (List.cons.inj hd).1, hblanks d hmem] at hd'
      cases hd'
  · exact ⟨u, hr, hrest⟩

variable {pos : Nat} {c : Char} {r blanks : List Char} {ts : List Token}

/-- A text that begins with no blank, with blanks behind it, is cut into a first token that lies in
the text, and the tokens of what is left. -/
theorem exists_first (hc : isBlank c = false) (hblanks : ∀ c ∈ blanks, isBlank c = true)
    (h : tokensFrom pos (c :: (r ++ blanks)) = .ok ts) :
    ∃ l taken rest ts' pos', r = taken ++ rest ∧ l.WrittenAs (c :: taken) ∧
      (∀ value, l = .literal value → c ≠ '"' → Number.NoDigitAhead (rest ++ blanks)) ∧
      lexemes ts = l :: lexemes ts' ∧ tokensFrom pos' (rest ++ blanks) = .ok ts' := by
  have hvisible : ¬ isBlank c = true := by simp [hc]
  cases hlexeme : lexeme pos c (r ++ blanks) with
  | error fault => cases (tokensFrom_error hvisible hlexeme).symm.trans h
  | ok p =>
      obtain ⟨l, n⟩ := p
      obtain ⟨taken, rest, hsplit, rfl, hwritten, hahead⟩ := lexeme_eq_ok hlexeme
      obtain ⟨u, rfl, rfl⟩ := hwritten.le_of_append hblanks hsplit
      rw [tokensFrom_cons hvisible hlexeme, hsplit, List.drop_left] at h
      obtain ⟨ts', hts', rfl⟩ := Traversal.map_eq_ok_iff.mp h
      exact ⟨l, taken, u, ts', _, rfl, hwritten, hahead, rfl, hts'⟩

/-- Blanks alone give no token. -/
theorem tokens_of_blanks (hblanks : ∀ c ∈ blanks, isBlank c = true)
    (h : tokensFrom pos blanks = .ok ts) : lexemes ts = [] := by
  have hread := tokensFrom_append_blank hblanks pos []
  rw [List.append_nil, h, tokensFrom_nil] at hread
  cases hread
  rfl

/-- One character, with blanks behind it, is a blank or one lexeme. -/
theorem tokens_of_char (hblanks : ∀ c ∈ blanks, isBlank c = true)
    (h : tokensFrom pos (c :: blanks) = .ok ts) :
    lexemes ts = [] ∨ ∃ l, lexemes ts = [l] ∧ l.WrittenAs [c] := by
  by_cases hblank : isBlank c = true
  · exact .inl (tokens_of_blanks (List.forall_mem_cons.mpr ⟨hblank, hblanks⟩) h)
  · obtain ⟨l, taken, rest, ts', pos', hr, hwritten, -, hts, hts'⟩ :=
      exists_first (r := []) ((Bool.not_eq_true _).mp hblank) hblanks h
    obtain ⟨rfl, rfl⟩ := List.append_eq_nil_iff.mp hr.symm
    rw [tokens_of_blanks hblanks hts'] at hts
    exact .inr ⟨l, hts, hwritten⟩

/-! ## Short lexemes -/

/-- A literal is a number, or stands between quotes. -/
theorem Lexeme.WrittenAs.literal_cases {value : String} {slice : List Char}
    (h : (Lexeme.literal value).WrittenAs slice) :
    ('"' ∉ value.toList ∧ slice = '"' :: (value.toList ++ ['"'])) ∨
      (Number.IsPlain slice ∧ value = .ofList slice) := by
  generalize hl : Lexeme.literal value = l at h
  cases h with
  | quoted hvalue =>
      cases hl
      exact .inl ⟨by simpa using hvalue, by simp⟩
  | number hplain =>
      cases hl
      exact .inr ⟨hplain, rfl⟩
  | operator _ => cases hl
  | keyword _ => cases hl

/-- The operators of one character are the signs of comparison. -/
theorem Operator.sign_cases {op : Operator} {sign : Char} (h : op.text.toList = [sign]) :
    (sign = '=' ∧ op = .equal) ∨ (sign = '>' ∧ op = .above) ∨ (sign = '<' ∧ op = .below) := by
  cases op with
  | equal => exact .inl ⟨(List.cons.inj h).1.symm, rfl⟩
  | above => exact .inr (.inl ⟨(List.cons.inj h).1.symm, rfl⟩)
  | below => exact .inr (.inr ⟨(List.cons.inj h).1.symm, rfl⟩)
  | _ => cases (List.cons.inj h).2

theorem Operator.ne_selected_of_sign {op : Operator} {sign : Char}
    (h : op.text.toList = [sign]) : op ≠ .selected := by
  rintro rfl
  cases (List.cons.inj h).2

/-- A lexeme of one character is a digit or an operator. -/
theorem Lexeme.WrittenAs.of_char {l : Lexeme} {c : Char} (h : l.WrittenAs [c]) :
    (isDecimal c = true ∧ l = .literal (.ofList [c])) ∨
      ∃ op : Operator, l = .operator op ∧ op.text.toList = [c] := by
  generalize hs : [c] = slice at h
  cases h with
  | quoted hvalue => simp at hs
  | number hplain =>
      subst hs
      exact .inl ⟨hplain.isDecimal_last [], rfl⟩
  | @operator op _ hword =>
      subst hs
      refine .inr ⟨op, rfl, ?_⟩
      have hsign : c.toUpper.isAlpha = false := by
        rcases Operator.sign_cases hword.symm with ⟨hc, -⟩ | ⟨hc, -⟩ | ⟨hc, -⟩ <;>
        · rw [hc]
          decide
      rw [← hword, List.map_singleton, ← eq_of_toUpper rfl hsign]
  | @keyword w _ hword =>
      subst hs
      have hlength : w.text.toList.length = 1 := by
        rw [← hword]
        rfl
      cases w <;> exact absurd hlength (by decide)

theorem Lexeme.WrittenAs.length_keyword {w : Keyword} {word : List Char}
    (h : (Lexeme.keyword w).WrittenAs word) : word.length = w.text.toList.length := by
  generalize hl : Lexeme.keyword w = l at h
  cases h with
  | quoted _ | number _ | operator _ => cases hl
  | keyword hword =>
      cases hl
      rw [← hword, List.length_map]

/-- What begins with a digit is a number. -/
theorem Lexeme.WrittenAs.of_digit {l : Lexeme} {c : Char} {taken : List Char}
    (h : l.WrittenAs (c :: taken)) (hc : isDecimal c = true) :
    Number.IsPlain (c :: taken) ∧ l = .literal (.ofList (c :: taken)) := by
  generalize hs : c :: taken = slice at h
  cases h with
  | quoted hvalue =>
      obtain ⟨rfl, -⟩ := List.cons.inj hs
      exact absurd hc (by decide)
  | number hplain => exact ⟨hplain, rfl⟩
  | @operator op word hword =>
      rw [← hs, List.map_cons, toUpper_of_isDecimal hc] at hword
      cases op <;>
      · obtain ⟨rfl, -⟩ := List.cons.inj hword
        exact absurd hc (by decide)
  | @keyword w word hword =>
      rw [← hs, List.map_cons, toUpper_of_isDecimal hc] at hword
      cases w <;>
      · obtain ⟨rfl, -⟩ := List.cons.inj hword
        exact absurd hc (by decide)

/-- What begins with a quote is a literal between quotes. -/
theorem Lexeme.WrittenAs.of_quote {l : Lexeme} {taken : List Char}
    (h : l.WrittenAs ('"' :: taken)) :
    ∃ value : List Char, '"' ∉ value ∧ l = .literal (.ofList value) ∧ taken = value ++ ['"'] := by
  generalize hs : '"' :: taken = slice at h
  cases h with
  | @quoted value hvalue => exact ⟨value, hvalue, rfl, (List.cons.inj hs).2⟩
  | number hplain =>
      subst hs
      exact absurd hplain.head (by decide)
  | @operator op word hword =>
      subst hs
      cases op <;> exact absurd (List.cons.inj hword).1 (by decide)
  | @keyword w word hword =>
      subst hs
      cases w <;> exact absurd (List.cons.inj hword).1 (by decide)

/-- A literal of two characters that begins with no digit is empty between its quotes, or a digit
with a sign. -/
theorem Lexeme.WrittenAs.of_pair {v : String} {b c : Char}
    (h : (Lexeme.literal v).WrittenAs [b, c]) (hb : isDecimal b = false) :
    (b = '"' ∧ c = '"' ∧ v = "") ∨ (b = '-' ∧ isDecimal c = true ∧ v = .ofList [b, c]) := by
  rcases h.literal_cases with ⟨-, hquoted⟩ | ⟨hplain, rfl⟩
  · obtain ⟨rfl, hclosed⟩ := List.cons.inj hquoted
    obtain ⟨hv, hquote⟩ := List.append_inj' (show [] ++ [c] = v.toList ++ ['"'] from hclosed) rfl
    exact .inl ⟨rfl, (List.cons.inj hquote).1, String.toList_eq_nil_iff.mp hv.symm⟩
  · have hc := hplain.isDecimal_last [b]
    exact .inr ⟨hplain.head.resolve_right (by simp [hb]), hc, rfl⟩

/-! ## Short sentences -/

theorem OperationTree.exists_last (o : OperationTree) :
    ∃ init value, o.lexemes = init ++ [.literal value] := ⟨_, o.right, rfl⟩

theorem TermTree.exists_last (t : TermTree) :
    ∃ init value, t.lexemes = init ++ [.literal value] := by
  obtain ⟨n, left, operation⟩ := t
  cases operation with
  | none => exact ⟨_, left, rfl⟩
  | some o =>
      obtain ⟨init, value, ho⟩ := o.exists_last
      refine ⟨List.replicate n (.keyword .not) ++ .literal left :: init, value, ?_⟩
      simp [TermTree.lexemes, ho]

/-- A sentence ends in a literal. -/
theorem ExpressionTree.exists_last (d : ExpressionTree) :
    ∃ init value, d.lexemes = init ++ [.literal value] := by
  induction d using ExpressionTree.cons_induction with
  | single t =>
      rw [lexemes_single]
      exact t.exists_last
  | orCons t d ih =>
      obtain ⟨init, value, hd⟩ := ih
      exact ⟨t.lexemes ++ .keyword .or :: init, value, by rw [lexemes_orCons, hd]; simp⟩
  | andCons t joined d ih =>
      obtain ⟨init, value, hd⟩ := ih
      exact ⟨t.lexemes ++ (optional joined .and ++ init), value,
        by rw [lexemes_andCons, hd]; simp⟩

theorem ExpressionTree.last_literal {d : ExpressionTree} (init : List Lexeme) {l : Lexeme}
    (h : d.lexemes = init ++ [l]) : ∃ value, l = .literal value := by
  obtain ⟨init', value, hd⟩ := d.exists_last
  rw [h] at hd
  obtain ⟨-, hl⟩ := List.append_inj' hd rfl
  exact ⟨value, (List.cons.inj hl).1⟩

/-- The derivation of a term that is one literal. -/
def referenceTree (choice : String) : TermTree := ⟨0, choice, none⟩

/-- The derivation of two literals side by side. -/
def referencesTree (v w : String) : ExpressionTree :=
  .andCons (referenceTree v) false (.single (referenceTree w))

/-- The derivation of two literals around an operator. -/
def comparedTree (v : String) (op : Operator) (hop : op ≠ .selected) (w : String) :
    ExpressionTree :=
  .single ⟨0, v, some ⟨op, hop, false, w⟩⟩

variable {d : ExpressionTree}

/-- A sentence of one literal is a reference. -/
theorem isReference_of_one {v : String} (h : d.lexemes = [.literal v]) (source : String) :
    (d.expression source).IsReference := by
  obtain rfl : d = .single (referenceTree v) := ExpressionTree.eq_of_lexemes h
  exact ⟨.reference v, rfl, rfl, rfl⟩

/-- A sentence of two literals is two references. -/
theorem comparisons_of_two {v w : String} (h : d.lexemes = [.literal v, .literal w])
    (source : String) :
    (d.expression source).comparisons = [.reference v, .reference w] := by
  obtain rfl : d = referencesTree v w := ExpressionTree.eq_of_lexemes h
  rfl

/-- A sentence of two literals around an operator is a comparison. -/
theorem comparisons_of_three {v w : String} {op : Operator} (hop : op ≠ .selected)
    (h : d.lexemes = [.literal v, .operator op, .literal w]) (source : String) :
    (d.expression source).comparisons = [⟨v, op, w, false, true⟩] := by
  obtain rfl : d = comparedTree v op hop w := ExpressionTree.eq_of_lexemes h
  rfl

/-! ## What short texts are read as -/

section

variable (hblanks : ∀ c ∈ blanks, isBlank c = true) (source : String)
include hblanks

/-- One character behind a literal is a digit, if it is anything. -/
theorem reference_or_digit {v : String} (h : tokensFrom pos (c :: blanks) = .ok ts)
    (hd : d.lexemes = .literal v :: lexemes ts) :
    (d.expression source).IsReference ∨
      isDecimal c = true ∧
        (d.expression source).comparisons = [.reference v, .reference (.ofList [c])] := by
  rcases tokens_of_char hblanks h with hnone | ⟨l, hone, hwritten⟩
  · rw [hnone] at hd
    exact .inl (isReference_of_one hd source)
  · rw [hone] at hd
    obtain ⟨w, rfl⟩ := ExpressionTree.last_literal [.literal v] hd
    rcases hwritten.of_char with ⟨hdecimal, hl⟩ | ⟨op, hl, -⟩
    · cases hl
      exact .inr ⟨hdecimal, comparisons_of_two hd source⟩
    · cases hl

/-- One character behind a literal and an operator is a digit. -/
theorem compared_of_char {v : String} {op : Operator} (hop : op ≠ .selected)
    (h : tokensFrom pos (c :: blanks) = .ok ts)
    (hd : d.lexemes = .literal v :: .operator op :: lexemes ts) :
    isDecimal c = true ∧
      (d.expression source).comparisons = [⟨v, op, .ofList [c], false, true⟩] := by
  rcases tokens_of_char hblanks h with hnone | ⟨l, hone, hwritten⟩
  · -- an operator needs a second operand
    rw [hnone] at hd
    obtain ⟨w, hw⟩ := ExpressionTree.last_literal [.literal v] hd
    cases hw
  · rw [hone] at hd
    obtain ⟨w, rfl⟩ := ExpressionTree.last_literal [.literal v, .operator op] hd
    rcases hwritten.of_char with ⟨hdecimal, hw⟩ | ⟨op', hw, -⟩
    · cases hw
      exact ⟨hdecimal, comparisons_of_three hop hd source⟩
    · cases hw

/-- Two characters behind a digit. -/
theorem reference_or_crowded_pair {a b : Char} (ha : isDecimal a = true)
    (hb : isDecimal b = false) (h : tokensFrom pos (b :: c :: blanks) = .ok ts)
    (hd : d.lexemes = .literal (.ofList [a]) :: lexemes ts) :
    (d.expression source).IsReference ∨
      Crowded [a, b, c] (d.expression source).comparisons := by
  by_cases hblank : isBlank b = true
  · rw [tokensFrom_blank hblank] at h
    refine (reference_or_digit hblanks source h hd).imp_right ?_
    rintro ⟨hc, hcomparisons⟩
    rw [hcomparisons]
    exact .apart ha hblank hc
  · obtain ⟨l, taken, rest, ts', pos', hr, hwritten, -, hts, hts'⟩ :=
      exists_first (r := [c]) ((Bool.not_eq_true _).mp hblank) hblanks h
    rw [hts] at hd
    match taken, rest, hr with
    | [], [_], rfl =>
      obtain ⟨op, rfl, hop⟩ := hwritten.of_char.resolve_left fun hdigit => by simp [hb] at hdigit
      obtain ⟨hc, hcomparisons⟩ :=
        compared_of_char hblanks source (Operator.ne_selected_of_sign hop) hts' hd
      rw [hcomparisons]
      exact .inr (.compared ha hop hc)
    | [_], [], rfl =>
      rw [tokens_of_blanks hblanks hts'] at hd
      obtain ⟨w, rfl⟩ := ExpressionTree.last_literal [.literal (.ofList [a])] hd
      rw [comparisons_of_two hd source]
      rcases hwritten.of_pair hb with ⟨rfl, rfl, rfl⟩ | ⟨rfl, hc, rfl⟩
      · exact .inr (.beforeQuotes ha)
      · exact .inr (.signed ha hc)

/-- What is left of a short text behind a first literal between quotes. -/
theorem reference_or_crowded_quoted {value rest : List Char} (hr : (value ++ rest).length ≤ 1)
    (h : tokensFrom pos (rest ++ blanks) = .ok ts)
    (hd : d.lexemes = .literal (.ofList value) :: lexemes ts) :
    (d.expression source).IsReference ∨
      Crowded ('"' :: (value ++ ['"'] ++ rest)) (d.expression source).comparisons := by
  match rest, value, hr with
  | [], _, _ =>
    rw [tokens_of_blanks hblanks h] at hd
    exact .inl (isReference_of_one hd source)
  | [_], [], _ =>
    refine (reference_or_digit hblanks source h hd).imp_right ?_
    rintro ⟨hc, hcomparisons⟩
    rw [hcomparisons]
    exact .behindQuotes hc
  | [_], _ :: _, hr => simp at hr
  | _ :: _ :: _, _, hr =>
    simp at hr
    omega

/-- What is left of a short text behind a first number. -/
theorem reference_or_crowded_number {taken rest : List Char} (hr : (taken ++ rest).length ≤ 2)
    (hplain : Number.IsPlain (c :: taken)) (hahead : Number.NoDigitAhead (rest ++ blanks))
    (h : tokensFrom pos (rest ++ blanks) = .ok ts)
    (hd : d.lexemes = .literal (.ofList (c :: taken)) :: lexemes ts) :
    (d.expression source).IsReference ∨
      Crowded (c :: (taken ++ rest)) (d.expression source).comparisons := by
  rw [Number.noDigitAhead_iff] at hahead
  match rest, taken, hr with
  | [], _, _ =>
    rw [tokens_of_blanks hblanks h] at hd
    exact .inl (isReference_of_one hd source)
  | [b], _, _ =>
    refine .inl ((reference_or_digit hblanks source h hd).resolve_right ?_)
    rintro ⟨hdecimal, -⟩
    rw [hahead b (by simp)] at hdecimal
    cases hdecimal
  | [b, _], [], _ =>
    have hc := hplain.isDecimal_last []
    exact reference_or_crowded_pair hblanks source hc (hahead b (by simp)) h hd
  | [_, _], _ :: _, hr => simp at hr
  | _ :: _ :: _ :: _, _, hr =>
    simp at hr
    omega

/-- A short text is a reference, or crowded. -/
theorem reference_or_crowded (hc : isBlank c = false) (hr : r.length ≤ 2)
    (h : tokensFrom pos (c :: (r ++ blanks)) = .ok ts) (hd : d.lexemes = lexemes ts) :
    (d.expression source).IsReference ∨
      Crowded (c :: r) (d.expression source).comparisons := by
  obtain ⟨l, taken, rest, ts', pos', rfl, hwritten, hahead, hts, hts'⟩ := exists_first hc hblanks h
  rw [hts] at hd
  have hopens := hd ▸ d.opensTerm
  cases l with
  | literal v =>
      by_cases hquote : c = '"'
      · subst hquote
        obtain ⟨value, -, hvalue, rfl⟩ := hwritten.of_quote
        cases hvalue
        exact reference_or_crowded_quoted hblanks source (by simp at hr ⊢; omega) hts' hd
      · rcases hwritten.literal_cases with ⟨-, hquoted⟩ | ⟨hplain, rfl⟩
        · exact absurd (List.cons.inj hquoted).1 hquote
        · exact reference_or_crowded_number hblanks source hr hplain (hahead _ rfl hquote) hts' hd
  | operator op => exact hopens.elim
  | keyword w =>
      cases w with
      | not =>
          -- the word takes three characters, and a sentence does not end in it
          have hlength := hwritten.length_keyword
          rw [List.length_cons] at hlength
          rw [List.length_append] at hr
          have hthree : Keyword.not.text.toList.length = 3 := by decide
          obtain rfl := List.eq_nil_of_length_eq_zero (l := rest) (by omega)
          rw [tokens_of_blanks hblanks hts'] at hd
          obtain ⟨v, hv⟩ := ExpressionTree.last_literal [] hd
          cases hv
      | or => exact hopens.elim
      | and => exact hopens.elim
      | nocase => exact hopens.elim

end

end QuestionBank.Condition
