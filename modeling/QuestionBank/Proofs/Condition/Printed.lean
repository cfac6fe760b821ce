import QuestionBank.Proofs.Condition.Parsed
import QuestionBank.Proofs.Text.TakeWhile
import Mathlib.Tactic.MkIffOfInductiveProp

/-!
# Printed conditions are read back

The text of an expression is a row of lexemes in their written forms, with one space between
two of them. Operands stand between quotes, so they may hold anything but a quote: words,
operators and line ends in them are not mistaken for the words around them. What is read from
any text is an expression of this kind, so reading its printed form changes nothing any more.
-/

namespace QuestionBank.Condition

open QuestionBank.Text

/-- The text of a comparison says all that there is to it: no operand holds a quote, and what
only refers to a choice has nothing on the right. -/
@[mk_iff]
structure Comparison.Printable (c : Comparison) : Prop where
  left : '"' ∉ c.left.toList
  right : '"' ∉ c.right.toList
  reference : c.operator = .selected → c.right = "" ∧ c.caseSensitive = true

instance (c : Comparison) : Decidable c.Printable :=
  decidable_of_iff _ (Comparison.printable_iff c).symm

/-- The text of an expression says all that there is to its comparisons. -/
def Expression.Printable (e : Expression) : Prop := ∀ c ∈ e.comparisons, c.Printable

instance (e : Expression) : Decidable e.Printable := inferInstanceAs (Decidable (∀ c ∈ _, _))

/-! ## Written lexemes -/

/-- What may follow a lexeme in a printed condition: nothing, or a space. -/
def Separated (rest : List Char) : Prop := rest = [] ∨ ∃ r, rest = ' ' :: r

/-- A text is cut into tokens with these lexemes, whatever follows it after a space. -/
def Spells (s : List Char) (l : List Lexeme) : Prop :=
  ∀ pos rest, Separated rest → ∃ ts, lexemes ts = l ∧
    tokensFrom pos (s ++ rest) = (tokensFrom (pos + s.length) rest).map (ts ++ ·)

theorem lexemes_append (ts us : List Token) : lexemes (ts ++ us) = lexemes ts ++ lexemes us :=
  List.map_append

/-- Two texts with a space between them spell what both spell. -/
theorem Spells.space {s t : List Char} {l m : List Lexeme} (hs : Spells s l) (ht : Spells t m) :
    Spells (s ++ ' ' :: t) (l ++ m) := by
  intro pos rest hrest
  obtain ⟨ts, rfl, hts⟩ := hs pos (' ' :: (t ++ rest)) (.inr ⟨_, rfl⟩)
  obtain ⟨us, rfl, hus⟩ := ht (pos + s.length + 1) rest hrest
  have hlength : pos + (s ++ ' ' :: t).length = pos + s.length + 1 + t.length := by
    rw [List.length_append, List.length_cons]
    omega
  refine ⟨ts ++ us, lexemes_append ts us, ?_⟩
  rw [List.append_assoc, List.cons_append, hts, tokensFrom_blank (by decide), hus, hlength]
  cases tokensFrom (pos + s.length + 1 + t.length) rest <;> simp [Except.map]

/-- A text that is cut off as one lexeme spells it. -/
theorem spells_of_lexeme {c : Char} {r : List Char} {l : Lexeme} (hblank : ¬ isBlank c = true)
    (h : ∀ pos rest, Separated rest → lexeme pos c (r ++ rest) = .ok (l, r.length)) :
    Spells (c :: r) [l] := by
  intro pos rest hrest
  have hlength : pos + (c :: r).length = pos + 1 + r.length := by
    rw [List.length_cons]
    omega
  refine ⟨[⟨l, pos⟩], rfl, ?_⟩
  rw [List.cons_append, tokensFrom_cons hblank (h pos rest hrest), List.drop_left, hlength]
  rfl

theorem lexeme_quoted {s : List Char} (hs : '"' ∉ s) (pos : Nat) (rest : List Char) :
    lexeme pos '"' (s ++ '"' :: rest) = .ok (.literal (String.ofList s), s.length + 1) := by
  have hbody : (s ++ '"' :: rest).takeWhile (· != '"') = s := by
    apply takeWhile_append_stop
    · intro c hc
      rw [bne_iff_ne]
      rintro rfl
      exact hs hc
    · decide
  have hquote : (s ++ '"' :: rest).contains '"' = true := by simp
  rw [lexeme, hbody, hquote]
  rfl

/-- An operand spells itself between quotes. -/
theorem spells_literal {s : String} (hs : '"' ∉ s.toList) :
    Spells ('"' :: (s.toList ++ ['"'])) [.literal s] := by
  apply spells_of_lexeme (by decide)
  intro pos rest _
  rw [List.append_assoc, List.singleton_append, lexeme_quoted hs, String.ofList_toList,
    List.length_append, List.length_singleton]

theorem spells_keyword (word : Keyword) : Spells word.text.toList [.keyword word] := by
  cases word <;>
  · apply spells_of_lexeme (by decide)
    rintro pos rest (rfl | ⟨r, rfl⟩) <;> rfl

theorem spells_operator {op : Operator} (hop : op ≠ .selected) :
    Spells op.text.toList [.operator op] := by
  cases op with
  | selected => exact absurd rfl hop
  | _ =>
      apply spells_of_lexeme (by decide)
      rintro pos rest (rfl | ⟨r, rfl⟩) <;> rfl

/-! ## The derivation of a printed form -/

/-- The derivation of the text of a comparison. -/
def Comparison.tree (c : Comparison) : TermTree :=
  { negations := if c.negated then 1 else 0
    left := c.left
    operation :=
      if h : c.operator = .selected then none else some ⟨c.operator, h, !c.caseSensitive, c.right⟩ }

/-- The derivation of the text of a conjunction: the word `AND` is always written. -/
def Conjunction.tree (c : Conjunction) : ConjunctionTree :=
  ⟨c.first.tree, c.others.map fun other => (true, other.tree)⟩

/-- The derivation of the text of an expression. -/
def Expression.tree (e : Expression) : ExpressionTree :=
  ⟨e.first.tree, e.others.map Conjunction.tree⟩

theorem Comparison.Printable.comparison_tree {c : Comparison} (h : c.Printable) :
    c.tree.comparison = c := by
  obtain ⟨left, op, right, negated, caseSensitive⟩ := c
  have hnegated : decide ((if negated = true then 1 else 0) % 2 = 1) = negated := by
    cases negated <;> rfl
  by_cases hop : op = .selected
  · subst hop
    obtain ⟨hright, hcase⟩ := h.reference rfl
    simp only at hright hcase
    simp [tree, TermTree.comparison, hnegated, hright, hcase]
  · simp [tree, TermTree.comparison, hop, hnegated]

/-- The text of a comparison that is not negated. -/
theorem Comparison.spells_affirmed {left right : String} (hleft : '"' ∉ left.toList)
    (hright : '"' ∉ right.toList) (op : Operator) (caseSensitive : Bool) :
    Spells (text ⟨left, op, right, false, caseSensitive⟩).toList
      (tree ⟨left, op, right, false, caseSensitive⟩).lexemes := by
  have hl := spells_literal hleft
  have hr := spells_literal hright
  by_cases hop : op = .selected
  · subst hop
    simpa [text, isReference, tree, TermTree.lexemes] using hl
  · have hoperator := spells_operator hop
    cases caseSensitive with
    | true =>
        simpa [text, isReference, tree, TermTree.lexemes, OperationTree.lexemes, optional, hop]
          using hl.space (hoperator.space hr)
    | false =>
        have hnocase := spells_keyword .nocase
        simpa [text, isReference, tree, TermTree.lexemes, OperationTree.lexemes, optional, hop,
          Keyword.text] using hl.space (hoperator.space (hnocase.space hr))

theorem Comparison.text_negated (left right : String) (op : Operator) (caseSensitive : Bool) :
    text ⟨left, op, right, true, caseSensitive⟩ =
      Keyword.not.text ++ " " ++ text ⟨left, op, right, false, caseSensitive⟩ := by
  by_cases hop : op = .selected <;> simp [text, isReference, hop, Keyword.text, String.ext_iff]

theorem Comparison.lexemes_negated (left right : String) (op : Operator) (caseSensitive : Bool) :
    (tree ⟨left, op, right, true, caseSensitive⟩).lexemes =
      .keyword .not :: (tree ⟨left, op, right, false, caseSensitive⟩).lexemes := rfl

theorem Comparison.Printable.spells {c : Comparison} (h : c.Printable) :
    Spells c.text.toList c.tree.lexemes := by
  obtain ⟨left, op, right, negated, caseSensitive⟩ := c
  have haffirmed := spells_affirmed h.left h.right op caseSensitive
  cases negated with
  | false => exact haffirmed
  | true =>
      rw [text_negated, lexemes_negated, String.append_assoc, String.toList_append,
        String.toList_append]
      exact (spells_keyword .not).space haffirmed

/-- Texts with a word between them spell what they spell with the word between. -/
theorem spells_intercalate {α : Type} (text : α → String) (sentence : α → List Lexeme)
    (word : Keyword) {a : α} {l : List α}
    (h : ∀ b ∈ a :: l, Spells (text b).toList (sentence b)) :
    Spells ((" " ++ word.text ++ " ").intercalate ((a :: l).map text)).toList
      (sentence a ++ l.flatMap fun b => .keyword word :: sentence b) := by
  induction l generalizing a with
  | nil => simpa using h a (.head _)
  | cons b l ih =>
      obtain ⟨ha, hl⟩ := List.forall_mem_cons.mp h
      have hrest := ha.space ((spells_keyword word).space (ih hl))
      simpa [String.intercalate_cons_cons] using hrest

theorem Conjunction.spells {c : Conjunction} (h : ∀ x ∈ c.comparisons, x.Printable) :
    Spells c.text.toList c.tree.lexemes := by
  have hjoined := spells_intercalate Comparison.text (fun x => x.tree.lexemes) .and
    fun x hx => (h x hx).spells
  rw [tree, ConjunctionTree.lexemes, List.flatMap_map]
  exact hjoined

theorem Expression.Printable.spells {e : Expression} (h : e.Printable) :
    Spells e.text.toList e.tree.lexemes := by
  have hterms : ∀ c ∈ e.first :: e.others, Spells c.text.toList c.tree.lexemes := by
    intro c hc
    apply Conjunction.spells
    intro x hx
    exact h x (List.mem_flatMap.mpr ⟨c, hc, hx⟩)
  have hjoined := spells_intercalate Conjunction.text (fun c => c.tree.lexemes) .or hterms
  rw [tree, ExpressionTree.lexemes, List.flatMap_map]
  exact hjoined

theorem Conjunction.conjunction_tree {c : Conjunction} (h : ∀ x ∈ c.comparisons, x.Printable) :
    c.tree.conjunction = c := by
  obtain ⟨hfirst, hothers⟩ := List.forall_mem_cons.mp h
  have hsame : c.others.map (fun x => x.tree.comparison) = c.others :=
    (List.map_congr_left fun x hx => (hothers x hx).comparison_tree).trans (List.map_id _)
  rw [ConjunctionTree.conjunction, tree, List.map_map, hfirst.comparison_tree]
  exact congrArg (Conjunction.mk c.first) hsame

/-- The derivation of the text of an expression stands for the expression. -/
theorem Expression.Printable.expression_tree {e : Expression} (h : e.Printable) (source : String) :
    e.tree.expression source = { e with source } := by
  have hterms : ∀ c ∈ e.first :: e.others, c.tree.conjunction = c := by
    intro c hc
    apply Conjunction.conjunction_tree
    intro x hx
    exact h x (List.mem_flatMap.mpr ⟨c, hc, hx⟩)
  obtain ⟨hfirst, hothers⟩ := List.forall_mem_cons.mp hterms
  have hsame : e.others.map (fun c => c.tree.conjunction) = e.others :=
    (List.map_congr_left hothers).trans (List.map_id _)
  rw [ExpressionTree.expression, tree, List.map_map, hfirst]
  exact congrArg (Expression.mk e.first · source) hsame

/-- The text of an expression is read as the expression. -/
theorem Expression.Printable.parse_text {e : Expression} (h : e.Printable) :
    parse e.text = .ok { e with source := e.text } := by
  obtain ⟨ts, hts, htokens⟩ := h.spells 0 [] (.inl rfl)
  rw [parse_eq_ok_iff]
  refine ⟨e.tree, ⟨ts, ?_, hts.symm⟩, h.expression_tree e.text⟩
  rw [List.append_nil, tokensFrom_nil] at htokens
  rw [tokenize, htokens]
  simp [Except.map]

/-! ## What is read can be printed -/

/-- A literal holds no quote. -/
def Lexeme.Unquoted : Lexeme → Prop
  | .literal s => '"' ∉ s.toList
  | _ => True

theorem notMem_takeWhile_isDecimal (s : List Char) : '"' ∉ s.takeWhile isDecimal := by
  intro h
  exact absurd (List.mem_takeWhile_imp h) (by decide)

theorem notMem_fractionSlice (s : List Char) : '"' ∉ Number.fractionSlice s := by
  unfold Number.fractionSlice
  split
  next r =>
    dsimp only
    split
    · exact List.not_mem_nil
    · simp [notMem_takeWhile_isDecimal]
  next => exact List.not_mem_nil

theorem notMem_plainNumber? {s number : List Char} (h : Number.plainNumber? s = some number) :
    '"' ∉ number := by
  have hsign : '"' ∉ if s.head? = some '-' then ['-'] else [] := by
    split <;> simp
  simp only [Number.plainNumber?, Option.ite_none_left_eq_some, Option.some.injEq] at h
  obtain ⟨-, rfl⟩ := h
  simp only [List.mem_append, hsign, notMem_takeWhile_isDecimal, notMem_fractionSlice, or_false,
    not_false_eq_true]

theorem wordLexeme?_unquoted {word : String} {l : Lexeme} (h : wordLexeme? word = some l) :
    l.Unquoted := by
  unfold wordLexeme? at h
  split_ifs at h <;> cases h <;> exact trivial

theorem lexeme_unquoted {pos : Nat} {c : Char} {r : List Char} {l : Lexeme} {n : Nat}
    (h : lexeme pos c r = .ok (l, n)) : l.Unquoted := by
  unfold lexeme at h
  dsimp only at h
  split at h
  · cases h
    intro hmem
    rw [String.toList_ofList] at hmem
    exact absurd (List.mem_takeWhile_imp hmem) (by decide)
  · split at h
    next number hnumber =>
      cases h
      rw [Lexeme.Unquoted, String.toList_ofList]
      exact notMem_plainNumber? hnumber
    next =>
      split_ifs at h
      iterate 5
        · cases h
          exact trivial
      split at h
      next hword =>
        cases h
        exact wordLexeme?_unquoted hword
      next => cases h

theorem Derives.unquoted {d : ExpressionTree} {text : String} (h : Derives d text) :
    ∀ l ∈ d.lexemes, l.Unquoted := by
  obtain ⟨ts, hts, hd⟩ := h
  rw [hd]
  intro l hl
  obtain ⟨t, ht, rfl⟩ := List.mem_map.mp hl
  exact forall_mem_tokensFrom lexeme_unquoted hts t ht

theorem TermTree.printable {t : TermTree} (h : ∀ l ∈ t.lexemes, l.Unquoted) :
    t.comparison.Printable := by
  obtain ⟨n, left, operation⟩ := t
  have hleft : '"' ∉ left.toList := h (.literal left) (by simp [lexemes])
  cases operation with
  | none => exact ⟨hleft, List.not_mem_nil, fun _ => ⟨rfl, rfl⟩⟩
  | some o =>
      have hright : '"' ∉ o.right.toList :=
        h (.literal o.right) (by simp [lexemes, OperationTree.lexemes])
      exact ⟨hleft, hright, fun hop => absurd hop o.isWritten⟩

namespace ExpressionTree

theorem comparisons_single (t : TermTree) (source : String) :
    ((single t).expression source).comparisons = [t.comparison] := rfl

theorem comparisons_orCons (t : TermTree) (d : ExpressionTree) (source : String) :
    ((orCons t d).expression source).comparisons =
      t.comparison :: (d.expression source).comparisons := rfl

theorem comparisons_andCons (t : TermTree) (joined : Bool) (d : ExpressionTree) (source : String) :
    ((andCons t joined d).expression source).comparisons =
      t.comparison :: (d.expression source).comparisons := rfl

/-- The expression of a derivation can be printed if no literal of the sentence holds a quote. -/
theorem printable {d : ExpressionTree} (h : ∀ l ∈ d.lexemes, l.Unquoted) (source : String) :
    (d.expression source).Printable := by
  induction d using ExpressionTree.cons_induction with
  | single t =>
      rw [lexemes_single] at h
      rw [Expression.Printable, comparisons_single, List.forall_mem_singleton]
      exact TermTree.printable h
  | orCons t d ih =>
      rw [lexemes_orCons, List.forall_mem_append, List.forall_mem_cons] at h
      rw [Expression.Printable, comparisons_orCons, List.forall_mem_cons]
      exact ⟨TermTree.printable h.1, ih h.2.2⟩
  | andCons t joined d ih =>
      rw [lexemes_andCons, List.forall_mem_append, List.forall_mem_append] at h
      rw [Expression.Printable, comparisons_andCons, List.forall_mem_cons]
      exact ⟨TermTree.printable h.1, ih h.2.2⟩

end ExpressionTree

/-- What is read can be printed. -/
theorem printable_of_parse {text : String} {e : Expression} (h : parse text = .ok e) :
    e.Printable := by
  obtain ⟨d, hd, rfl⟩ := parse_eq_ok_iff.mp h
  exact ExpressionTree.printable hd.unquoted text

/-- **A printed condition is read back.** An expression whose text says all that there is to it
is read from its text. Every expression that is read from a text is of this kind, so it is read
again, with the same terms, from its own text. -/
theorem read_printed (outcome question : Option String) :
    (∀ e : Expression, e.Printable →
      read e.text outcome question = .ok { e with source := e.text }) ∧
    ∀ text e, read text outcome question = .ok e → e.Printable ∧
      ∃ e', read e.text outcome question = .ok e' ∧ e'.terms = e.terms := by
  have hprinted : ∀ e : Expression, e.Printable →
      read e.text outcome question = .ok { e with source := e.text } :=
    fun e he => read_eq_ok_iff.mpr he.parse_text
  refine ⟨hprinted, ?_⟩
  intro text e he
  have hprintable := printable_of_parse (read_eq_ok_iff.mp he)
  exact ⟨hprintable, _, hprinted e hprintable, rfl⟩

/-- An expression whose operands look like other parts of a condition. -/
def wordsExpression : Expression :=
  { first := ⟨⟨"AND", .atLeast, "1\n OR 2", true, false⟩, [⟨"", .selected, "", false, true⟩]⟩
    others := [⟨⟨"NOT", .matching, "<= -3", false, true⟩, []⟩] }

/-- Words in operands stay operands. Two words `NOT` and plain numbers are gone from the printed
form of what was read, and it is read as the same. -/
theorem read_printed_words :
    wordsExpression.Printable ∧
    read wordsExpression.text none none =
      .ok { wordsExpression with source := wordsExpression.text } ∧
    ∃ e, read "not not 7 near -1.5 \"x\"" none none = .ok e ∧
      e.text = "\"7\" NEAR \"-1.5\" AND \"x\"" ∧
      ∃ e', read e.text none none = .ok e' ∧ e'.terms = e.terms := by
  obtain ⟨hprinted, hagain⟩ := read_printed none none
  have hprintable : wordsExpression.Printable := by decide +kernel
  have hread : read "not not 7 near -1.5 \"x\"" none none =
      .ok ⟨⟨⟨"7", .near, "-1.5", false, true⟩, [⟨"x", .selected, "", false, true⟩]⟩, [],
        "not not 7 near -1.5 \"x\""⟩ := by decide +kernel
  exact ⟨hprintable, hprinted _ hprintable, _, hread, by decide +kernel, (hagain _ _ hread).2⟩

end QuestionBank.Condition
