import QuestionBank.Condition.Reader
import QuestionBank.Import.Diagnostics
import QuestionBank.Proofs.Condition.Derivation
import QuestionBank.Proofs.Traversal

/-!
# Conditions are read as the grammar derives them

A text is a condition just when its lexemes have a derivation, and then it is read as the
expression of that derivation. Any other text is a failure that carries the text.
-/

namespace QuestionBank.Condition

/-- The lexemes of tokens. -/
def lexemes (ts : List Token) : List Lexeme := ts.map Token.lexeme

@[simp] theorem lexemes_nil : lexemes [] = [] := rfl

@[simp] theorem lexemes_cons (l : Lexeme) (pos : Nat) (ts : List Token) :
    lexemes (⟨l, pos⟩ :: ts) = l :: lexemes ts := rfl

theorem lexemes_eq_nil_iff {ts : List Token} : lexemes ts = [] ↔ ts = [] := List.map_eq_nil_iff

theorem lexemes_eq_cons {ts : List Token} {l : Lexeme} {rest : List Lexeme}
    (h : lexemes ts = l :: rest) : ∃ pos r, ts = ⟨l, pos⟩ :: r ∧ lexemes r = rest := by
  obtain ⟨⟨l', pos⟩, r, rfl, rfl, hrest⟩ := List.map_eq_cons_iff.mp h
  exact ⟨pos, r, rfl, hrest⟩

/-! ## Tokens -/

/-- Every operator among the tokens has a written form. -/
def Written (ts : List Token) : Prop := ∀ t ∈ ts, t.lexeme ≠ .operator .selected

theorem Written.tail {t : Token} {ts : List Token} (h : Written (t :: ts)) : Written ts :=
  fun u hu => h u (.tail _ hu)

theorem wordLexeme?_written {word : String} {l : Lexeme} (h : wordLexeme? word = some l) :
    l ≠ .operator .selected := by
  unfold wordLexeme? at h
  split_ifs at h <;> cases h <;> nofun

theorem lexeme_written {pos : Nat} {c : Char} {r : List Char} {l : Lexeme} {n : Nat}
    (h : lexeme pos c r = .ok (l, n)) : l ≠ .operator .selected := by
  unfold lexeme at h
  dsimp only at h
  split at h
  · cases h
    rintro ⟨⟩
  · split at h
    · cases h
      rintro ⟨⟩
    · split_ifs at h
      iterate 5
        · cases h
          rintro ⟨⟩
      split at h
      next hword =>
        cases h
        exact wordLexeme?_written hword
      next => cases h

/-- What holds of every lexeme that is cut off holds of the lexemes of a text. -/
theorem forall_mem_tokensFrom {P : Lexeme → Prop}
    (hP : ∀ {pos c r l n}, lexeme pos c r = .ok (l, n) → P l) {pos : Nat} {s : List Char}
    {ts : List Token} (h : tokensFrom pos s = .ok ts) : ∀ t ∈ ts, P t.lexeme := by
  induction pos, s using tokensFrom.induct generalizing ts with
  | case1 pos =>
      cases (tokensFrom_nil pos).symm.trans h
      exact List.forall_mem_nil _
  | case2 pos c r hblank ih =>
      rw [tokensFrom_blank hblank] at h
      exact ih h
  | case3 pos c r hblank e hlexeme =>
      cases (tokensFrom_error hblank hlexeme).symm.trans h
  | case4 pos c r hblank l n hlexeme ih =>
      rw [tokensFrom_cons hblank hlexeme] at h
      obtain ⟨rest, hrest, rfl⟩ := Traversal.map_eq_ok_iff.mp h
      exact List.forall_mem_cons.mpr ⟨hP hlexeme, ih hrest⟩

theorem tokensFrom_written {pos : Nat} {s : List Char} {ts : List Token}
    (h : tokensFrom pos s = .ok ts) : Written ts := forall_mem_tokensFrom lexeme_written h

/-! ## Terms -/

theorem literal_eq_ok_iff {ts rest : List Token} {s : String} :
    literal ts = .ok (s, rest) ↔ ∃ pos, ts = ⟨.literal s, pos⟩ :: rest := by
  unfold literal
  split <;> simp_all

/-- What is read after a left operand is an operation, or nothing. -/
theorem operation_sound {negated : Bool} {left : String} {ts rest : List Token} {c : Comparison}
    (hts : Written ts) (h : operation negated left ts = .ok (c, rest)) :
    ∃ operation : Option OperationTree,
      lexemes ts = (operation.map OperationTree.lexemes).getD [] ++ lexemes rest ∧
      c = { (TermTree.mk 0 left operation).comparison with negated } := by
  unfold operation at h
  split at h
  next op pos pos' r =>
    obtain ⟨⟨right, rest'⟩, hright, he⟩ := Traversal.map_eq_ok_iff.mp h
    cases he
    obtain ⟨pos'', rfl⟩ := literal_eq_ok_iff.mp hright
    have hop : op ≠ .selected := fun hop => hts _ (.head _) (hop ▸ rfl)
    exact ⟨some ⟨op, hop, true, right⟩, rfl, rfl⟩
  next op pos r _ =>
    obtain ⟨⟨right, rest'⟩, hright, he⟩ := Traversal.map_eq_ok_iff.mp h
    cases he
    obtain ⟨pos'', rfl⟩ := literal_eq_ok_iff.mp hright
    have hop : op ≠ .selected := fun hop => hts _ (.head _) (hop ▸ rfl)
    exact ⟨some ⟨op, hop, false, right⟩, rfl, rfl⟩
  next =>
    cases h
    exact ⟨none, rfl, rfl⟩

/-- An operation is read after a left operand; nothing is if no operator follows. -/
theorem operation_complete (negated : Bool) (left : String) (operation? : Option OperationTree)
    {ts : List Token} {rest : List Lexeme} (hrest : NoOperatorAhead rest)
    (h : lexemes ts = (operation?.map OperationTree.lexemes).getD [] ++ rest) :
    ∃ r, lexemes r = rest ∧ operation negated left ts =
      .ok ({ (TermTree.mk 0 left operation?).comparison with negated }, r) := by
  cases operation? with
  | none =>
      refine ⟨ts, h, ?_⟩
      unfold operation
      split
      next op pos _ _ => exact absurd h.symm (hrest _ _)
      next op pos _ _ => exact absurd h.symm (hrest _ _)
      next => rfl
  | some o =>
      obtain ⟨op, hop, nocase, right⟩ := o
      obtain ⟨pos, ts₁, rfl, h₁⟩ := lexemes_eq_cons h
      cases nocase with
      | true =>
          obtain ⟨pos', ts₂, rfl, h₂⟩ := lexemes_eq_cons h₁
          obtain ⟨pos'', r, rfl, hr⟩ := lexemes_eq_cons h₂
          exact ⟨r, hr, rfl⟩
      | false =>
          obtain ⟨pos', r, rfl, hr⟩ := lexemes_eq_cons h₁
          exact ⟨r, hr, rfl⟩

/-- One more `NOT` negates once more. -/
theorem negated_succ (negated : Bool) (n : Nat) :
    (negated ^^ decide ((n + 1) % 2 = 1)) = ((!negated) ^^ decide (n % 2 = 1)) := by
  rcases Nat.mod_two_eq_zero_or_one n with h | h <;> cases negated <;> simp [Nat.add_mod, h]

theorem TermTree.comparison_succ (n : Nat) (left : String) (operation : Option OperationTree)
    (negated : Bool) :
    { (TermTree.mk (n + 1) left operation).comparison with
      negated := negated ^^ (TermTree.mk (n + 1) left operation).comparison.negated } =
    { (TermTree.mk n left operation).comparison with
      negated := (!negated) ^^ (TermTree.mk n left operation).comparison.negated } := by
  cases operation with
  | none => simp only [TermTree.comparison, negated_succ]
  | some o => simp only [TermTree.comparison, negated_succ]

/-- What is read as a term has a derivation as one. -/
theorem term_sound {negated : Bool} {ts rest : List Token} {c : Comparison} (hts : Written ts)
    (h : term negated ts = .ok (c, rest)) :
    ∃ t : TermTree, lexemes ts = t.lexemes ++ lexemes rest ∧
      c = { t.comparison with negated := negated ^^ t.comparison.negated } := by
  -- The reader flips `negated` at each word `NOT`, so the induction is for both values.
  induction ts generalizing negated with
  | nil => cases h
  | cons token ts ih =>
      unfold term at h
      split at h
      next pos r heq =>
        cases heq
        obtain ⟨⟨n, left, operation⟩, hsplit, rfl⟩ := ih hts.tail h
        refine ⟨⟨n + 1, left, operation⟩, ?_, ?_⟩
        · rw [TermTree.lexemes_succ, lexemes_cons, hsplit, List.cons_append]
        · exact (TermTree.comparison_succ n left operation negated).symm
      next left pos r heq =>
        cases heq
        obtain ⟨operation, hsplit, rfl⟩ := operation_sound hts.tail h
        refine ⟨⟨0, left, operation⟩, ?_, ?_⟩
        · rw [TermTree.lexemes_zero, lexemes_cons, hsplit, List.cons_append]
        · cases operation <;> simp [TermTree.comparison]
      next => cases h

/-- A term is read as it is derived, if no operator follows. -/
theorem term_complete (negated : Bool) (t : TermTree) {ts : List Token} {rest : List Lexeme}
    (hrest : NoOperatorAhead rest) (h : lexemes ts = t.lexemes ++ rest) :
    ∃ r, lexemes r = rest ∧ term negated ts =
      .ok ({ t.comparison with negated := negated ^^ t.comparison.negated }, r) := by
  obtain ⟨n, left, operation⟩ := t
  induction n generalizing negated ts with
  | zero =>
      obtain ⟨pos, tail, rfl, htail⟩ := lexemes_eq_cons h
      obtain ⟨r, hr, hoperation⟩ := operation_complete negated left operation hrest htail
      refine ⟨r, hr, hoperation.trans ?_⟩
      cases operation <;> simp [TermTree.comparison]
  | succ n ih =>
      rw [TermTree.lexemes_succ, List.cons_append] at h
      obtain ⟨pos, tail, rfl, htail⟩ := lexemes_eq_cons h
      obtain ⟨r, hr, hterm⟩ := ih (!negated) htail
      refine ⟨r, hr, ?_⟩
      rw [TermTree.comparison_succ]
      exact hterm

/-! ## Chains -/

/-- What joins two terms is a word, or nothing in front of a term. -/
theorem joint_sound {ts next : List Token} {j : Joint} (h : joint ts = .ok (some (j, next))) :
    (j = .or ∧ lexemes ts = .keyword .or :: lexemes next) ∨
      j = .and ∧ ∃ joined, lexemes ts = optional joined .and ++ lexemes next := by
  unfold joint at h
  split at h
  case h_4 => cases h; exact .inl ⟨rfl, rfl⟩
  case h_5 => cases h; exact .inr ⟨rfl, true, rfl⟩
  case h_6 => cases h; exact .inr ⟨rfl, false, rfl⟩
  case h_7 => cases h; exact .inr ⟨rfl, false, rfl⟩
  all_goals cases h

theorem joint_none {ts : List Token} (h : joint ts = .ok none) : ts = [] := by
  unfold joint at h
  split at h
  case h_1 => rfl
  all_goals cases h

theorem joint_or {ts : List Token} {rest : List Lexeme} (hrest : rest ≠ [])
    (h : lexemes ts = .keyword .or :: rest) :
    ∃ next, lexemes next = rest ∧ joint ts = .ok (some (.or, next)) := by
  obtain ⟨pos, next, rfl, hnext⟩ := lexemes_eq_cons h
  cases next with
  | nil => exact absurd hnext.symm hrest
  | cons t next => exact ⟨t :: next, hnext, rfl⟩

theorem joint_and {joined : Bool} {ts : List Token} {rest : List Lexeme} (hrest : OpensTerm rest)
    (h : lexemes ts = optional joined .and ++ rest) :
    ∃ next, lexemes next = rest ∧ joint ts = .ok (some (.and, next)) := by
  cases joined with
  | true =>
      obtain ⟨pos, next, rfl, hnext⟩ := lexemes_eq_cons h
      cases next with
      | nil => exact absurd hnext.symm hrest.ne_nil
      | cons t next => exact ⟨t :: next, hnext, rfl⟩
  | false =>
      -- Without a word between them, only what begins a term joins the next one.
      refine ⟨ts, h, ?_⟩
      rw [← show lexemes ts = rest from h] at hrest
      match ts, hrest with
      | ⟨.literal s, pos⟩ :: r, _ => rfl
      | ⟨.keyword .not, pos⟩ :: r, _ => rfl

theorem chain_last {ts rest : List Token} {c : Comparison} (hterm : term false ts = .ok (c, rest))
    (hjoint : joint rest = .ok none) : chain ts = .ok (.last c) := by
  rw [chain]
  split
  next e he => cases hterm.symm.trans he
  next c' rest' he =>
    cases hterm.symm.trans he
    split <;> simp_all

theorem chain_link {ts rest next : List Token} {c : Comparison} {j : Joint}
    (hterm : term false ts = .ok (c, rest)) (hjoint : joint rest = .ok (some (j, next))) :
    chain ts = (chain next).map (.link c j) := by
  rw [chain]
  split
  next e he => cases hterm.symm.trans he
  next c' rest' he =>
    cases hterm.symm.trans he
    split <;> simp_all

/-- A chain stands for what a derivation stands for. -/
def Chain.Denotes (ch : Chain) (d : ExpressionTree) : Prop :=
  ch.conjunctions = (d.first.conjunction, d.others.map ConjunctionTree.conjunction)

theorem Chain.denotes_last (t : TermTree) :
    (Chain.last t.comparison).Denotes (.single t) := rfl

theorem Chain.Denotes.or {ch : Chain} {d : ExpressionTree} (h : ch.Denotes d) (t : TermTree) :
    (Chain.link t.comparison .or ch).Denotes (.orCons t d) := by
  unfold Denotes
  rw [conjunctions, h]
  rfl

theorem Chain.Denotes.and {ch : Chain} {d : ExpressionTree} (h : ch.Denotes d) (t : TermTree)
    (joined : Bool) : (Chain.link t.comparison .and ch).Denotes (.andCons t joined d) := by
  unfold Denotes
  rw [conjunctions, h]
  rfl

theorem Written.of_lexemes {ts next : List Token} {before : List Lexeme} (h : Written ts)
    (hsplit : lexemes ts = before ++ lexemes next) : Written next := by
  intro t ht hselected
  have hmem : Lexeme.operator .selected ∈ lexemes ts := by
    rw [hsplit]
    exact List.mem_append_right _ (List.mem_map.mpr ⟨t, ht, hselected⟩)
  obtain ⟨u, hu, he⟩ := List.mem_map.mp hmem
  exact h u hu he

theorem comparison_false (c : Comparison) : { c with negated := false ^^ c.negated } = c := by
  simp

/-- What is read as a chain has a derivation as an expression. -/
theorem chain_sound {ts : List Token} {ch : Chain} (hts : Written ts) (h : chain ts = .ok ch) :
    ∃ d : ExpressionTree, d.lexemes = lexemes ts ∧ ch.Denotes d := by
  induction ts using chain.induct generalizing ch with
  | case1 ts e hterm =>
      rw [chain] at h
      split at h <;> simp_all
  | case2 ts c rest hterm e hjoint =>
      rw [chain] at h
      split at h
      next => cases h
      next c' rest' he =>
        cases hterm.symm.trans he
        split at h <;> simp_all
  | case3 ts c rest hterm hjoint =>
      rw [chain_last hterm hjoint] at h
      cases h
      obtain ⟨t, hsplit, rfl⟩ := term_sound hts hterm
      rw [comparison_false]
      refine ⟨.single t, ?_, Chain.denotes_last t⟩
      rw [hsplit, joint_none hjoint, lexemes_nil, List.append_nil, ExpressionTree.lexemes_single]
  | case4 ts c rest hterm j next hjoint ih =>
      rw [chain_link hterm hjoint] at h
      obtain ⟨ch', hnext, rfl⟩ := Traversal.map_eq_ok_iff.mp h
      obtain ⟨t, hsplit, rfl⟩ := term_sound hts hterm
      -- No token without a written form comes up in what is left either.
      have hrest : Written rest := hts.of_lexemes hsplit
      rw [comparison_false]
      rcases joint_sound hjoint with ⟨rfl, hjoined⟩ | ⟨rfl, joined, hjoined⟩
      · have hor : lexemes rest = [.keyword .or] ++ lexemes next := hjoined
        obtain ⟨d, hd, hdenotes⟩ := ih (hrest.of_lexemes hor) hnext
        refine ⟨.orCons t d, ?_, hdenotes.or t⟩
        rw [ExpressionTree.lexemes_orCons, hd, hsplit, hjoined]
      · obtain ⟨d, hd, hdenotes⟩ := ih (hrest.of_lexemes hjoined) hnext
        refine ⟨.andCons t joined d, ?_, hdenotes.and t joined⟩
        rw [ExpressionTree.lexemes_andCons, hd, hsplit, hjoined]

/-- A sentence is read as it is derived. -/
theorem chain_complete {d : ExpressionTree} {ts : List Token} (h : lexemes ts = d.lexemes) :
    ∃ ch, chain ts = .ok ch ∧ ch.Denotes d := by
  induction d using ExpressionTree.cons_induction generalizing ts with
  | single t =>
      rw [ExpressionTree.lexemes_single, ← List.append_nil t.lexemes] at h
      obtain ⟨r, hr, hterm⟩ := term_complete false t noOperatorAhead_nil h
      rw [comparison_false] at hterm
      obtain rfl := lexemes_eq_nil_iff.mp hr
      exact ⟨_, chain_last hterm rfl, Chain.denotes_last t⟩
  | orCons t d ih =>
      rw [ExpressionTree.lexemes_orCons] at h
      obtain ⟨r, hr, hterm⟩ := term_complete false t (noOperatorAhead_keyword _ _) h
      rw [comparison_false] at hterm
      obtain ⟨next, hnext, hjoint⟩ := joint_or d.opensTerm.ne_nil hr
      obtain ⟨ch, hchain, hdenotes⟩ := ih hnext
      refine ⟨_, ?_, hdenotes.or t⟩
      rw [chain_link hterm hjoint, hchain]
      rfl
  | andCons t joined d ih =>
      rw [ExpressionTree.lexemes_andCons] at h
      obtain ⟨r, hr, hterm⟩ := term_complete false t (d.noOperatorAhead joined) h
      rw [comparison_false] at hterm
      obtain ⟨next, hnext, hjoint⟩ := joint_and d.opensTerm hr
      obtain ⟨ch, hchain, hdenotes⟩ := ih hnext
      refine ⟨_, ?_, hdenotes.and t joined⟩
      rw [chain_link hterm hjoint, hchain]
      rfl

/-! ## Conditions -/

/-- A derivation of a text: the lexemes of the text are the sentence that it derives. -/
def Derives (d : ExpressionTree) (text : String) : Prop :=
  ∃ ts, tokenize text = .ok ts ∧ d.lexemes = lexemes ts

theorem parse_cons {text : String} {t : Token} {ts : List Token}
    (h : tokenize text = .ok (t :: ts)) :
    parse text = (chain (t :: ts)).map fun c =>
      ⟨c.conjunctions.1, c.conjunctions.2, text⟩ := by
  unfold parse
  rw [h]

/-- A text is read as the expression of its derivation. -/
theorem parse_eq_ok_iff {text : String} {e : Expression} :
    parse text = .ok e ↔ ∃ d, Derives d text ∧ d.expression text = e := by
  constructor
  · intro h
    cases htokens : tokenize text with
    | error fault =>
        rw [parse, htokens] at h
        cases h
    | ok ts =>
        cases ts with
        | nil =>
            rw [parse, htokens] at h
            cases h
        | cons t ts =>
            rw [parse_cons htokens] at h
            obtain ⟨ch, hchain, rfl⟩ := Traversal.map_eq_ok_iff.mp h
            obtain ⟨d, hd, hdenotes⟩ := chain_sound (tokensFrom_written htokens) hchain
            refine ⟨d, ⟨_, htokens, hd⟩, ?_⟩
            rw [hdenotes]
            rfl
  · rintro ⟨d, ⟨ts, htokens, hd⟩, rfl⟩
    obtain ⟨ch, hchain, hdenotes⟩ := chain_complete hd.symm
    cases ts with
    | nil => exact absurd hd d.opensTerm.ne_nil
    | cons t ts =>
        rw [parse_cons htokens, hchain, Except.map, hdenotes]
        rfl

/-- An expression keeps the text it is read from, which is not empty. -/
theorem source_of_parse {text : String} {e : Expression} (h : parse text = .ok e) :
    e.source = text ∧ text ≠ "" := by
  constructor
  · obtain ⟨d, -, rfl⟩ := parse_eq_ok_iff.mp h
    rfl
  · rintro rfl
    rw [parse, tokenize, String.toList_empty, tokensFrom_nil] at h
    cases h

/-- The lists of comparisons of an expression make the expression. -/
theorem ofLists_terms (e : Expression) :
    Expression.ofLists (e.terms.map Conjunction.comparisons) e.source = .ok e := by
  have hlists : (e.terms.map Conjunction.comparisons).mapM Conjunction.ofList? = some e.terms := by
    induction e.terms with
    | nil => rfl
    | cons c cs ih =>
        rw [List.map_cons, List.mapM_cons, ih]
        rfl
  unfold Expression.ofLists
  split
  next hnil => cases hnil
  next => rw [hlists]; rfl

theorem read_eq_ok_iff {text : String} {outcome question : Option String} {e : Expression} :
    read text outcome question = .ok e ↔ parse text = .ok e := by
  unfold read
  cases parse text <;> simp

theorem read_eq_error_iff {text : String} {outcome question : Option String} {failure : Failure} :
    read text outcome question = .error failure ↔
      ∃ fault, parse text = .error fault ∧
        ⟨.condition fault text outcome, question⟩ = failure := by
  unfold read
  cases parse text <;> simp

/-- **The reader of conditions accepts its grammar.** A text is read as an expression just
when it has a derivation and the expression is that of the derivation; there is one at most.
The conjunctions that are read make an expression again, so none of them is empty. A text
without a derivation is a failure of a condition that carries the text. -/
theorem read_grammar (text : String) (outcome question : Option String) :
    (∀ e, read text outcome question = .ok e ↔ ∃ d, Derives d text ∧ d.expression text = e) ∧
    (∀ d d', Derives d text → Derives d' text → d = d') ∧
    (∀ e, read text outcome question = .ok e →
      Expression.ofLists (e.terms.map Conjunction.comparisons) text = .ok e) ∧
    ((¬ ∃ d, Derives d text) ↔ ∃ fault,
      read text outcome question = .error ⟨.condition fault text outcome, question⟩) ∧
    ∀ failure, read text outcome question = .error failure →
      failure.cause.name = "ConditionParseError" ∧ failure.condition = text ∧
        failure.question = question := by
  have hsound (e : Expression) :
      read text outcome question = .ok e ↔ ∃ d, Derives d text ∧ d.expression text = e := by
    rw [read_eq_ok_iff]
    exact parse_eq_ok_iff
  refine ⟨hsound, ?_, ?_, ?_, ?_⟩
  · rintro d d' ⟨ts, hts, hd⟩ ⟨ts', hts', hd'⟩
    cases hts.symm.trans hts'
    exact ExpressionTree.eq_of_lexemes (hd.trans hd'.symm)
  · intro e he
    obtain ⟨d, -, rfl⟩ := (hsound e).mp he
    exact ofLists_terms (d.expression text)
  · constructor
    · intro hnone
      cases hread : read text outcome question with
      | ok e =>
          obtain ⟨d, hd, -⟩ := (hsound e).mp hread
          exact absurd ⟨d, hd⟩ hnone
      | error failure =>
          obtain ⟨fault, -, rfl⟩ := read_eq_error_iff.mp hread
          exact ⟨fault, rfl⟩
    · rintro ⟨fault, hfault⟩ ⟨d, hd⟩
      have hok := (hsound _).mpr ⟨d, hd, rfl⟩
      cases hok.symm.trans hfault
  · intro failure hfailure
    obtain ⟨fault, -, rfl⟩ := read_eq_error_iff.mp hfailure
    exact ⟨rfl, rfl, rfl⟩

/-- The derivation of a negated term, with a comparison after it and no word between. -/
def negatedTree : ExpressionTree :=
  .andCons ⟨1, "0", none⟩ false (.single ⟨0, "1", some ⟨.equal, nofun, true, "a"⟩⟩)

/-- A sentence is read as its derivation, and a word that joins nothing is a failure. -/
theorem read_grammar_negated :
    Derives negatedTree "not \"0\" \"1\" = nocase \"a\"" ∧
    read "not \"0\" \"1\" = nocase \"a\"" none none =
      .ok (negatedTree.expression "not \"0\" \"1\" = nocase \"a\"") ∧
    ¬ ∃ d, Derives d "\"0\" or" := by
  have hderives : Derives negatedTree "not \"0\" \"1\" = nocase \"a\"" :=
    ⟨[⟨.keyword .not, 0⟩, ⟨.literal "0", 4⟩, ⟨.literal "1", 8⟩, ⟨.operator .equal, 12⟩,
      ⟨.keyword .nocase, 14⟩, ⟨.literal "a", 21⟩], by decide +kernel, rfl⟩
  obtain ⟨hsound, -⟩ := read_grammar "not \"0\" \"1\" = nocase \"a\"" none none
  obtain ⟨-, -, -, hfails, -⟩ := read_grammar "\"0\" or" none none
  refine ⟨hderives, (hsound _).mpr ⟨negatedTree, hderives, rfl⟩, hfails.mpr ⟨.danglingOr, ?_⟩⟩
  decide +kernel

end QuestionBank.Condition
