import QuestionBank.Condition.Token
import Mathlib.Tactic.Common

/-!
# Derivations of conditions

The grammar of conditions is

    expression  := conjunction (OR conjunction)*
    conjunction := term (AND? term)*
    term        := NOT* literal [operator [NOCASE] literal]

A derivation is a tree with one node for each of these. Its leaves, from left to right, are
the sentence that it derives. A sentence has no other derivation.
-/

namespace QuestionBank.Condition

/-- What follows the left operand of a term. -/
structure OperationTree where
  operator : Operator
  isWritten : operator ≠ .selected
  nocase : Bool
  right : String

/-- A term: the number of words `NOT`, the left operand and what may follow it. -/
structure TermTree where
  negations : Nat
  left : String
  operation : Option OperationTree

/-- A conjunction: terms, each but the first with or without the word `AND` in front. -/
structure ConjunctionTree where
  first : TermTree
  others : List (Bool × TermTree)

/-- An expression: conjunctions, with `OR` in front of each but the first. -/
structure ExpressionTree where
  first : ConjunctionTree
  others : List ConjunctionTree

/-! ## Sentences -/

/-- An optional keyword. -/
def optional (isPresent : Bool) (word : Keyword) : List Lexeme :=
  if isPresent then [.keyword word] else []

def OperationTree.lexemes (o : OperationTree) : List Lexeme :=
  .operator o.operator :: optional o.nocase .nocase ++ [.literal o.right]

def TermTree.lexemes (t : TermTree) : List Lexeme :=
  List.replicate t.negations (.keyword .not) ++ .literal t.left ::
    (t.operation.map OperationTree.lexemes).getD []

def ConjunctionTree.lexemes (c : ConjunctionTree) : List Lexeme :=
  c.first.lexemes ++ c.others.flatMap fun entry => optional entry.1 .and ++ entry.2.lexemes

def ExpressionTree.lexemes (d : ExpressionTree) : List Lexeme :=
  d.first.lexemes ++ d.others.flatMap fun c => .keyword .or :: c.lexemes

/-! ## Meanings -/

/-- A term stands for a comparison, which an odd number of `NOT` negates. -/
def TermTree.comparison (t : TermTree) : Comparison :=
  match t.operation with
  | none =>
    { left := t.left, operator := .selected, right := "", negated := t.negations % 2 = 1
      caseSensitive := true }
  | some o =>
    { left := t.left, operator := o.operator, right := o.right, negated := t.negations % 2 = 1
      caseSensitive := !o.nocase }

def ConjunctionTree.conjunction (c : ConjunctionTree) : Conjunction :=
  ⟨c.first.comparison, c.others.map fun entry => entry.2.comparison⟩

/-- The expression of a derivation, with the text that it was read from. -/
def ExpressionTree.expression (d : ExpressionTree) (source : String) : Expression :=
  ⟨d.first.conjunction, d.others.map ConjunctionTree.conjunction, source⟩

/-! ## Terms one after the other -/

namespace ExpressionTree

/-- The derivation of one term. -/
def single (t : TermTree) : ExpressionTree := ⟨⟨t, []⟩, []⟩

/-- A term in front, joined by `OR`. -/
def orCons (t : TermTree) (d : ExpressionTree) : ExpressionTree := ⟨⟨t, []⟩, d.first :: d.others⟩

/-- A term in front, joined with or without `AND`. -/
def andCons (t : TermTree) (joined : Bool) (d : ExpressionTree) : ExpressionTree :=
  ⟨⟨t, (joined, d.first.first) :: d.first.others⟩, d.others⟩

/-- Every derivation is built by putting terms in front. -/
theorem cons_induction {P : ExpressionTree → Prop} (single : ∀ t, P (single t))
    (orCons : ∀ t d, P d → P (orCons t d)) (andCons : ∀ t joined d, P d → P (andCons t joined d))
    (d : ExpressionTree) : P d := by
  -- When the terms of the first conjunction are used up, the next conjunction is the first.
  obtain ⟨⟨t, others⟩, conjunctions⟩ := d
  induction conjunctions generalizing t others with
  | nil =>
      induction others generalizing t with
      | nil => exact single t
      | cons entry others ih => exact andCons t entry.1 ⟨⟨entry.2, others⟩, []⟩ (ih entry.2)
  | cons c conjunctions ihc =>
      induction others generalizing t with
      | nil => exact orCons t ⟨c, conjunctions⟩ (ihc c.first c.others)
      | cons entry others ih =>
          exact andCons t entry.1 ⟨⟨entry.2, others⟩, c :: conjunctions⟩ (ih entry.2)

@[simp] theorem lexemes_single (t : TermTree) : (single t).lexemes = t.lexemes := by
  simp [single, lexemes, ConjunctionTree.lexemes]

@[simp] theorem lexemes_orCons (t : TermTree) (d : ExpressionTree) :
    (orCons t d).lexemes = t.lexemes ++ .keyword .or :: d.lexemes := by
  simp [orCons, lexemes, ConjunctionTree.lexemes]

@[simp] theorem lexemes_andCons (t : TermTree) (joined : Bool) (d : ExpressionTree) :
    (andCons t joined d).lexemes = t.lexemes ++ (optional joined .and ++ d.lexemes) := by
  simp [andCons, lexemes, ConjunctionTree.lexemes]

end ExpressionTree

/-! ## What a sentence begins with -/

/-- Lexemes that a term can begin with come first. -/
def OpensTerm : List Lexeme → Prop
  | .literal _ :: _ => True
  | .keyword .not :: _ => True
  | _ => False

/-- No operator comes first. -/
def NoOperatorAhead (l : List Lexeme) : Prop := ∀ op rest, l ≠ .operator op :: rest

theorem TermTree.lexemes_zero (left : String) (operation : Option OperationTree) :
    (TermTree.mk 0 left operation).lexemes =
      .literal left :: (operation.map OperationTree.lexemes).getD [] := rfl

theorem TermTree.lexemes_succ (n : Nat) (left : String) (operation : Option OperationTree) :
    (TermTree.mk (n + 1) left operation).lexemes =
      .keyword .not :: (TermTree.mk n left operation).lexemes := rfl

theorem TermTree.opensTerm (t : TermTree) (rest : List Lexeme) : OpensTerm (t.lexemes ++ rest) := by
  obtain ⟨n, left, operation⟩ := t
  cases n with
  | zero => exact trivial
  | succ n => exact trivial

theorem ExpressionTree.opensTerm (d : ExpressionTree) : OpensTerm d.lexemes := by
  rw [ExpressionTree.lexemes, ConjunctionTree.lexemes, List.append_assoc]
  exact d.first.first.opensTerm _

theorem OpensTerm.ne_nil {l : List Lexeme} (h : OpensTerm l) : l ≠ [] := by
  rintro rfl
  exact h

theorem OpensTerm.noOperatorAhead {l : List Lexeme} (h : OpensTerm l) : NoOperatorAhead l := by
  rintro op rest rfl
  exact h

theorem noOperatorAhead_nil : NoOperatorAhead [] := nofun

theorem noOperatorAhead_keyword (word : Keyword) (rest : List Lexeme) :
    NoOperatorAhead (.keyword word :: rest) := nofun

/-- What follows a term in a sentence does not begin with an operator. -/
theorem ExpressionTree.noOperatorAhead (joined : Bool) (d : ExpressionTree) :
    NoOperatorAhead (optional joined .and ++ d.lexemes) := by
  cases joined with
  | false => exact d.opensTerm.noOperatorAhead
  | true => exact noOperatorAhead_keyword .and d.lexemes

/-! ## A sentence has one derivation -/

theorem OperationTree.eq_of_lexemes {o o' : OperationTree} {rest rest' : List Lexeme}
    (h : o.lexemes ++ rest = o'.lexemes ++ rest') : o = o' ∧ rest = rest' := by
  obtain ⟨op, hop, nocase, right⟩ := o
  obtain ⟨op', hop', nocase', right'⟩ := o'
  cases nocase <;> cases nocase' <;> simp_all [OperationTree.lexemes, optional]

/-- What a term derives ends in one place if no operator follows. -/
theorem TermTree.eq_of_lexemes {t t' : TermTree} {rest rest' : List Lexeme}
    (h : t.lexemes ++ rest = t'.lexemes ++ rest') (hrest : NoOperatorAhead rest)
    (hrest' : NoOperatorAhead rest') : t = t' ∧ rest = rest' := by
  obtain ⟨n, left, operation⟩ := t
  obtain ⟨n', left', operation'⟩ := t'
  induction n generalizing n' with
  | zero =>
      cases n' with
      | succ n' => cases h
      | zero =>
          obtain ⟨hleft, htail⟩ := List.cons.inj h
          cases hleft
          -- One operation and none would leave its operator to what follows the term.
          cases operation with
          | none =>
              cases operation' with
              | none => exact ⟨rfl, htail⟩
              | some o' => exact absurd htail (hrest _ _)
          | some o =>
              cases operation' with
              | none => exact absurd htail.symm (hrest' _ _)
              | some o' =>
                  obtain ⟨rfl, rfl⟩ := OperationTree.eq_of_lexemes htail
                  exact ⟨rfl, rfl⟩
  | succ n ih =>
      cases n' with
      | zero => cases h
      | succ n' =>
          obtain ⟨-, htail⟩ := List.cons.inj h
          obtain ⟨hterm, hrests⟩ := ih n' htail
          cases hterm
          exact ⟨rfl, hrests⟩

/-- Sentences joined by different words differ. -/
theorem ExpressionTree.joined_inj {joined joined' : Bool} {d d' : ExpressionTree}
    (h : optional joined .and ++ d.lexemes = optional joined' .and ++ d'.lexemes) :
    joined = joined' ∧ d.lexemes = d'.lexemes := by
  cases joined with
  | false =>
      cases joined' with
      | false => exact ⟨rfl, h⟩
      | true =>
          have hopens := d.opensTerm
          rw [show d.lexemes = .keyword .and :: d'.lexemes from h] at hopens
          exact hopens.elim
  | true =>
      cases joined' with
      | true => exact ⟨rfl, (List.cons.inj h).2⟩
      | false =>
          have hopens := d'.opensTerm
          rw [← show .keyword .and :: d.lexemes = d'.lexemes from h] at hopens
          exact hopens.elim

theorem ExpressionTree.or_ne_joined {joined : Bool} {d d' : ExpressionTree} :
    .keyword .or :: d.lexemes ≠ optional joined .and ++ d'.lexemes := by
  intro h
  cases joined with
  | true => cases (List.cons.inj h).1
  | false =>
      have hopens := d'.opensTerm
      rw [← show .keyword .or :: d.lexemes = d'.lexemes from h] at hopens
      exact hopens.elim

theorem ExpressionTree.joined_ne_nil {joined : Bool} {d : ExpressionTree} :
    optional joined .and ++ d.lexemes ≠ [] := by
  intro h
  exact d.opensTerm.ne_nil (List.append_eq_nil_iff.mp h).2

/-- A sentence has one derivation. -/
theorem ExpressionTree.eq_of_lexemes {d d' : ExpressionTree} (h : d.lexemes = d'.lexemes) :
    d = d' := by
  -- The first terms agree. What is behind them tells the three forms apart: nothing, the word
  -- `OR`, or a sentence with or without the word `AND`.
  induction d using ExpressionTree.cons_induction generalizing d' with
  | single t =>
      rw [lexemes_single, ← List.append_nil t.lexemes] at h
      cases d' using ExpressionTree.cons_induction with
      | single t' =>
          rw [lexemes_single, ← List.append_nil t'.lexemes] at h
          obtain ⟨rfl, -⟩ := TermTree.eq_of_lexemes h noOperatorAhead_nil noOperatorAhead_nil
          rfl
      | orCons t' d' =>
          rw [lexemes_orCons] at h
          obtain ⟨-, hrest⟩ :=
            TermTree.eq_of_lexemes h noOperatorAhead_nil (noOperatorAhead_keyword _ _)
          cases hrest
      | andCons t' joined' d' =>
          rw [lexemes_andCons] at h
          obtain ⟨-, hrest⟩ :=
            TermTree.eq_of_lexemes h noOperatorAhead_nil (d'.noOperatorAhead joined')
          exact absurd hrest.symm joined_ne_nil
  | orCons t d ih =>
      rw [lexemes_orCons] at h
      cases d' using ExpressionTree.cons_induction with
      | single t' =>
          rw [lexemes_single, ← List.append_nil t'.lexemes] at h
          obtain ⟨-, hrest⟩ :=
            TermTree.eq_of_lexemes h (noOperatorAhead_keyword _ _) noOperatorAhead_nil
          cases hrest
      | orCons t' d' =>
          rw [lexemes_orCons] at h
          obtain ⟨rfl, hrest⟩ := TermTree.eq_of_lexemes h (noOperatorAhead_keyword _ _)
            (noOperatorAhead_keyword _ _)
          obtain rfl := ih (List.cons.inj hrest).2
          rfl
      | andCons t' joined' d' =>
          rw [lexemes_andCons] at h
          obtain ⟨-, hrest⟩ := TermTree.eq_of_lexemes h (noOperatorAhead_keyword _ _)
            (d'.noOperatorAhead joined')
          exact absurd hrest or_ne_joined
  | andCons t joined d ih =>
      rw [lexemes_andCons] at h
      cases d' using ExpressionTree.cons_induction with
      | single t' =>
          rw [lexemes_single, ← List.append_nil t'.lexemes] at h
          obtain ⟨-, hrest⟩ :=
            TermTree.eq_of_lexemes h (d.noOperatorAhead joined) noOperatorAhead_nil
          exact absurd hrest joined_ne_nil
      | orCons t' d' =>
          rw [lexemes_orCons] at h
          obtain ⟨-, hrest⟩ := TermTree.eq_of_lexemes h (d.noOperatorAhead joined)
            (noOperatorAhead_keyword _ _)
          exact absurd hrest.symm or_ne_joined
      | andCons t' joined' d' =>
          rw [lexemes_andCons] at h
          obtain ⟨rfl, hrest⟩ := TermTree.eq_of_lexemes h (d.noOperatorAhead joined)
            (d'.noOperatorAhead joined')
          obtain ⟨rfl, hd⟩ := joined_inj hrest
          obtain rfl := ih hd
          rfl

end QuestionBank.Condition
