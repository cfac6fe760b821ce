import QuestionBank.Condition.Token

/-!
# Conditions read from text

An expression is a list of conjunctions with `OR` between them, a conjunction a
list of terms with or without `AND` between them. A term is a literal, or two
literals around an operator that `NOCASE` may follow; any number of `NOT` may
stand before it, and an odd number negates it.
-/

namespace QuestionBank.Condition

open QuestionBank.Text

/-- The place of the next token. -/
def place : List Token → Option Nat
  | [] => none
  | t :: _ => some t.pos

/-- Reads a literal. -/
def literal : List Token → Except Fault (String × List Token)
  | ⟨.literal s, _⟩ :: r => .ok (s, r)
  | ts => .error (.expectedLiteral (place ts))

/-- Reads what follows the left operand of a term. -/
def operation (negated : Bool) (left : String) :
    List Token → Except Fault (Comparison × List Token)
  | ⟨.operator op, _⟩ :: ⟨.keyword .nocase, _⟩ :: r =>
    (literal r).map fun (right, rest) => (⟨left, op, right, negated, false⟩, rest)
  | ⟨.operator op, _⟩ :: r =>
    (literal r).map fun (right, rest) => (⟨left, op, right, negated, true⟩, rest)
  | ts => .ok (⟨left, .selected, "", negated, true⟩, ts)

/-- Reads a term; `negated` tells whether the words `NOT` before it negate it. -/
def term (negated : Bool) : List Token → Except Fault (Comparison × List Token)
  | ⟨.keyword .not, _⟩ :: r => term (!negated) r
  | ⟨.literal left, _⟩ :: r => operation negated left r
  | ts => .error (.expectedLiteral (place ts))

theorem literal_length {ts rest : List Token} {s : String} (h : literal ts = .ok (s, rest)) :
    rest.length < ts.length := by
  unfold literal at h
  split at h
  · cases h; simp
  · cases h

theorem operation_length {negated : Bool} {left : String} {ts rest : List Token} {c : Comparison}
    (h : operation negated left ts = .ok (c, rest)) : rest.length ≤ ts.length := by
  unfold operation at h
  split at h
  · rename_i r
    cases hl : literal r with
    | error e => simp [hl, Except.map] at h
    | ok p =>
      simp only [hl, Except.map, Except.ok.injEq, Prod.mk.injEq] at h
      have := literal_length hl
      simp only [List.length_cons]
      rw [← h.2]; omega
  · rename_i r _
    cases hl : literal r with
    | error e => simp [hl, Except.map] at h
    | ok p =>
      simp only [hl, Except.map, Except.ok.injEq, Prod.mk.injEq] at h
      have := literal_length hl
      simp only [List.length_cons]
      rw [← h.2]; omega
  · cases h; exact Nat.le_refl _

theorem term_length {negated : Bool} {ts rest : List Token} {c : Comparison}
    (h : term negated ts = .ok (c, rest)) : rest.length < ts.length := by
  induction ts generalizing negated with
  | nil => simp [term] at h
  | cons t r ih =>
    obtain ⟨l, pos⟩ := t
    cases l with
    | literal left =>
      have := operation_length (show operation negated left r = .ok (c, rest) from h)
      simp only [List.length_cons]; omega
    | operator op => simp [term] at h
    | keyword w =>
      cases w with
      | not =>
        have := ih (show term (!negated) r = .ok (c, rest) from h)
        simp only [List.length_cons]; omega
      | _ => simp [term] at h

/-- How a term is joined to the next one. -/
inductive Joint where
  | or
  | and
  deriving DecidableEq

/-- Reads what joins two terms. A term that follows without a word is joined as by
`AND`. -/
def joint : List Token → Except Fault (Option (Joint × List Token))
  | [] => .ok none
  | [⟨.keyword .or, _⟩] => .error .danglingOr
  | [⟨.keyword .and, _⟩] => .error .danglingAnd
  | ⟨.keyword .or, _⟩ :: r => .ok (some (.or, r))
  | ⟨.keyword .and, _⟩ :: r => .ok (some (.and, r))
  | ⟨.literal s, pos⟩ :: r => .ok (some (.and, ⟨.literal s, pos⟩ :: r))
  | ⟨.keyword .not, pos⟩ :: r => .ok (some (.and, ⟨.keyword .not, pos⟩ :: r))
  | t :: _ => .error (.unexpectedToken t.lexeme.text t.pos)

theorem joint_length {ts rest : List Token} {j : Joint} (h : joint ts = .ok (some (j, rest))) :
    rest.length ≤ ts.length := by
  unfold joint at h
  split at h <;> simp_all

/-- Terms with what joins them. -/
inductive Chain where
  | last (c : Comparison)
  | link (c : Comparison) (j : Joint) (rest : Chain)

/-- The conjunctions of a chain: it is cut where `OR` joins. -/
def Chain.conjunctions : Chain → Conjunction × List Conjunction
  | last c => (⟨c, []⟩, [])
  | link c .and rest =>
    let (conjunction, others) := rest.conjunctions
    (⟨c, conjunction.comparisons⟩, others)
  | link c .or rest =>
    let (conjunction, others) := rest.conjunctions
    (⟨c, []⟩, conjunction :: others)

/-- Reads terms up to the end of the tokens. -/
def chain (ts : List Token) : Except Fault Chain :=
  match _h : term false ts with
  | .error e => .error e
  | .ok (c, rest) =>
    match _h' : joint rest with
    | .error e => .error e
    | .ok none => .ok (.last c)
    | .ok (some (j, next)) => (chain next).map (.link c j)
termination_by ts.length
decreasing_by
  have := term_length _h
  have := joint_length _h'
  omega

/-- Reads a condition. -/
def parse (text : String) : Except Fault Expression :=
  match tokenize text with
  | .error e => .error e
  | .ok [] => .error .empty
  | .ok ts =>
    (chain ts).map fun c =>
      let (first, others) := c.conjunctions
      ⟨first, others, text⟩

/-- Tells whether a text is a lone reference to a choice: shorter than any full
expression, or a whole number with or without quotes. -/
def isBareReference (text : String) : Bool :=
  let s := stripEnd (stripStart text.toList)
  if s.length < 4 then true
  else
    let s := if s.head? = some '"' then s.drop 1 else s
    let digits := s.takeWhile isDecimal
    let rest := s.drop digits.length
    !digits.isEmpty && (rest.isEmpty || rest = ['"'])

end QuestionBank.Condition
