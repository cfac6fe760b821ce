/-!
# Sets and mappings of code points

Character properties are stored as ranges of code points and letter mappings
as runs. Both are read by a search in order.
-/

namespace QuestionBank.Text

/-- A set of code points, written as closed ranges. -/
abbrev Ranges := List (Nat × Nat)

/-- Membership in a set of code points. -/
def Ranges.contains (r : Ranges) (n : Nat) : Bool :=
  r.any fun range => range.1 ≤ n && n ≤ range.2

/-- Part of a letter mapping: every `step`-th code point from `lo` to `hi`
moves by `shift`. -/
structure Run where
  lo : Nat
  hi : Nat
  step : Nat
  shift : Int

/-- Tells whether a run maps a code point. -/
def Run.covers (r : Run) (n : Nat) : Bool :=
  r.lo ≤ n && n ≤ r.hi && (n - r.lo) % r.step == 0

/-- The image of a character under the first run that covers it; a character
that no run covers stays itself. -/
def mapByRuns (runs : List Run) (c : Char) : Char :=
  match runs.find? (·.covers c.toNat) with
  | some r => Char.ofNat (c.toNat + r.shift).toNat
  | none => c

end QuestionBank.Text
