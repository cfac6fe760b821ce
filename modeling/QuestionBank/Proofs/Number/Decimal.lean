import QuestionBank.Number.Reader
import Mathlib.Algebra.Order.Ring.Nat
import Mathlib.Data.List.Basic

/-!
# Decimal digits

The written form of a natural number is not empty, has digits only, reads back as
the number, and is as long as the number is large.
-/

namespace QuestionBank.Number

open QuestionBank.Text

theorem digitChar_isDigit : ∀ d < 10, (Nat.digitChar d).isDigit = true := by decide

theorem decimalValue_digitChar : ∀ d < 10, decimalValue? (Nat.digitChar d) = some d := by decide

theorem decimalDigits_of_lt {n : Nat} (h : n < 10) : decimalDigits n = [Nat.digitChar n] := by
  rw [decimalDigits, if_pos h]

theorem decimalDigits_of_le {n : Nat} (h : 10 ≤ n) :
    decimalDigits n = decimalDigits (n / 10) ++ [Nat.digitChar (n % 10)] := by
  rw [decimalDigits, if_neg (Nat.not_lt.mpr h)]

theorem decimalDigits_ne_nil (n : Nat) : decimalDigits n ≠ [] := by
  rw [decimalDigits]
  split <;> simp

theorem isDigit_of_mem_decimalDigits (n : Nat) : ∀ c ∈ decimalDigits n, c.isDigit = true := by
  induction n using decimalDigits.induct with
  | case1 n h =>
      rw [decimalDigits_of_lt h]
      simpa using digitChar_isDigit n h
  | case2 n h ih =>
      rw [decimalDigits_of_le (Nat.not_lt.mp h)]
      intro c hc
      rcases List.mem_append.mp hc with hc | hc
      · exact ih c hc
      · rw [List.mem_singleton.mp hc]
        exact digitChar_isDigit _ (Nat.mod_lt _ (by decide))

theorem isDecimal_of_isDigit {c : Char} (h : c.isDigit = true) : isDecimal c = true := by
  simp [isDecimal, decimalValue?, h]

theorem isDecimal_of_mem_decimalDigits {n : Nat} {c : Char} (h : c ∈ decimalDigits n) :
    isDecimal c = true :=
  isDecimal_of_isDigit (isDigit_of_mem_decimalDigits n c h)

theorem ofDigits_append_singleton (ds : List Nat) (d : Nat) :
    ofDigits (ds ++ [d]) = 10 * ofDigits ds + d := by
  simp [ofDigits]

/-- Digits read back as the number that was written. -/
theorem ofDigits_decimalDigits (n : Nat) :
    ofDigits ((decimalDigits n).filterMap decimalValue?) = n := by
  induction n using decimalDigits.induct with
  | case1 n h =>
      rw [decimalDigits_of_lt h]
      simp [decimalValue_digitChar n h, ofDigits]
  | case2 n h ih =>
      have hd := decimalValue_digitChar (n % 10) (Nat.mod_lt _ (by decide))
      rw [decimalDigits_of_le (Nat.not_lt.mp h), List.filterMap_append,
        List.filterMap_cons_some hd, List.filterMap_nil, ofDigits_append_singleton, ih]
      exact Nat.div_add_mod n 10

/-- A number has at most `k` digits just when it is less than the power of ten with
`k` zeros. -/
theorem length_decimalDigits_le {k : Nat} (hk : 0 < k) (n : Nat) :
    (decimalDigits n).length ≤ k ↔ n < 10 ^ k := by
  induction n using decimalDigits.induct generalizing k with
  | case1 n h =>
      have hp : 10 ^ 1 ≤ 10 ^ k := Nat.pow_le_pow_right (by decide) hk
      rw [decimalDigits_of_lt h, List.length_singleton]
      omega
  | case2 n h ih =>
      rw [decimalDigits_of_le (Nat.not_lt.mp h), List.length_append, List.length_singleton]
      obtain rfl | ⟨j, hj, rfl⟩ : k = 1 ∨ ∃ j, 0 < j ∧ k = j + 1 := by
        rcases k with _ | _ | j
        · omega
        · exact .inl rfl
        · exact .inr ⟨j + 1, by omega, rfl⟩
      · have := List.length_pos_of_ne_nil (decimalDigits_ne_nil (n / 10))
        omega
      · rw [Nat.add_le_add_iff_right, ih hj, Nat.div_lt_iff_lt_mul (by decide), Nat.pow_succ]

theorem showInt_toList {i : Int} (h : 0 ≤ i) : (showInt i).toList = decimalDigits i.toNat := by
  have hn : i.natAbs = i.toNat := by omega
  rw [showInt, if_neg (by omega), hn, String.toList_ofList]

/-- Natural numbers are told apart by their written forms. -/
theorem showInt_injective {i j : Nat} (h : showInt i = showInt j) : i = j := by
  have hdigits : decimalDigits i = decimalDigits j := by
    rw [← Int.toNat_natCast i, ← Int.toNat_natCast j, ← showInt_toList (Int.natCast_nonneg i),
      ← showInt_toList (Int.natCast_nonneg j), h]
  rw [← ofDigits_decimalDigits i, ← ofDigits_decimalDigits j, hdigits]

end QuestionBank.Number
