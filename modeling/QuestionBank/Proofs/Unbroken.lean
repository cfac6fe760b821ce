import QuestionBank.Failure
import QuestionBank.Proofs.Traversal

/-!
# Results without a breach

A result is unbroken if it is a value or a failure of one question, but not a breach
that ends a whole run. What is put together from unbroken results is unbroken.
-/

namespace QuestionBank

variable {α β : Type}

/-- A result is not a breach; if it is a value, the value has a property. -/
inductive Unbroken (P : α → Prop) : Except Obstacle α → Prop
  | ok {a : α} (h : P a) : Unbroken P (.ok a)
  | failed (f : Failure) : Unbroken P (.error (.failed f))

variable {P : α → Prop} {Q : β → Prop} {x : Except Obstacle α}

namespace Unbroken

theorem of_ok {a : α} (h : Unbroken P (.ok a)) : P a := by
  cases h
  assumption

theorem of_error {e : Obstacle} (h : Unbroken P (.error e)) :
    Unbroken Q (.error e : Except Obstacle β) := by
  cases h
  exact .failed _

theorem ne_broken (h : Unbroken P x) (b : Breach) : x ≠ .error (.broken b) := by
  rintro rfl
  cases h

theorem map {f : α → β} (h : Unbroken P x) (hf : ∀ a, P a → Q (f a)) : Unbroken Q (x.map f) := by
  cases h with
  | ok ha => exact .ok (hf _ ha)
  | failed f => exact .failed f

end Unbroken

/-- A traversal is unbroken if each of its steps is. -/
theorem unbroken_mapM {f : α → Except Obstacle β} {l : List α}
    (h : ∀ a ∈ l, Unbroken Q (f a)) : Unbroken (fun bs => ∀ b ∈ bs, Q b) (l.mapM f) := by
  induction l with
  | nil => exact .ok (List.forall_mem_nil _)
  | cons a l ih =>
      have ha := h a (.head _)
      have hl := ih fun a' ha' => h a' (.tail _ ha')
      cases hfa : f a with
      | error e =>
          rw [Traversal.mapM_cons_error l hfa]
          rw [hfa] at ha
          exact ha.of_error
      | ok b =>
          rw [Traversal.mapM_cons_ok l hfa]
          rw [hfa] at ha
          refine hl.map fun bs hbs b' hb' => ?_
          rcases List.mem_cons.mp hb' with rfl | hb'
          · exact ha.of_ok
          · exact hbs b' hb'

end QuestionBank
