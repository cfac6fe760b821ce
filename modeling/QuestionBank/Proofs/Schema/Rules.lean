import QuestionBank.Schema.Basic

/-!
# Values that conform to rules

A value conforms to rules if none of them is violated. Each rule has a lemma that says
what it asks of a value, so that conforming is read off the rules one by one, without the
messages that a violation would give.
-/

namespace QuestionBank.Schema

/-- A value violates none of the rules. -/
def Conforms (rules : List Rule) (j : Json) : Prop := checkAll j rules = []

variable {j : Json}

@[simp] theorem conforms_nil : Conforms [] j := rfl

@[simp] theorem conforms_cons {rule : Rule} {rules : List Rule} :
    Conforms (rule :: rules) j ↔ rule.check j = [] ∧ Conforms rules j := by
  rw [Conforms, checkAll, List.append_eq_nil_iff]
  rfl

/-- Nothing is reported just when nothing is violated. -/
theorem violations_eq_nil_iff {rules : List Rule} : violations rules j = [] ↔ Conforms rules j := by
  rw [violations, ← List.length_eq_zero_iff, List.length_mergeSort, List.length_eq_zero_iff]
  rfl

/-! ## Single rules -/

attribute [local simp] Rule.check

theorem here_ne_nil (message : String) : here message ≠ [] := List.cons_ne_nil _ _

@[simp] theorem check_type {types : List ValueType} :
    (Rule.type types).check j = [] ↔ ∃ t ∈ types, t.holds j = true := by
  rw [Rule.check, ← List.any_eq_true]
  split
  next h => simp [h]
  next h => simp [h, here_ne_nil]

theorem check_among {values : List Scalar} :
    (Rule.among values).check j = [] ↔ ∃ v ∈ values, v.equals j = true := by
  rw [Rule.check, ← List.any_eq_true]
  split
  next h => simp [h]
  next h => simp [h, here_ne_nil]

@[simp] theorem check_required {names : List String} {members : List (String × Json)} :
    (Rule.required names).check (.obj members) = [] ↔
      ∀ name ∈ names, (members.lookup name).isSome := by
  rw [Rule.check, List.flatMap_eq_nil_iff]
  refine forall₂_congr fun name _ => ?_
  split
  next h => simp [h]
  next h => simp [h, here_ne_nil]

@[simp] theorem check_atLeast {least : Int} :
    (Rule.atLeast least).check j = [] ↔ numberBelow j least = false := by
  rw [Rule.check]
  split
  next h => simp [h, here_ne_nil]
  next h => simp [h]

@[simp] theorem check_atMost {most : Int} :
    (Rule.atMost most).check j = [] ↔ numberAbove j most = false := by
  rw [Rule.check]
  split
  next h => simp [h, here_ne_nil]
  next h => simp [h]

@[simp] theorem check_nonEmptyText {s : String} :
    Rule.nonEmptyText.check (.str s) = [] ↔ s ≠ "" := by
  by_cases hs : s = ""
  · subst hs
    simp [here_ne_nil]
  · simp [hs]

@[simp] theorem check_nonEmptyList {items : List Json} :
    Rule.nonEmptyList.check (.arr items) = [] ↔ items ≠ [] := by
  cases items with
  | nil => simp [here_ne_nil]
  | cons item items => simp

/-- Issues inside a value are none just when the value has none. -/
theorem map_inside_eq_nil {step : Step} {rules : List Rule} :
    (checkAll j rules).map (Issue.inside step) = [] ↔ Conforms rules j := List.map_eq_nil_iff

@[simp] theorem check_items {rules : List Rule} {items : List Json} :
    (Rule.items rules).check (.arr items) = [] ↔ ∀ item ∈ items, Conforms rules item := by
  simp only [Rule.check, List.flatMap_eq_nil_iff, map_inside_eq_nil]
  constructor
  · intro h item hitem
    obtain ⟨i, hi, rfl⟩ := List.mem_iff_getElem.mp hitem
    exact h (items[i], i) (List.mk_mem_zipIdx_iff_getElem?.mpr (by simp [hi]))
  · rintro h ⟨item, i⟩ hentry
    exact h item (List.fst_mem_of_mem_zipIdx hentry)

/-- A member conforms to the rules for its name. Members without rules may be anything. -/
theorem checkMembers_eq_nil {members : List (String × Json)} {rules : List (String × List Rule)} :
    checkMembers members rules = [] ↔
      ∀ entry ∈ rules, ∀ v, members.lookup entry.1 = some v → Conforms entry.2 v := by
  induction rules with
  | nil => simp [checkMembers]
  | cons entry rules ih =>
      obtain ⟨name, own⟩ := entry
      rw [checkMembers, List.append_eq_nil_iff, ih, List.forall_mem_cons]
      cases members.lookup name with
      | none => simp
      | some v => simp [Conforms]

theorem check_properties {rules : List (String × List Rule)} {members : List (String × Json)} :
    (Rule.properties rules).check (.obj members) = [] ↔
      ∀ entry ∈ rules, ∀ v, members.lookup entry.1 = some v → Conforms entry.2 v := by
  rw [Rule.check]
  exact checkMembers_eq_nil

/-- Rules that depend on a member hold where the member is among the named values. -/
theorem check_whenMember {name : String} {values : List Scalar} {rules : List Rule}
    {members : List (String × Json)} {v : Json} (hv : members.lookup name = some v) :
    (Rule.whenMember name values rules).check (.obj members) = [] ↔
      ((∃ s ∈ values, s.equals v = true) → Conforms rules (.obj members)) := by
  have hget : (Json.obj members).get? name = some v := hv
  rw [Rule.check, hget, ← List.any_eq_true]
  dsimp only
  split
  next h => simp only [h, true_imp_iff]; rfl
  next h => simp [h]

end QuestionBank.Schema
