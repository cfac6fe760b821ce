import QuestionBank.Proofs.Traversal
import QuestionBank.Scoring.Matches

/-!
# Where scores come from

The outcomes that are sorted out are outcomes of the question, and every match scores
as one of them.
-/

namespace QuestionBank.Scoring

open QuestionBank.Condition

/-- All alternatives of the rules have outcomes from a list. -/
def DrawnFrom (outcomes : List Outcome) (rules : List StemRule) : Prop :=
  ∀ rule ∈ rules, ∀ a ∈ rule.alternatives, a.outcome ∈ outcomes

variable {outcomes : List Outcome}

theorem drawnFrom_nil : DrawnFrom outcomes [] := by
  intro rule hrule
  cases hrule

theorem drawnFrom_cons {rule : StemRule} {rules : List StemRule}
    (h : ∀ a ∈ rule.alternatives, a.outcome ∈ outcomes) (hrules : DrawnFrom outcomes rules) :
    DrawnFrom outcomes (rule :: rules) := by
  intro rule' hrule'
  rcases List.mem_cons.mp hrule' with rfl | hrule'
  · exact h
  · exact hrules rule' hrule'

theorem DrawnFrom.addAlternative {o : Outcome} (ho : o ∈ outcomes) (c : Comparison)
    {rules : List StemRule} (h : DrawnFrom outcomes rules) :
    DrawnFrom outcomes (addAlternative c o rules) := by
  induction rules with
  | nil =>
      refine drawnFrom_cons (fun a ha => ?_) h
      rw [List.mem_singleton.mp ha]
      exact ho
  | cons rule rules ih =>
      have hrule := h rule (.head _)
      have hrules : DrawnFrom outcomes rules := fun r hr => h r (.tail _ hr)
      rw [Scoring.addAlternative]
      split
      · split
        · exact h
        · refine drawnFrom_cons (fun a ha => ?_) hrules
          rcases List.mem_append.mp ha with ha | ha
          · exact hrule a ha
          · rw [List.mem_singleton.mp ha]
            exact ho
      · exact drawnFrom_cons hrule (ih hrules)

theorem mem_of_mem_without {place : Option Nat} {o : Outcome} (h : o ∈ without place outcomes) :
    o ∈ outcomes := by
  obtain ⟨⟨o', i⟩, hmem, rfl⟩ := List.mem_map.mp h
  exact (List.mem_zipIdx' (List.mem_filter.mp hmem).1).2 ▸ List.getElem_mem _

/-! ## What holds of all stems -/

section Invariant

/- What holds without rules, and still holds when an alternative of an outcome is added. -/
variable {P : List StemRule → Prop}
  (hadd : ∀ (c : Comparison) (o : Outcome), o ∈ outcomes →
    ∀ rules, P rules → P (addAlternative c o rules))

include hadd

theorem invariant_collect {o : Outcome} (ho : o ∈ outcomes) (e : Expression)
    {rules : List StemRule} (h : P rules) : P (collect o e rules) := by
  unfold collect
  induction affirmed e generalizing rules with
  | nil => exact h
  | cons c cs ih => exact ih (hadd c o ho rules h)

theorem invariant_collectAll {question : Option String} {sources : List Outcome}
    {rules stems : List StemRule} (hsources : ∀ o ∈ sources, o ∈ outcomes) (h : P rules)
    (hok : collectAll question sources rules = .ok stems) : P stems := by
  induction sources generalizing rules with
  | nil =>
      cases hok
      exact h
  | cons o sources ih =>
      rw [collectAll] at hok
      split at hok
      · cases hok
      next e _ =>
        exact ih (fun o' ho' => hsources o' (.tail _ ho'))
          (invariant_collect hadd (hsources o (.head _)) e h) hok

/-- The stems of an outcome set have what holds without stems and is kept by every
alternative that is added. -/
theorem invariant_aggregate {question : Option String} {set : OutcomeSet} (hnil : P [])
    (h : aggregate question outcomes = .ok set) : P set.stems := by
  unfold aggregate at h
  dsimp only at h
  obtain ⟨stems, hstems, rfl⟩ := Traversal.map_eq_ok_iff.mp h
  refine invariant_collectAll hadd ?_ hnil hstems
  intro o ho
  split at ho
  next right hright =>
    rw [List.mem_singleton.mp ho]
    exact mem_of_mem_without (List.mem_of_find?_eq_some hright)
  next => exact mem_of_mem_without (List.mem_filter.mp ho).1

end Invariant

/-- An outcome set speaks of outcomes of the question only. -/
theorem aggregate_drawnFrom {question : Option String} {set : OutcomeSet}
    (h : aggregate question outcomes = .ok set) :
    (∀ o, set.right = some o → o ∈ outcomes) ∧ DrawnFrom outcomes set.stems := by
  constructor
  · intro o ho
    unfold aggregate at h
    obtain ⟨stems, -, rfl⟩ := Traversal.map_eq_ok_iff.mp h
    exact mem_of_mem_without (List.mem_of_find?_eq_some ho)
  · exact invariant_aggregate (fun c o ho rules hrules => hrules.addAlternative ho c)
      drawnFrom_nil h

/-- Every stem has an alternative. -/
def Alternated (rules : List StemRule) : Prop := ∀ rule ∈ rules, rule.alternatives ≠ []

theorem Alternated.addAlternative (c : Comparison) (o : Outcome) {rules : List StemRule}
    (h : Alternated rules) : Alternated (addAlternative c o rules) := by
  induction rules with
  | nil =>
      intro rule hrule
      rw [List.mem_singleton.mp hrule]
      exact List.cons_ne_nil _ _
  | cons rule rules ih =>
      obtain ⟨hrule, hrules⟩ := List.forall_mem_cons.mp h
      rw [Scoring.addAlternative]
      split
      · split
        · exact h
        · exact List.forall_mem_cons.mpr ⟨List.append_ne_nil_of_left_ne_nil hrule _, hrules⟩
      · exact List.forall_mem_cons.mpr ⟨hrule, ih hrules⟩

theorem aggregate_alternated {question : Option String} {set : OutcomeSet}
    (h : aggregate question outcomes = .ok set) : Alternated set.stems :=
  invariant_aggregate (fun c o _ _ hrules => hrules.addAlternative c o) (List.forall_mem_nil _) h

/-- Each match scores as an outcome of the question. -/
theorem score_of_mem_synthesizeMatches {question : Option String} {set : OutcomeSet}
    (h : aggregate question outcomes = .ok set) {choices : List Choice} {m : Match}
    (hm : m ∈ (synthesizeMatches set choices).found) : ∃ o ∈ outcomes, m.score = o.score := by
  obtain ⟨hright, hstems⟩ := aggregate_drawnFrom h
  obtain ⟨rule, hrule, hm⟩ := List.mem_flatMap.mp hm
  obtain ⟨a, ha, rfl⟩ := List.mem_map.mp hm
  cases hr : set.right with
  | none => exact ⟨a.outcome, hstems rule hrule a ha, rfl⟩
  | some right => exact ⟨right, hright right hr, rfl⟩

end QuestionBank.Scoring
