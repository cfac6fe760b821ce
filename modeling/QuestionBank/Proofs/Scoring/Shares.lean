import QuestionBank.Proofs.Number.Range
import QuestionBank.Proofs.Unbroken

/-!
# Shares of credit

A score that is read is in the range of floating-point numbers. So the quotient of two
scores is, a share of credit is at most one, and the score that a share gives is in the
range again: no arithmetic on scores overflows.
-/

namespace QuestionBank.Scoring

open QuestionBank.Condition QuestionBank.Text

/-- A finite number that is at most one either way. -/
def IsShare (x : Binary64) : Prop :=
  ∃ negative e f, x = .finite negative e f ∧ Binary64.units e f ≤ Binary64.unitsPerOne

/-! ## Quotients -/

theorem natAbs_num_mkRat_le (score : Int) {best : Nat} (hbest : 0 < best) :
    (mkRat score best).num.natAbs ≤ score.natAbs * (mkRat score best).den := by
  have hcross : (mkRat score best).num * best = score * (mkRat score best).den :=
    (Rat.mkRat_eq_iff (Rat.den_nz _) hbest.ne').mp (Rat.mkRat_self _)
  have habs : (mkRat score best).num.natAbs * best =
      score.natAbs * (mkRat score best).den := by
    rw [← Int.natAbs_natCast best, ← Int.natAbs_mul, Int.natAbs_natCast, hcross, Int.natAbs_mul,
      Int.natAbs_natCast]
  exact habs ▸ Nat.le_mul_of_pos_right _ hbest

theorem natAbs_num_limitShare_le (q : Rat) : (limitShare q).num.natAbs ≤ (limitShare q).den := by
  have hlow : -1 ≤ limitShare q := by
    unfold limitShare
    split
    · exact Rat.le_refl
    next hlow =>
      split
      · decide
      · exact Rat.not_lt.mp hlow
  have hhigh : limitShare q ≤ 1 := by
    unfold limitShare
    split
    · decide
    · split
      · exact Rat.le_refl
      next hhigh => exact Rat.not_lt.mp hhigh
  rw [Rat.le_iff] at hlow hhigh
  simp at hlow hhigh
  omega

theorem ofRat_finite {q : Rat} (h : q.num.natAbs ≤ Binary64.greatest * q.den) :
    ∃ negative e f, Binary64.ofRat q = .finite negative e f ∧
      (q.num.natAbs ≤ q.den → Binary64.units e f ≤ Binary64.unitsPerOne) :=
  ⟨_, Binary64.ofFraction_finite _ q.den_pos h⟩

theorem isShare_one : IsShare .one := by
  refine ⟨false, 1023, 0, rfl, ?_⟩
  decide

/-- The share of an outcome whose score is in the range is computed. -/
theorem shareOf_ok {o : Outcome} (set : OutcomeSet) {best : Int} (hscore : InRange o.score)
    (hbest : 0 < best) : ∃ x, shareOf o set best = .ok x ∧ IsShare x := by
  unfold shareOf
  split
  · exact ⟨_, rfl, isShare_one⟩
  · dsimp only
    have hquotient := (natAbs_num_mkRat_le o.score (Int.lt_toNat.mpr hbest)).trans
      (Nat.mul_le_mul_right _ hscore)
    obtain ⟨negative, e, f, he, -⟩ := ofRat_finite hquotient
    rw [he, if_neg (by simp)]
    have hlimit := natAbs_num_limitShare_le (mkRat o.score best.toNat)
    obtain ⟨negative, e, f, he, hunits⟩ := ofRat_finite
      (hlimit.trans (Nat.le_mul_of_pos_left _ Binary64.greatest_pos))
    exact ⟨_, rfl, negative, e, f, he, hunits hlimit⟩

theorem unbroken_shareOf {o : Outcome} (set : OutcomeSet) {best : Int} (hscore : InRange o.score)
    (hbest : 0 < best) : Unbroken IsShare (shareOf o set best) := by
  obtain ⟨x, hx, hshare⟩ := shareOf_ok set hscore hbest
  rw [hx]
  exact .ok hshare

/-! ## Best scores -/

theorem inRange_foldl_max {s : Int} {scores : List Int} (hs : InRange s)
    (h : ∀ score ∈ scores, InRange score) : InRange (scores.foldl max s) := by
  induction scores generalizing s with
  | nil => exact hs
  | cons score scores ih =>
      obtain ⟨hscore, hscores⟩ := List.forall_mem_cons.mp h
      exact ih (inRange_max hs hscore) hscores

/-- The alternatives of a stem score in the range. -/
def StemRule.InRange (rule : StemRule) : Prop :=
  ∀ a ∈ rule.alternatives, Scoring.InRange a.outcome.score

variable {set : OutcomeSet} {rule : StemRule} {best : Int} {question : Option String}

theorem inRange_bestScore (hright : ∀ o, set.right = some o → InRange o.score)
    (hrule : rule.InRange) : InRange (bestScore rule set) := by
  unfold bestScore
  split
  next right hr => exact hright right hr
  next =>
    have hscores : ∀ score ∈ rule.alternatives.map fun a => a.outcome.score, InRange score := by
      intro score hscore
      obtain ⟨a, ha, rfl⟩ := List.mem_map.mp hscore
      exact hrule a ha
    split
    · exact inRange_zero
    next s r hs =>
      rw [hs] at hscores
      exact inRange_foldl_max (hscores s (.head _)) fun score h => hscores score (.tail _ h)

/-! ## Numeric answers -/

theorem unbroken_operandOf (question : Option String) (a : Alternative) :
    Unbroken (fun _ => True) (operandOf question a) := by
  unfold operandOf
  split
  · exact .ok trivial
  · exact .failed _

theorem inRange_setBound {o : Outcome} (ho : InRange o.score) (isLower : Bool) (x : Binary64)
    {bounds : List Bounds} (h : ∀ b ∈ bounds, InRange b.outcome.score) :
    ∀ b ∈ setBound o isLower x bounds, InRange b.outcome.score := by
  induction bounds with
  | nil =>
      intro b hb
      rw [List.mem_singleton.mp hb]
      cases isLower <;> exact ho
  | cons b bounds ih =>
      have hbounds := ih fun b' hb' => h b' (.tail _ hb')
      intro b' hb'
      rw [setBound] at hb'
      split at hb'
      · rcases List.mem_cons.mp hb' with rfl | hb'
        · cases isLower <;> exact ho
        · exact h b' (.tail _ hb')
      · rcases List.mem_cons.mp hb' with rfl | hb'
        · exact h b' (.head _)
        · exact hbounds b' hb'

theorem unbroken_sortAlternatives (question : Option String) (set : OutcomeSet)
    (hbest : 0 < best) {alternatives : List Alternative} {bounds : List Bounds}
    (h : ∀ a ∈ alternatives, InRange a.outcome.score)
    (hbounds : ∀ b ∈ bounds, InRange b.outcome.score) :
    Unbroken (fun r => (∀ a ∈ r.1, IsShare a.fraction) ∧ ∀ b ∈ r.2, InRange b.outcome.score)
      (sortAlternatives question set best alternatives bounds) := by
  induction alternatives generalizing bounds with
  | nil => exact .ok ⟨List.forall_mem_nil _, hbounds⟩
  | cons a alternatives ih =>
      obtain ⟨ha, hrest⟩ := List.forall_mem_cons.mp h
      have hoperand := unbroken_operandOf question a
      rw [sortAlternatives]
      split
      next e he =>
        rw [he] at hoperand
        exact hoperand.of_error
      next x _ =>
        dsimp only
        split
        · exact ih hrest (inRange_setBound ha _ x hbounds)
        · obtain ⟨fraction, hfraction, hshare⟩ := shareOf_ok set ha hbest
          rw [hfraction]
          refine (ih hrest hbounds).map fun r hr => ⟨?_, hr.2⟩
          intro answer hanswer
          rcases List.mem_cons.mp hanswer with rfl | hanswer
          · exact hshare
          · exact hr.1 answer hanswer

theorem unbroken_rangeAnswer (hbest : 0 < best) {b : Bounds} (h : InRange b.outcome.score) :
    Unbroken (fun a => IsShare a.fraction) (rangeAnswer question set best b) := by
  unfold rangeAnswer
  split
  · exact (unbroken_shareOf set h hbest).map fun _ hshare => hshare
  · exact .failed _

/-- Numeric answers are computed without a breach, and their shares are at most one. -/
theorem unbroken_numericAnswers (question : Option String) (set : OutcomeSet)
    (hrule : rule.InRange) :
    Unbroken (fun r => ∀ a ∈ r.1, IsShare a.fraction) (numericAnswers question rule set) := by
  unfold numericAnswers
  dsimp only
  split
  · exact .failed _
  next hbest =>
    have hpos : 0 < bestScore rule set := not_le.mp hbest
    have hsorted := unbroken_sortAlternatives question set hpos hrule (List.forall_mem_nil _)
    split
    next e he =>
      rw [he] at hsorted
      exact hsorted.of_error
    next answers bounds he =>
      rw [he] at hsorted
      have hsorted := hsorted.of_ok
      refine (unbroken_mapM fun b hb => unbroken_rangeAnswer hpos (hsorted.2 b hb)).map
        fun ranges hranges a ha => ?_
      rcases List.mem_append.mp ha with ha | ha
      · exact hsorted.1 a ha
      · exact hranges a ha

/-! ## Shared scores -/

theorem mul_finite {x y : Binary64} {a b : Bool} {ea eb : Fin 2047} {fa fb : BitVec 52}
    (hx : x = .finite a ea fa) (hy : y = .finite b eb fb) :
    x.mul y = .ofFraction (a != b) (Binary64.units ea fa * Binary64.units eb fb)
      (Binary64.unitsPerOne * Binary64.unitsPerOne) := by
  rw [hx, hy, Binary64.mul]

theorem roundedShare_ok {x y : Binary64} {b c : Bool} {eb ec : Fin 2047} {fb fc : BitVec 52}
    (hy : y = .finite b eb fb) (hz : x.mul y = .finite c ec fc) :
    ∃ score, roundedShare x y = .ok score := by
  subst hy
  rw [roundedShare, hz, Binary64.round]
  · exact ⟨_, rfl⟩
  · rintro negative ⟨⟩

/-- A share of a score in the range is a score. -/
theorem sharedScore_ok {fraction : Binary64} (hfraction : IsShare fraction) {best : Int}
    (hbest : InRange best) : ∃ score, sharedScore fraction best = .ok score := by
  obtain ⟨a, ea, fa, hx, hunits⟩ := hfraction
  obtain ⟨eb, fb, hy, -⟩ := Binary64.ofFraction_finite (best < 0) Nat.one_pos
    (hbest.trans_eq (Nat.mul_one _).symm)
  have hbound : Binary64.units ea fa * Binary64.units eb fb ≤
      Binary64.greatest * (Binary64.unitsPerOne * Binary64.unitsPerOne) :=
    calc Binary64.units ea fa * Binary64.units eb fb
        ≤ Binary64.unitsPerOne * (Binary64.greatest * Binary64.unitsPerOne) :=
          Nat.mul_le_mul hunits (Binary64.units_le eb fb)
      _ = Binary64.greatest * (Binary64.unitsPerOne * Binary64.unitsPerOne) :=
          Nat.mul_left_comm ..
  obtain ⟨e, f, hz, -⟩ := Binary64.ofFraction_finite (a != decide (best < 0))
    (Nat.mul_pos Binary64.unitsPerOne_pos Binary64.unitsPerOne_pos) hbound
  have hproduct := mul_finite hx hy
  exact roundedShare_ok hy (hproduct.trans hz)

/-- The matches of the numeric answers of a stem are computed without a breach. -/
theorem unbroken_numericMatches (q : SourceQuestion)
    (hright : ∀ o, set.right = some o → InRange o.score) (hrule : rule.InRange) :
    Unbroken (fun _ => True) (numericMatches q set rule) := by
  have hanswers := unbroken_numericAnswers (some q.id) set hrule
  unfold numericMatches
  split
  next e he =>
    rw [he] at hanswers
    exact hanswers.of_error
  next answers ranged he =>
    rw [he] at hanswers
    have hshares : ∀ a ∈ answers, IsShare a.fraction := hanswers.of_ok
    have hmatch : ∀ a ∈ answers, ∃ m,
        numericMatch rule.stem (bestScore rule set) a = .ok m := fun a ha => by
      obtain ⟨score, hscore⟩ := sharedScore_ok (hshares a ha) (inRange_bestScore hright hrule)
      exact ⟨_, Traversal.map_eq_ok_iff.mpr ⟨score, hscore, rfl⟩⟩
    obtain ⟨found, hfound⟩ := Traversal.exists_forall₂ hmatch
    rw [Traversal.mapM_eq_ok_iff.mpr hfound]
    exact .ok trivial

end QuestionBank.Scoring
