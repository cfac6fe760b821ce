import Mathlib.Data.List.Perm.Lattice
import QuestionBank.Proofs.Condition.Word
import QuestionBank.Proofs.Scoring.Mirrored

/-!
# Outcomes in another order

If no two outcomes offer the same answer for a stem, letter case left aside, nothing that they
offer is dropped, and the matches are what they offer, sorted by stems. So in another order they
have the same matches and leave the same choices over.

There is one way in which the order does matter. Of several outcomes for all other answers that
score nothing, the last one is the catch-all outcome. If one of them is named like the right
outcome and another one comes to stand behind it, it is taken for the right outcome, and its
condition is refused.
-/

namespace QuestionBank.Scoring

open QuestionBank.Condition QuestionBank.Text

/-! ## Sorting by keys -/

section Keys

variable {α β : Type} [DecidableEq β] (key : α → β)

/-- A list that is sorted by keys has the elements of these keys. -/
theorem flatMap_filter_perm {keys : List β} (h : keys.Nodup) (l : List α) :
    (keys.flatMap fun k => l.filter fun a => key a == k).Perm
      (l.filter fun a => key a ∈ keys) := by
  induction keys with
  | nil => simp
  | cons k keys ih =>
      obtain ⟨hk, hkeys⟩ := List.nodup_cons.mp h
      have hown : (l.filter fun a => key a == k) =
          (l.filter fun a => key a ∈ k :: keys).filter fun a => key a == k := by
        rw [List.filter_filter]
        apply List.filter_congr
        intro a _
        by_cases ha : key a = k <;> simp [ha]
      have hrest : (l.filter fun a => key a ∈ keys) =
          (l.filter fun a => key a ∈ k :: keys).filter fun a => !(key a == k) := by
        rw [List.filter_filter]
        apply List.filter_congr
        intro a _
        by_cases ha : key a = k <;> simp [ha, hk]
      rw [List.flatMap_cons]
      refine ((ih hkeys).append_left _).trans ?_
      rw [hown, hrest]
      exact List.filter_append_perm _ _

end Keys

/-! ## What outcomes offer -/

variable {question : Option String} {outcomes outcomes' : List Outcome} {set : OutcomeSet}

/-- What an outcome offers if its condition is read. -/
def offersOf (question : Option String) (o : Outcome) : List Alternative :=
  match conditionOf question o with
  | .ok e => offers o e
  | .error _ => []

/-- What the numbered outcomes that take part in scoring offer. -/
def numberedOffers (question : Option String) (outcomes : List Outcome) : List Alternative :=
  ((scoringOutcomes outcomes).filter Outcome.isNumbered).flatMap (offersOf question)

theorem flatten_zipWith_offers {sources : List Outcome} {es : List Expression}
    (h : List.Forall₂ (fun o e => conditionOf question o = .ok e) sources es) :
    (List.zipWith offers sources es).flatten = sources.flatMap (offersOf question) := by
  induction h with
  | nil => rfl
  | cons he _ ih =>
      rw [List.zipWith_cons_cons, List.flatten_cons, ih, List.flatMap_cons, offersOf, he]

/-- Outcomes of which none is the right one offer what the numbered ones do. -/
theorem Offered.eq_numberedOffers {offered : List Alternative}
    (h : Offered question outcomes .perStem offered) :
    offered = numberedOffers question outcomes := by
  cases h with
  | perStem _ hread => exact flatten_zipWith_offers hread

/-- The stem that an alternative is for, with its answer, letter case left aside. -/
def Alternative.key (a : Alternative) : String × String := (a.comparison.left, a.foldedText)

/-- No two alternatives that are offered are for the same stem and accept the same answer, letter
case left aside. What is negated is not offered. -/
def DistinctAnswers (question : Option String) (outcomes : List Outcome) : Prop :=
  ((numberedOffers question outcomes).map Alternative.key).Nodup

instance : Decidable (DistinctAnswers question outcomes) :=
  inferInstanceAs (Decidable (List.Nodup _))

theorem left_of_mem_forStem {stem : String} {l : List Alternative} {a : Alternative}
    (h : a ∈ forStem stem l) : a.comparison.left = stem :=
  beq_iff_eq.mp (List.mem_filter.mp h).2

/-- The alternatives for a stem are distinct if all are. -/
theorem nodup_forStem {offered : List Alternative} (h : (offered.map Alternative.key).Nodup)
    (stem : String) : ((forStem stem offered).map Alternative.foldedText).Nodup := by
  have hsublist : ((forStem stem offered).map Alternative.key).Nodup :=
    h.sublist (List.filter_sublist.map _)
  have hkeys : (forStem stem offered).map Alternative.key =
      ((forStem stem offered).map Alternative.foldedText).map (Prod.mk stem) := by
    rw [List.map_map]
    apply List.map_congr_left
    intro a ha
    rw [Alternative.key, left_of_mem_forStem ha]
    rfl
  rw [hkeys] at hsublist
  exact hsublist.of_map

section PerStem

variable (h : aggregate question outcomes = .ok set) (hmode : set.mode = .perStem)

include h hmode

/-- The rules of a set that is not combined have what the numbered outcomes offer. -/
theorem rules_of_perStem :
    set.stemIds = firstOfEach id
        ((numberedOffers question outcomes).map fun a => a.comparison.left) ∧
      ∀ rule ∈ set.stems, rule.alternatives = firstOfEach Alternative.foldedText
        (forStem rule.stem (numberedOffers question outcomes)) := by
  obtain ⟨offered, hoffered, hids, hrules⟩ := aggregate_complete h
  rw [hmode] at hoffered
  obtain rfl := hoffered.eq_numberedOffers
  exact ⟨hids, fun rule hrule => (hrules rule hrule).1⟩

/-- What is offered is for one of the stems. -/
theorem left_mem_stemIds {a : Alternative} (ha : a ∈ numberedOffers question outcomes) :
    a.comparison.left ∈ set.stemIds := by
  rw [(rules_of_perStem h hmode).1, mem_firstOfEach_id]
  exact List.mem_map_of_mem ha

variable (hdistinct : DistinctAnswers question outcomes) (choices : List Choice)

include hdistinct

/-- If nothing is dropped, the matches are what is offered for one stem after the other. -/
theorem found_eq_map_forStem :
    (synthesizeMatches set choices).found =
      (set.stemIds.flatMap fun stem => forStem stem (numberedOffers question outcomes)).map
        fun a => matchOf none a.comparison.left a := by
  have hrule : ∀ rule ∈ set.stems, rule.alternatives.map (matchOf set.right rule.stem) =
      (forStem rule.stem (numberedOffers question outcomes)).map
        fun a => matchOf none a.comparison.left a := by
    intro rule hmem
    rw [(rules_of_perStem h hmode).2 rule hmem,
      firstOfEach_eq_self (nodup_forStem hdistinct rule.stem), (right_of_perStem h hmode).2]
    apply List.map_congr_left
    intro a ha
    rw [left_of_mem_forStem ha]
  rw [List.map_flatMap, OutcomeSet.stemIds, List.flatMap_map]
  exact List.flatMap_congr hrule

/-- If nothing is dropped, the matches are what is offered, sorted by stems. -/
theorem found_perm_numberedOffers :
    (synthesizeMatches set choices).found.Perm
      ((numberedOffers question outcomes).map fun a => matchOf none a.comparison.left a) := by
  have hcovered : ((numberedOffers question outcomes).filter
      fun a => a.comparison.left ∈ set.stemIds) = numberedOffers question outcomes := by
    rw [List.filter_eq_self]
    exact fun a ha => decide_eq_true (left_mem_stemIds h hmode ha)
  have hsorted := flatMap_filter_perm (fun a : Alternative => a.comparison.left)
    (nodup_stemIds h) (numberedOffers question outcomes)
  rw [hcovered] at hsorted
  rw [found_eq_map_forStem h hmode hdistinct choices]
  exact hsorted.map _

end PerStem

/-! ## Another order -/

theorem numberedOffers_perm (h : outcomes'.Perm outcomes) :
    (numberedOffers question outcomes').Perm (numberedOffers question outcomes) :=
  ((h.filter _).filter _).flatMap_right _

/-- Outcomes are collected just when the condition of each of them is read. -/
theorem exists_collectAll_iff {sources : List Outcome} (rules : List StemRule) :
    (∃ stems, collectAll question sources rules = .ok stems) ↔
      ∀ o ∈ sources, ∃ e, conditionOf question o = .ok e := by
  induction sources generalizing rules with
  | nil => simp [collectAll]
  | cons o sources ih =>
      rw [List.forall_mem_cons, collectAll]
      cases he : conditionOf question o with
      | error failure => simp
      | ok e => simpa using ih (collect o e rules)

/-- None is found as the right outcome just when there is none. -/
theorem find?_isRight_eq_none_iff :
    (without (catchAllIndex? outcomes) outcomes).find? Outcome.isRight = none ↔
      ∀ o, ¬ IsRightOutcome outcomes o := by
  constructor
  · exact not_isRightOutcome_of_find?
  · intro h
    rw [Option.eq_none_iff_forall_not_mem]
    intro o ho
    exact h o (isRightOutcome_of_find? ho)

/-- Without a right outcome, outcomes are aggregated just when the conditions of the numbered ones
that take part in scoring are read. -/
theorem exists_aggregate_iff (h : ∀ o, ¬ IsRightOutcome outcomes o) :
    (∃ set, aggregate question outcomes = .ok set) ↔
      ∀ o ∈ (scoringOutcomes outcomes).filter Outcome.isNumbered,
        ∃ e, conditionOf question o = .ok e := by
  rw [← exists_collectAll_iff [], ← numbered_without_catchAll]
  unfold aggregate
  simp only [find?_isRight_eq_none_iff.mpr h, Traversal.map_eq_ok_iff]
  constructor
  · rintro ⟨set, stems, hstems, -⟩
    exact ⟨stems, hstems⟩
  · rintro ⟨stems, hstems⟩
    exact ⟨_, stems, hstems, rfl⟩

theorem isWrong_of_isRight {o : Outcome} (h : o.isRight = true) : o.isWrong = false := by
  rw [Outcome.isRight, beq_iff_eq] at h
  rw [Outcome.isWrong, h]
  rfl

/-- If none is the right outcome, one of that name is for all other answers. -/
theorem isOther_of_isRight (h : ∀ o, ¬ IsRightOutcome outcomes o) {o : Outcome}
    (ho : o ∈ outcomes) (hright : o.isRight = true) : o.isOther = true := by
  obtain ⟨i, hi⟩ := List.mem_iff_getElem?.mp ho
  have hplace : catchAllIndex? outcomes = some i := by
    by_contra hplace
    have hfind := find?_isRight_eq_none_iff.mpr h
    rw [find?_without, Option.map_eq_none_iff, List.find?_eq_none] at hfind
    apply hfind (o, i) (List.mem_zipIdx_iff_getElem?.mpr hi)
    simp [hright, Ne.symm hplace]
  rcases wrong_or_other_of_catchAllIndex? hplace hi with hwrong | hother
  · rw [isWrong_of_isRight hright] at hwrong
    cases hwrong
  · exact hother

/-- If there is a right outcome, one is found. -/
theorem find?_of_isRightOutcome {right : Outcome} (h : IsRightOutcome outcomes right) :
    ∃ o, IsRightOutcome outcomes o ∧
      (without (catchAllIndex? outcomes) outcomes).find? Outcome.isRight = some o := by
  cases hfind : (without (catchAllIndex? outcomes) outcomes).find? Outcome.isRight with
  | some o => exact ⟨o, isRightOutcome_of_find? hfind, rfl⟩
  | none => exact absurd h (find?_isRight_eq_none_iff.mp hfind right)

/-- What becomes of matches and of the choices left over when outcomes stand in another order:
either both are the same, or the outcomes are refused, since one for all other answers is taken
for the right one. -/
inductive Reordered (question : Option String) (choices : List Choice) (r : MatchResult)
    (outcomes : List Outcome) : Prop
  | same {set : OutcomeSet} (hright : ∀ o, ¬ IsRightOutcome outcomes o)
      (hset : aggregate question outcomes = .ok set)
      (hresidual : (synthesizeMatches set choices).residual = r.residual)
      (hfound : (synthesizeMatches set choices).found.Perm r.found) :
      Reordered question choices r outcomes
  | refused {o : Outcome} {pos : Nat} (hright : IsRightOutcome outcomes o)
      (hother : o.isOther = true)
      (herror : aggregate question outcomes =
        .error ⟨.condition (.unexpectedWord (strip o.condition) pos) o.condition (some o.id),
          question⟩) :
      Reordered question choices r outcomes

/-- Outcomes of another order leave the same choices over, unless they are refused. -/
theorem reordered_of_perm (h : aggregate question outcomes = .ok set)
    (hmode : set.mode = .perStem) (hdistinct : DistinctAnswers question outcomes)
    (choices : List Choice) (hperm : outcomes'.Perm outcomes) :
    Reordered question choices (synthesizeMatches set choices) outcomes' := by
  obtain ⟨hright, -⟩ := right_of_perStem h hmode
  by_cases hright' : ∃ o, IsRightOutcome outcomes' o
  · obtain ⟨right, hright'⟩ := hright'
    obtain ⟨o, hright', hfind⟩ := find?_of_isRightOutcome hright'
    have hother : o.isOther = true := by
      obtain ⟨i, hi, hname, -⟩ := hright'
      exact isOther_of_isRight hright (hperm.mem_iff.mp (List.mem_of_getElem? hi)) hname
    obtain ⟨pos, hpos⟩ := conditionOf_isOther hother question
    have herror : aggregate question outcomes' =
        .error ⟨.condition (.unexpectedWord (strip o.condition) pos) o.condition (some o.id),
          question⟩ := by
      unfold aggregate
      simp only [hfind, collectAll, hpos]
      rfl
    exact .refused hright' hother herror
  · push Not at hright'
    have hread := (exists_aggregate_iff hright).mp ⟨set, h⟩
    obtain ⟨set', hset'⟩ := (exists_aggregate_iff hright').mpr fun o ho =>
      hread o (((hperm.filter _).filter _).mem_iff.mp ho)
    have hmode' : set'.mode = .perStem := by
      rcases mode_of_aggregate hset' with ⟨o, ho, _⟩ | ⟨_, hmode', _⟩
      · exact absurd ho (hright' o)
      · exact hmode'
    have hdistinct' : DistinctAnswers question outcomes' :=
      ((numberedOffers_perm hperm).map _).nodup_iff.mpr hdistinct
    have hfound : (synthesizeMatches set' choices).found.Perm
        (synthesizeMatches set choices).found :=
      (found_perm_numberedOffers hset' hmode' hdistinct' choices).trans
        (((numberedOffers_perm hperm).map _).trans
          (found_perm_numberedOffers h hmode hdistinct choices).symm)
    refine .same hright' hset' ?_ hfound
    apply List.filter_congr
    intro choice _
    exact congrArg not hfound.any_eq

/-- **Matches mirror the rules.** The matches of outcomes have the stems of their set, and for each
stem its alternatives, one to one and in order; left over are the choices that no match takes. If
the outcomes are collected one by one, and no two of them offer the same answer for a stem, they
have the same matches and leave the same choices over in any other order, unless one for all
other answers is taken for the right one there: then they are refused. -/
theorem aggregate_mirrored (h : aggregate question outcomes = .ok set) (choices : List Choice) :
    Mirrored outcomes set choices (synthesizeMatches set choices) ∧
      (set.mode = .perStem → DistinctAnswers question outcomes →
        ∀ outcomes', outcomes'.Perm outcomes →
          Reordered question choices (synthesizeMatches set choices) outcomes') := by
  constructor
  · exact mirrored_synthesizeMatches h choices
  · intro hmode hdistinct outcomes' hperm
    exact reordered_of_perm h hmode hdistinct choices hperm

/-- Towns of two countries, of which the first one has two. -/
def towns : List Outcome :=
  [⟨"0 Lyon", 1, "\"0\" MATCHES NOCASE \"Lyon\"", ""⟩, ⟨"1 Rome", 1, "\"1\" MATCHES \"Rome\"", ""⟩,
    ⟨"2 Nice", 0, "\"0\" MATCHES \"Nice\"", "A smaller one"⟩]

/-- They may be met from the end. -/
theorem aggregate_mirrored_towns :
    ∃ set, aggregate none towns = .ok set ∧ set.mode = .perStem ∧ DistinctAnswers none towns ∧
      Mirrored towns set [⟨0, "LYON", []⟩, ⟨1, "Oslo", []⟩]
        (synthesizeMatches set [⟨0, "LYON", []⟩, ⟨1, "Oslo", []⟩]) ∧
      Reordered none [⟨0, "LYON", []⟩, ⟨1, "Oslo", []⟩]
        (synthesizeMatches set [⟨0, "LYON", []⟩, ⟨1, "Oslo", []⟩]) towns.reverse := by
  have hset : aggregate none towns = .ok
      { mode := .perStem
        stems :=
          [⟨"0", [⟨⟨"0", .matching, "Lyon", false, false⟩, towns[0]⟩,
              ⟨⟨"0", .matching, "Nice", false, true⟩, towns[2]⟩]⟩,
            ⟨"1", [⟨⟨"1", .matching, "Rome", false, true⟩, towns[1]⟩]⟩]
        right := none
        catchAll := none
        general := none } := by decide +kernel
  have hdistinct : DistinctAnswers none towns := by decide +kernel
  obtain ⟨hmirrored, hreordered⟩ :=
    aggregate_mirrored hset [⟨0, "LYON", []⟩, ⟨1, "Oslo", []⟩]
  exact ⟨_, hset, rfl, hdistinct, hmirrored,
    hreordered rfl hdistinct towns.reverse (List.reverse_perm towns)⟩

/-- One outcome that counts, and two for all other answers, the second of which is named like the
right one. -/
def misnamed : List Outcome :=
  [⟨"0 Paris", 1, "\"0\" MATCHES \"Paris\"", ""⟩, ⟨"1 other", 0, "OTHER", ""⟩,
    ⟨"right", 0, "OTHER", ""⟩]

/-- Another order does not always leave the same choices over: met from the end, the outcome that
is named like the right one is read. -/
theorem not_forall_reordered :
    ¬ ∀ (question : Option String) (outcomes outcomes' : List Outcome) (set : OutcomeSet)
        (choices : List Choice), aggregate question outcomes = .ok set → set.mode = .perStem →
      DistinctAnswers question outcomes → outcomes'.Perm outcomes →
      ∃ set', aggregate question outcomes' = .ok set' ∧
        (synthesizeMatches set' choices).residual = (synthesizeMatches set choices).residual ∧
        (synthesizeMatches set' choices).found.Perm (synthesizeMatches set choices).found := by
  intro h
  have hset : aggregate none misnamed = .ok
      { mode := .perStem
        stems := [⟨"0", [⟨⟨"0", .matching, "Paris", false, true⟩, misnamed[0]⟩]⟩]
        right := none
        catchAll := some misnamed[2]
        general := none } := by decide +kernel
  have hrefused : aggregate none misnamed.reverse =
      .error ⟨.condition (.unexpectedWord "OTHER" 0) "OTHER" (some "right"), none⟩ := by
    decide +kernel
  obtain ⟨set', hset', -⟩ := h none misnamed misnamed.reverse _ [] hset rfl
    (by decide +kernel) (List.reverse_perm misnamed)
  rw [hrefused] at hset'
  cases hset'

end QuestionBank.Scoring
