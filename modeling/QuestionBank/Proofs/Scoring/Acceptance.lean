import Mathlib.Data.List.Nodup
import QuestionBank.Proofs.Scoring.Aggregated

/-!
# Accepted responses

A comparison accepts a response that is its right operand, letter case left aside where case
does not count. Of the comparisons for a stem whose operands differ in letter case only, the
first one is kept, whether case counts there or not. So every response that a comparison
accepts is an accepted answer up to letter case, but no response is lost just when each
comparison is covered by the one that is kept for it.
-/

namespace QuestionBank.Condition

open QuestionBank.Text

/-! ## Comparisons that cover others -/

/-- Tells whether a comparison of texts accepts a response. -/
def Comparison.Accepts (c : Comparison) (response : String) : Prop :=
  if c.caseSensitive then response = c.right else fold response = fold c.right

instance (c : Comparison) (response : String) : Decidable (c.Accepts response) :=
  inferInstanceAs
    (Decidable (if c.caseSensitive then response = c.right else fold response = fold c.right))

/-- A comparison covers another one of the same operand up to letter case if case does not
count for it, or if the operands are the same and case either counts for the other one or
makes no difference to the operand. -/
def Comparison.Covers (k c : Comparison) : Prop :=
  k.caseSensitive = false ∨
    (k.right = c.right ∧
      (c.caseSensitive = true ∨ ∀ response, fold response = fold c.right → response = c.right))

variable {k c : Comparison} {response : String}

theorem Comparison.Accepts.fold_eq (h : c.Accepts response) : fold response = fold c.right := by
  unfold Comparison.Accepts at h
  split at h
  · rw [h]
  · exact h

theorem Comparison.accepts_right (c : Comparison) : c.Accepts c.right := by
  unfold Comparison.Accepts
  split <;> rfl

theorem Comparison.accepts_iff_of_caseSensitive (h : c.caseSensitive = true) :
    c.Accepts response ↔ response = c.right := by
  rw [Comparison.Accepts, if_pos h]

theorem Comparison.accepts_iff_of_not_caseSensitive (h : c.caseSensitive = false) :
    c.Accepts response ↔ fold response = fold c.right := by
  rw [Comparison.Accepts, h, if_neg Bool.false_ne_true]

/-- A comparison accepts whatever another one accepts just when it covers it. -/
theorem Comparison.covers_iff (hfold : fold k.right = fold c.right) :
    k.Covers c ↔ ∀ response, c.Accepts response → k.Accepts response := by
  constructor
  · rintro (hk | ⟨hright, hcase⟩) response haccepts
    · rw [accepts_iff_of_not_caseSensitive hk, haccepts.fold_eq, hfold]
    · have hresponse : response = c.right := by
        rcases hcase with hc | halone
        · exact (accepts_iff_of_caseSensitive hc).mp haccepts
        · exact halone response haccepts.fold_eq
      rw [hresponse, ← hright]
      exact k.accepts_right
  · intro h
    cases hk : k.caseSensitive with
    | false => exact .inl hk
    | true =>
        have honly {response : String} (haccepts : c.Accepts response) : response = k.right :=
          (accepts_iff_of_caseSensitive hk).mp (h response haccepts)
        have hright : c.right = k.right := honly c.accepts_right
        refine .inr ⟨hright.symm, ?_⟩
        cases hc : c.caseSensitive with
        | true => exact .inl rfl
        | false =>
            refine .inr fun response hresponse => ?_
            rw [hright]
            exact honly ((accepts_iff_of_not_caseSensitive hc).mpr hresponse)

end QuestionBank.Condition

namespace QuestionBank.Scoring

open QuestionBank.Condition QuestionBank.Text

/-! ## Responses that are lost -/

variable {l : List Alternative} {a k : Alternative}

/-- For each alternative one of the same answer up to letter case is kept. -/
theorem exists_kept (h : a ∈ l) :
    ∃ k ∈ firstOfEach Alternative.foldedText l, k.foldedText = a.foldedText := by
  rw [← List.mem_map, mem_map_firstOfEach]
  exact List.mem_map_of_mem h

/-- Only one alternative of an answer is kept. -/
theorem eq_of_kept (ha : a ∈ firstOfEach Alternative.foldedText l)
    (hk : k ∈ firstOfEach Alternative.foldedText l) (h : a.foldedText = k.foldedText) : a = k :=
  List.inj_on_of_nodup_map (nodup_firstOfEach Alternative.foldedText l) ha hk h

/-- No response is lost just when each alternative is covered by the one that is kept of its
answer. -/
theorem accepted_firstOfEach_iff :
    (∀ response, (∃ a ∈ l, a.comparison.Accepts response) →
        ∃ k ∈ firstOfEach Alternative.foldedText l, k.comparison.Accepts response) ↔
      ∀ a ∈ l, ∃ k ∈ firstOfEach Alternative.foldedText l,
        k.foldedText = a.foldedText ∧ k.comparison.Covers a.comparison := by
  constructor
  · intro h a ha
    obtain ⟨k, hk, hkey⟩ := exists_kept ha
    refine ⟨k, hk, hkey, (Comparison.covers_iff hkey).mpr fun response haccepts => ?_⟩
    -- what accepts the response has the folded text of the response, as `a` and `k` have
    obtain ⟨k', hk', haccepts'⟩ := h response ⟨a, ha, haccepts⟩
    have hsame : k'.foldedText = k.foldedText :=
      haccepts'.fold_eq.symm.trans (haccepts.fold_eq.trans hkey.symm)
    rwa [← eq_of_kept hk' hk hsame]
  · rintro h response ⟨a, ha, haccepts⟩
    obtain ⟨k, hk, hkey, hcovers⟩ := h a ha
    exact ⟨k, hk, (Comparison.covers_iff hkey).mp hcovers response haccepts⟩

theorem mem_forStem_offers {stem : String} {o : Outcome} {e : Expression} :
    a ∈ forStem stem (offers o e) ↔ ∃ c ∈ affirmed e, c.left = stem ∧ a = ⟨c, o⟩ := by
  simp only [forStem, offers, List.mem_filter, List.mem_map, beq_iff_eq]
  constructor
  · rintro ⟨⟨c, hc, rfl⟩, hstem⟩
    exact ⟨c, hc, hstem, rfl⟩
  · rintro ⟨c, hc, hstem, rfl⟩
    exact ⟨⟨c, hc, rfl⟩, hstem⟩

/-- **Which responses stay accepted.** The condition of the right outcome is read, and for each
stem the following holds. A response that a comparison accepts is the answer of a kept
alternative up to letter case. All responses that comparisons accept are accepted by kept
alternatives just when each comparison is covered by the alternative that is kept for it. -/
theorem aggregate_accepts_iff {question : Option String} {outcomes : List Outcome}
    {set : OutcomeSet} (h : aggregate question outcomes = .ok set) (hmode : set.mode = .combined) :
    ∃ right e, IsRightOutcome outcomes right ∧ conditionOf question right = .ok e ∧
      ∀ stem,
        (∀ response, (∃ c ∈ affirmed e, c.left = stem ∧ c.Accepts response) →
          ∃ k ∈ alternativesOf stem set.stems, fold k.text = fold response) ∧
        ((∀ response, (∃ c ∈ affirmed e, c.left = stem ∧ c.Accepts response) →
            ∃ k ∈ alternativesOf stem set.stems, k.comparison.Accepts response) ↔
          ∀ c ∈ affirmed e, c.left = stem →
            ∃ k ∈ alternativesOf stem set.stems,
              k.foldedText = fold c.right ∧ k.comparison.Covers c) := by
  obtain ⟨offered, hoffered, -, halternatives⟩ := aggregate_offered h
  rw [hmode] at hoffered
  obtain @⟨right, e, hright, hread⟩ := hoffered
  refine ⟨right, e, hright, hread, fun stem => ?_⟩
  rw [halternatives]
  constructor
  · rintro response ⟨c, hc, hstem, haccepts⟩
    obtain ⟨k, hk, hkey⟩ := exists_kept (mem_forStem_offers.mpr ⟨c, hc, hstem, rfl⟩)
    exact ⟨k, hk, hkey.trans haccepts.fold_eq.symm⟩
  · have hsome (P : Comparison → Prop) :
        (∃ a ∈ forStem stem (offers right e), P a.comparison) ↔
          ∃ c ∈ affirmed e, c.left = stem ∧ P c := by
      constructor
      · rintro ⟨a, ha, hP⟩
        obtain ⟨c, hc, hstem, rfl⟩ := mem_forStem_offers.mp ha
        exact ⟨c, hc, hstem, hP⟩
      · rintro ⟨c, hc, hstem, hP⟩
        exact ⟨⟨c, right⟩, mem_forStem_offers.mpr ⟨c, hc, hstem, rfl⟩, hP⟩
    simp only [← hsome]
    rw [accepted_firstOfEach_iff]
    constructor
    · intro hall c hc hstem
      exact hall ⟨c, right⟩ (mem_forStem_offers.mpr ⟨c, hc, hstem, rfl⟩)
    · intro hall a ha
      obtain ⟨c, hc, hstem, rfl⟩ := mem_forStem_offers.mp ha
      exact hall c hc hstem

/-- A right outcome that accepts a capital in any case, and then with letter case. -/
def anyCaseThenParis : List Outcome :=
  [⟨"right", 1, "\"0\" MATCHES NOCASE \"paris\" OR \"0\" MATCHES \"Paris\"", ""⟩]

/-- Where the comparison without letter case comes first, no response is lost. -/
theorem aggregate_accepts_iff_anyCase :
    ∃ set, aggregate none anyCaseThenParis = .ok set ∧ set.mode = .combined ∧
      ∃ right e, IsRightOutcome anyCaseThenParis right ∧ conditionOf none right = .ok e ∧
        ∀ response, (∃ c ∈ affirmed e, c.left = "0" ∧ c.Accepts response) →
          ∃ k ∈ alternativesOf "0" set.stems, k.comparison.Accepts response := by
  have hset : aggregate none anyCaseThenParis = .ok
      { mode := .combined
        stems := [⟨"0", [⟨⟨"0", .matching, "paris", false, false⟩, anyCaseThenParis[0]⟩]⟩]
        right := some anyCaseThenParis[0]
        catchAll := none
        general := none } := by decide +kernel
  have hparsed : conditionOf none anyCaseThenParis[0] = .ok
      { first := ⟨⟨"0", .matching, "paris", false, false⟩, []⟩
        others := [⟨⟨"0", .matching, "Paris", false, true⟩, []⟩]
        source := anyCaseThenParis[0].condition } := by decide +kernel
  refine ⟨_, hset, rfl, ?_⟩
  obtain ⟨right, e, hright, hread, hall⟩ := aggregate_accepts_iff hset rfl
  refine ⟨right, e, hright, hread, (hall "0").2.mpr fun c hc _ => ?_⟩
  obtain ⟨i, hi, -⟩ := hright
  obtain rfl : right = anyCaseThenParis[0] := List.mem_singleton.mp (List.mem_of_getElem? hi)
  obtain rfl := Except.ok.inj (hparsed.symm.trans hread)
  refine ⟨_, List.mem_singleton_self _, ?_, .inl rfl⟩
  rcases List.mem_pair.mp hc with rfl | rfl <;> decide +kernel

/-- A right outcome that accepts a capital with letter case, and then in any case. -/
def parisThenAnyCase : List Outcome :=
  [⟨"right", 1, "\"0\" MATCHES \"Paris\" OR \"0\" MATCHES NOCASE \"paris\"", ""⟩]

/-- **Letter case may be lost.** Not every response that a comparison of texts accepts is
accepted by what is kept: here the comparison without letter case is dropped for an earlier
one. -/
theorem not_forall_accepted_kept :
    ¬ ∀ (outcomes : List Outcome) (set : OutcomeSet) (right : Outcome) (e : Expression),
      aggregate none outcomes = .ok set → set.mode = .combined → set.right = some right →
      conditionOf none right = .ok e →
      (∀ o ∈ outcomes, ∀ e, conditionOf none o = .ok e →
        ∀ c ∈ e.comparisons, c.operator = .matching) →
      ∀ stem response, (∃ c ∈ affirmed e, c.left = stem ∧ c.Accepts response) →
        ∃ k ∈ alternativesOf stem set.stems, k.comparison.Accepts response := by
  intro h
  have hset : aggregate none parisThenAnyCase = .ok
      { mode := .combined
        stems := [⟨"0", [⟨⟨"0", .matching, "Paris", false, true⟩, parisThenAnyCase[0]⟩]⟩]
        right := some parisThenAnyCase[0]
        catchAll := none
        general := none } := by decide +kernel
  have hparsed : conditionOf none parisThenAnyCase[0] = .ok
      { first := ⟨⟨"0", .matching, "Paris", false, true⟩, []⟩
        others := [⟨⟨"0", .matching, "paris", false, false⟩, []⟩]
        source := parisThenAnyCase[0].condition } := by decide +kernel
  have hmatching : ∀ o ∈ parisThenAnyCase, ∀ e, conditionOf none o = .ok e →
      ∀ c ∈ e.comparisons, c.operator = .matching := by
    intro o ho e he
    obtain rfl := List.mem_singleton.mp ho
    obtain rfl := Except.ok.inj (hparsed.symm.trans he)
    decide
  have hlost := h parisThenAnyCase _ _ _ hset rfl rfl hparsed hmatching "0" "PARIS"
    (by decide +kernel)
  exact absurd hlost (by decide +kernel)

end QuestionBank.Scoring
