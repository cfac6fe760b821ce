import Mathlib.Data.List.Nodup
import Mathlib.Data.List.Perm.Subperm
import QuestionBank.Proofs.Scoring.Aggregated
import QuestionBank.Proofs.Scoring.Sorted

/-!
# Bounds taken together

A numeric stem has values and bounds. Each value is an answer of its own. The bounds that
outcomes of one name give are taken together to one range, and of each side the last bound
counts; the ones before it are dropped, and nobody is told. So each bound is an end of a range
of its outcome just when outcomes of one name are one outcome, and no bound names a number that
the last bounds of its name do not.
-/

namespace QuestionBank.Scoring

open QuestionBank.Condition QuestionBank.Text

/-! ## Values and bounds -/

namespace Alternative

/-- The alternative bounds a number from one side. -/
def isBound (a : Alternative) : Bool := a.comparison.operator.isRange

/-- The alternative bounds a number from below. -/
def isLower (a : Alternative) : Bool := a.comparison.operator.isLowerBound

/-- The number that an alternative names. -/
def number? (a : Alternative) : Option Binary64 := Number.readBinary64? (strip a.comparison.right)

end Alternative

/-- The name of the outcome that bounds belong to. -/
def Bounds.name (b : Bounds) : String := b.outcome.id

/-- The last bound that outcomes of a name give. -/
def lastBound (name : String) (l : List Alternative) : Option Alternative :=
  (l.filter fun a => a.isBound && a.outcome.id == name).getLast?

/-- The number that the last bound of one side names, of those that outcomes of a name give. -/
def lastNumber (lower : Bool) (name : String) (l : List Alternative) : Option Binary64 :=
  (lastBound name (l.filter fun a => a.isLower == lower)).bind Alternative.number?

/-- The bounds that outcomes of a name give together: the last one of each side. They belong to
the outcome that gives the last one of all. -/
def boundsOf (name : String) (l : List Alternative) : Option Bounds :=
  (lastBound name l).map fun a =>
    { outcome := a.outcome
      low := lastNumber true name l
      high := lastNumber false name l }

/-- The names of outcomes that give bounds, in the order of their first bounds. -/
def boundNames (l : List Alternative) : List String :=
  firstOfEach id ((l.filter Alternative.isBound).map fun a => a.outcome.id)

/-- The bounds of alternatives, taken together by the names of their outcomes. -/
def pairedBounds (l : List Alternative) : List Bounds :=
  (boundNames l).filterMap fun name => boundsOf name l

/-- An answer is the value of an alternative: the number itself, with the credit and the
feedback of the outcome. -/
structure AnswersValue (set : OutcomeSet) (best : Int) (a : Alternative) (answer : NumericAnswer) :
    Prop where
  value : a.number? = some answer.value
  tolerance : answer.tolerance = .zero false
  fraction : shareOf a.outcome set best = .ok answer.fraction
  feedback : answer.feedback = answerFeedback set a.outcome

/-- An answer is the range between two bounds: its middle and half its width, with the credit
and the feedback of the outcome. -/
structure AnswersRange (set : OutcomeSet) (best : Int) (b : Bounds) (answer : NumericAnswer) :
    Prop where
  range : ∃ low high, (b.low = some low ∧ b.high = some high ∧ high.lt low = false ∨
      b.low = some high ∧ b.high = some low ∧ low.lt high = true) ∧
    answer.value = (low.add high).half ∧ answer.tolerance = (high.sub low).half
  fraction : shareOf b.outcome set best = .ok answer.fraction
  feedback : answer.feedback = answerFeedback set b.outcome

/-- A bound is an end of the range of its outcome. -/
def Counts (bounds : List Bounds) (a : Alternative) : Prop :=
  ∃ b ∈ bounds, b.outcome = a.outcome ∧ (b.low = a.number? ∨ b.high = a.number?)

variable {question : Option String} {set : OutcomeSet} {best : Int} {name : String}
  {l before alternatives : List Alternative} {a : Alternative} {x : Binary64}
  {bounds bounds' : List Bounds} {values : List NumericAnswer}

/-! ## The last bounds -/

theorem lastBound_concat (name : String) (l : List Alternative) (a : Alternative) :
    lastBound name (l ++ [a]) =
      if a.isBound && a.outcome.id == name then some a else lastBound name l := by
  unfold lastBound
  rw [List.filter_append]
  cases h : a.isBound && a.outcome.id == name with
  | true => simp [h]
  | false => simp [h]

theorem lastNumber_concat (lower : Bool) (name : String) (l : List Alternative)
    (a : Alternative) :
    lastNumber lower name (l ++ [a]) =
      if a.isLower == lower && (a.isBound && a.outcome.id == name) then a.number?
      else lastNumber lower name l := by
  unfold lastNumber
  rw [List.filter_append]
  cases hside : a.isLower == lower with
  | true =>
      cases hname : a.isBound && a.outcome.id == name <;> simp [hside, lastBound_concat, hname]
  | false => simp [hside]

theorem mem_of_lastBound (h : lastBound name l = some a) :
    a ∈ l ∧ a.isBound = true ∧ a.outcome.id = name := by
  simpa using List.mem_of_getLast? h

theorem lastBound_isSome (ha : a ∈ l) (hbound : a.isBound = true) :
    ∃ k, lastBound a.outcome.id l = some k := by
  rw [← Option.isSome_iff_exists, lastBound, List.getLast?_isSome]
  exact List.ne_nil_of_mem (List.mem_filter.mpr ⟨ha, by simp [hbound]⟩)

/-- Without bounds there is none of one side. -/
theorem lastNumber_eq_none (lower : Bool) (h : lastBound name l = none) :
    lastNumber lower name l = none := by
  have hside : lastBound name (l.filter fun a => a.isLower == lower) = none := by
    unfold lastBound at h ⊢
    rw [List.getLast?_eq_none_iff, List.filter_eq_nil_iff] at h ⊢
    exact fun a ha => h a (List.mem_of_mem_filter ha)
  rw [lastNumber, hside, Option.bind_none]

theorem boundsOf_low (name : String) (l : List Alternative) :
    (boundsOf name l).bind Bounds.low = lastNumber true name l := by
  unfold boundsOf
  cases h : lastBound name l with
  | none => simp [lastNumber_eq_none true h]
  | some a => rfl

theorem boundsOf_high (name : String) (l : List Alternative) :
    (boundsOf name l).bind Bounds.high = lastNumber false name l := by
  unfold boundsOf
  cases h : lastBound name l with
  | none => simp [lastNumber_eq_none false h]
  | some a => rfl

/-- The bounds of an outcome after another bound. -/
def withBound (o : Outcome) (isLower : Bool) (x : Binary64) (old : Option Bounds) : Bounds :=
  if isLower then ⟨o, some x, old.bind Bounds.high⟩ else ⟨o, old.bind Bounds.low, some x⟩

/-- A bound that follows replaces the one of its side under its name, and no other. -/
theorem boundsOf_concat (hbound : a.isBound = true) (hx : a.number? = some x) (name : String)
    (l : List Alternative) :
    boundsOf name (l ++ [a]) =
      if a.outcome.id = name then some (withBound a.outcome a.isLower x (boundsOf name l))
      else boundsOf name l := by
  by_cases hname : a.outcome.id = name
  · rw [if_pos hname, withBound, boundsOf_low, boundsOf_high, boundsOf, lastBound_concat,
      lastNumber_concat, lastNumber_concat]
    cases a.isLower <;> simp [hbound, hname, hx]
  · rw [if_neg hname, boundsOf, lastBound_concat, lastNumber_concat, lastNumber_concat]
    simp [hname, boundsOf]

theorem boundsOf_concat_value (hbound : a.isBound = false) (name : String)
    (l : List Alternative) : boundsOf name (l ++ [a]) = boundsOf name l := by
  rw [boundsOf, lastBound_concat, lastNumber_concat, lastNumber_concat]
  simp [hbound, boundsOf]

theorem boundNames_concat (l : List Alternative) (a : Alternative) :
    boundNames (l ++ [a]) =
      if a.isBound then addNew id (boundNames l) a.outcome.id else boundNames l := by
  unfold boundNames
  rw [List.filter_append, List.map_append]
  cases h : a.isBound with
  | true =>
      rw [if_pos rfl, List.filter_cons_of_pos h, List.filter_nil, List.map_singleton,
        ← foldl_addNew_nil, List.foldl_append, foldl_addNew_nil]
      rfl
  | false => simp [h]

/-! ## Bounds set one after the other -/

theorem find?_setBound (o : Outcome) (isLower : Bool) (x : Binary64) (name : String)
    (bounds : List Bounds) :
    (setBound o isLower x bounds).find? (fun b => b.name = name) =
      if o.id = name then some (withBound o isLower x (bounds.find? fun b => b.name = name))
      else bounds.find? fun b => b.name = name := by
  induction bounds with
  | nil =>
      cases isLower <;> by_cases hname : o.id = name <;>
        simp [setBound, withBound, Bounds.name, hname]
  | cons b bounds ih =>
      rw [setBound]
      by_cases hb : b.outcome.id = o.id
      · cases isLower <;> by_cases hname : o.id = name <;>
          simp [withBound, Bounds.name, hb, hname]
      · rw [if_neg hb]
        by_cases hname : b.name = name
        · have hother : o.id ≠ name := fun h => hb (hname.trans h.symm)
          rw [List.find?_cons_of_pos (by simpa using hname), if_neg hother,
            List.find?_cons_of_pos (by simpa using hname)]
        · rw [List.find?_cons_of_neg (by simpa using hname), ih,
            List.find?_cons_of_neg (by simpa using hname)]

theorem names_setBound (o : Outcome) (isLower : Bool) (x : Binary64) (bounds : List Bounds) :
    (setBound o isLower x bounds).map Bounds.name = addNew id (bounds.map Bounds.name) o.id := by
  induction bounds with
  | nil => cases isLower <;> rfl
  | cons b bounds ih =>
      rw [setBound]
      by_cases hb : b.outcome.id = o.id
      · refine Eq.trans ?_ (addNew_cons_of_eq id hb.symm (bounds.map Bounds.name)).symm
        cases isLower <;> simp [Bounds.name, hb]
      · rw [if_neg hb, List.map_cons, ih]
        exact (addNew_cons_of_ne id (Ne.symm hb) (bounds.map Bounds.name)).symm

/-- Bounds are those of alternatives, taken together. -/
structure PairsUp (l : List Alternative) (bounds : List Bounds) : Prop where
  names : bounds.map Bounds.name = boundNames l
  find : ∀ name, bounds.find? (fun b => b.name = name) = boundsOf name l

theorem pairsUp_nil : PairsUp [] [] := ⟨rfl, fun _ => rfl⟩

/-- To set a bound is to take it together with those before. -/
theorem PairsUp.setBound (h : PairsUp l bounds) (hbound : a.isBound = true)
    (hx : a.number? = some x) :
    PairsUp (l ++ [a]) (setBound a.outcome a.isLower x bounds) := by
  constructor
  · rw [names_setBound, h.names, boundNames_concat, if_pos hbound]
  · intro name
    rw [find?_setBound, h.find, boundsOf_concat hbound hx]

theorem PairsUp.value (h : PairsUp l bounds) (hbound : a.isBound = false) :
    PairsUp (l ++ [a]) bounds := by
  constructor
  · rw [h.names, boundNames_concat, hbound, if_neg Bool.false_ne_true]
  · intro name
    rw [h.find, boundsOf_concat_value hbound]

/-- Where each name stands once, a list is found again by its names. -/
theorem filterMap_find?_name (h : (bounds.map Bounds.name).Nodup) :
    (bounds.map Bounds.name).filterMap (fun name => bounds.find? fun b => b.name = name) =
      bounds := by
  have hfind : ∀ b ∈ bounds, bounds.find? (fun b' => b'.name = b.name) = some b := by
    intro b hb
    cases hsome : bounds.find? fun b' => b'.name = b.name with
    | none => simpa using List.find?_eq_none.mp hsome b hb
    | some b' =>
        have hname : b'.name = b.name := by simpa using List.find?_some hsome
        rw [List.inj_on_of_nodup_map h (List.mem_of_find?_eq_some hsome) hb hname]
  rw [List.filterMap_map]
  calc bounds.filterMap ((fun name => bounds.find? fun b => b.name = name) ∘ Bounds.name)
      = bounds.filterMap some := List.filterMap_congr hfind
    _ = bounds := List.filterMap_some

theorem PairsUp.eq_pairedBounds (h : PairsUp l bounds) : bounds = pairedBounds l := by
  have hnodup : (bounds.map Bounds.name).Nodup := by
    rw [h.names]
    exact nodup_firstOfEach_id _
  have hfilter := filterMap_find?_name hnodup
  simp only [h.find] at hfilter
  rw [pairedBounds, ← h.names, hfilter]

/-! ## Alternatives sorted -/

theorem operandOf_eq_ok_iff : operandOf question a = .ok x ↔ a.number? = some x := by
  unfold operandOf Alternative.number?
  cases Number.readBinary64? (strip a.comparison.right) <;> simp

/-- Alternatives that are sorted give an answer for each value, in order, and leave their bounds
taken together with those before. -/
theorem Sorts.pairs (hbefore : PairsUp before bounds)
    (h : Sorts question set best alternatives bounds values bounds') :
    PairsUp (before ++ alternatives) bounds' ∧
      List.Forall₂ (AnswersValue set best) (alternatives.filter fun a => !a.isBound) values := by
  induction h generalizing before with
  | done bounds => exact ⟨(List.append_nil before).symm ▸ hbefore, .nil⟩
  | bound hx hbound _ ih =>
      rw [List.append_cons, List.filter_cons_of_neg (by simp [Alternative.isBound, hbound])]
      exact ih (hbefore.setBound hbound (operandOf_eq_ok_iff.mp hx))
  | value hx hbound hfraction _ ih =>
      obtain ⟨hpairs, hvalues⟩ := ih (hbefore.value hbound)
      rw [List.append_cons, List.filter_cons_of_pos (by simp [Alternative.isBound, hbound])]
      exact ⟨hpairs, .cons ⟨operandOf_eq_ok_iff.mp hx, rfl, hfraction, rfl⟩ hvalues⟩

/-- A range that is answered has two bounds, and its answer is the range between them. -/
theorem answersRange_of_rangeAnswer {b : Bounds} {answer : NumericAnswer}
    (h : rangeAnswer question set best b = .ok answer) : AnswersRange set best b answer := by
  unfold rangeAnswer at h
  split at h
  next x y hlow hhigh =>
    obtain ⟨fraction, hfraction, rfl⟩ := Traversal.map_eq_ok_iff.mp h
    refine ⟨?_, hfraction, rfl⟩
    cases hlt : y.lt x with
    | true => exact ⟨y, x, .inr ⟨hlow, hhigh, hlt⟩, by simp, by simp⟩
    | false => exact ⟨x, y, .inl ⟨hlow, hhigh, hlt⟩, by simp, by simp⟩
  · cases h

/-! ## Bounds that count -/

theorem mem_boundNames (ha : a ∈ l) (hbound : a.isBound = true) :
    a.outcome.id ∈ boundNames l := by
  rw [boundNames, mem_firstOfEach_id]
  exact List.mem_map_of_mem (f := fun a => a.outcome.id) (List.mem_filter.mpr ⟨ha, hbound⟩)

theorem mem_pairedBounds {b : Bounds} : b ∈ pairedBounds l ↔ boundsOf b.name l = some b := by
  rw [pairedBounds, List.mem_filterMap]
  constructor
  · rintro ⟨name, -, hb⟩
    obtain ⟨k, hk, rfl⟩ := Option.map_eq_some_iff.mp hb
    rwa [Bounds.name, (mem_of_lastBound hk).2.2]
  · intro hb
    obtain ⟨k, hk, -⟩ := Option.map_eq_some_iff.mp hb
    obtain ⟨hmem, hbound, hname⟩ := mem_of_lastBound hk
    exact ⟨b.name, hname ▸ mem_boundNames hmem hbound, hb⟩

/-- A bound is an end of the range of its outcome just when the last bound of the name belongs
to this outcome, and the last bound of one of the sides names the same number. -/
theorem counts_iff (ha : a ∈ l) (hbound : a.isBound = true) :
    Counts (pairedBounds l) a ↔
      (∃ k, lastBound a.outcome.id l = some k ∧ k.outcome = a.outcome) ∧
        ∃ lower, lastNumber lower a.outcome.id l = a.number? := by
  obtain ⟨k, hk⟩ := lastBound_isSome ha hbound
  have hname : k.outcome.id = a.outcome.id := (mem_of_lastBound hk).2.2
  simp only [Bool.exists_bool, hk, Option.some.injEq, exists_eq_left']
  unfold Counts
  simp only [mem_pairedBounds]
  constructor
  · rintro ⟨b, hb, houtcome, hside⟩
    rw [Bounds.name, houtcome, boundsOf, hk, Option.map_some, Option.some.injEq] at hb
    subst hb
    exact ⟨houtcome, hside.symm⟩
  · rintro ⟨houtcome, hside⟩
    refine ⟨⟨k.outcome, _, _⟩, ?_, houtcome, hside.symm⟩
    rw [Bounds.name, hname, boundsOf, hk]
    rfl

/-- All bounds count just when outcomes of one name are one outcome and each bound names a
number that the last bound of one of the sides names. -/
theorem forall_counts_iff :
    (∀ a ∈ l, a.isBound = true → Counts (pairedBounds l) a) ↔
      ∀ a ∈ l, a.isBound = true →
        (∀ a' ∈ l, a'.isBound = true → a'.outcome.id = a.outcome.id → a'.outcome = a.outcome) ∧
        ∃ lower, lastNumber lower a.outcome.id l = a.number? := by
  constructor
  · intro hall a ha hbound
    obtain ⟨⟨k, hk, houtcome⟩, hlast⟩ := (counts_iff ha hbound).mp (hall a ha hbound)
    refine ⟨fun a' ha' hbound' hname => ?_, hlast⟩
    -- both outcomes are that of the last bound of their name
    obtain ⟨⟨k', hk', houtcome'⟩, -⟩ := (counts_iff ha' hbound').mp (hall a' ha' hbound')
    rw [hname, hk] at hk'
    rw [← houtcome', ← houtcome, Option.some.inj hk']
  · intro hall a ha hbound
    obtain ⟨hsame, hlast⟩ := hall a ha hbound
    obtain ⟨k, hk⟩ := lastBound_isSome ha hbound
    obtain ⟨hmem, hkbound, hname⟩ := mem_of_lastBound hk
    exact (counts_iff ha hbound).mpr ⟨⟨k, hk, hsame k hmem hkbound hname⟩, hlast⟩

/-- **Every value is an answer, and of the bounds the last ones count.** Where a numeric stem is
answered, its answers are its values, one by one and in order, and then its ranges: one for each
name of outcomes with bounds, between the last bounds of both sides. So each bound is an end of
the range of its outcome just when outcomes of one name are one outcome and no bound names a
number that the last bounds of its name do not name. -/
theorem numericAnswers_counted {rule : StemRule} {answers : List NumericAnswer} {ranged : Bool}
    (h : numericAnswers question rule set = .ok (answers, ranged)) :
    (∃ values ranges, answers = values ++ ranges ∧
      List.Forall₂ (AnswersValue set (bestScore rule set))
        (rule.alternatives.filter fun a => !a.isBound) values ∧
      List.Forall₂ (AnswersRange set (bestScore rule set)) (pairedBounds rule.alternatives)
        ranges) ∧
    ((∀ a ∈ rule.alternatives, a.isBound = true → Counts (pairedBounds rule.alternatives) a) ↔
      ∀ a ∈ rule.alternatives, a.isBound = true →
        (∀ a' ∈ rule.alternatives, a'.isBound = true → a'.outcome.id = a.outcome.id →
          a'.outcome = a.outcome) ∧
        ∃ lower, lastNumber lower a.outcome.id rule.alternatives = a.number?) := by
  refine ⟨?_, forall_counts_iff⟩
  obtain ⟨values, bounds, ranges, hsorts, hranges, rfl⟩ := numericAnswers_eq_ok h
  obtain ⟨hpairs, hvalues⟩ := hsorts.pairs pairsUp_nil
  rw [List.nil_append] at hpairs
  rw [hpairs.eq_pairedBounds] at hranges
  exact ⟨values, ranges, rfl, hvalues, hranges.imp fun _ _ => answersRange_of_rangeAnswer⟩

/-! ## Bounds that are dropped -/

/-- A value and two ranges, each of an outcome of its own. -/
def valueAndRanges : List Outcome :=
  [⟨"0 low", 1, "\"0\" >= \"1\" AND \"0\" <= \"2\"", "low"⟩,
    ⟨"0 middle", 1, "\"0\" = \"3.5\"", "middle"⟩,
    ⟨"0 high", 1, "\"0\" > \"5\" AND \"0\" < \"6\"", "high"⟩]

/-- All bounds of ranges with outcomes of their own count. -/
theorem numericAnswers_counted_valueAndRanges :
    ∃ set rule answers, aggregate none valueAndRanges = .ok set ∧ rule ∈ set.stems ∧
      numericAnswers none rule set = .ok (answers, true) ∧ answers.length = 3 ∧
      ∀ a ∈ rule.alternatives, a.isBound = true → Counts (pairedBounds rule.alternatives) a := by
  let rule : StemRule := ⟨"0",
    [⟨⟨"0", .atLeast, "1", false, true⟩, valueAndRanges[0]⟩,
      ⟨⟨"0", .atMost, "2", false, true⟩, valueAndRanges[0]⟩,
      ⟨⟨"0", .equal, "3.5", false, true⟩, valueAndRanges[1]⟩,
      ⟨⟨"0", .above, "5", false, true⟩, valueAndRanges[2]⟩,
      ⟨⟨"0", .below, "6", false, true⟩, valueAndRanges[2]⟩]⟩
  let set : OutcomeSet := ⟨.perStem, [rule], none, none, none⟩
  have hset : aggregate none valueAndRanges = .ok set := by decide +kernel
  have hanswers : numericAnswers none rule set =
      .ok ([⟨.finite false 1024 (3 <<< 50), .zero false, .one, "middle"⟩,
        ⟨.finite false 1023 (1 <<< 51), .finite false 1022 0, .one, "low"⟩,
        ⟨.finite false 1025 (3 <<< 49), .finite false 1022 0, .one, "high"⟩], true) := by
    decide +kernel
  exact ⟨set, rule, _, hset, List.mem_singleton_self rule, hanswers, rfl,
    (numericAnswers_counted hanswers).2.mpr (by decide +kernel)⟩

/-- One outcome that accepts either of two ranges. -/
def eitherRange : List Outcome :=
  [⟨"0 either", 1, "\"0\" >= \"1\" AND \"0\" <= \"2\" OR \"0\" >= \"5\" AND \"0\" <= \"6\"", ""⟩]

/-- **A range may be lost.** Not every bound of an answered stem is an end of a range that is
among the answers: here the one outcome gives one answer, the range from five to six. -/
theorem not_forall_bounds_counted :
    ¬ ∀ (outcomes : List Outcome) (set : OutcomeSet) (rule : StemRule)
        (answers : List NumericAnswer) (ranged : Bool),
      aggregate none outcomes = .ok set → rule ∈ set.stems →
      numericAnswers none rule set = .ok (answers, ranged) →
      ∃ values bounds ranges, answers = values ++ ranges ∧
        List.Forall₂ (AnswersValue set (bestScore rule set))
          (rule.alternatives.filter fun a => !a.isBound) values ∧
        List.Forall₂ (AnswersRange set (bestScore rule set)) bounds ranges ∧
        ∀ a ∈ rule.alternatives, a.isBound = true → Counts bounds a := by
  intro h
  let rule : StemRule := ⟨"0",
    [⟨⟨"0", .atLeast, "1", false, true⟩, eitherRange[0]⟩,
      ⟨⟨"0", .atMost, "2", false, true⟩, eitherRange[0]⟩,
      ⟨⟨"0", .atLeast, "5", false, true⟩, eitherRange[0]⟩,
      ⟨⟨"0", .atMost, "6", false, true⟩, eitherRange[0]⟩]⟩
  let set : OutcomeSet := ⟨.perStem, [rule], none, none, none⟩
  have hset : aggregate none eitherRange = .ok set := by decide +kernel
  have hanswers : numericAnswers none rule set =
      .ok ([⟨.finite false 1025 (3 <<< 49), .finite false 1022 0, .one, ""⟩], true) := by
    decide +kernel
  obtain ⟨values, bounds, ranges, hsplit, hvalues, hranges, hall⟩ :=
    h eitherRange set rule _ _ hset (List.mem_singleton_self rule) hanswers
  -- there are no values and one range, whose bounds name two numbers at most
  have hnone : (rule.alternatives.filter fun a => !a.isBound) = [] := by decide +kernel
  rw [hnone] at hvalues
  obtain rfl := List.forall₂_nil_left_iff.mp hvalues
  rw [List.nil_append] at hsplit
  subst hsplit
  obtain ⟨b, _, -, hnil, rfl⟩ := List.forall₂_cons_right_iff.mp hranges
  obtain rfl := List.forall₂_nil_right_iff.mp hnil
  have hbound : ∀ a ∈ rule.alternatives, a.isBound = true := by decide +kernel
  have hnumbers : (rule.alternatives.map Alternative.number?).Nodup := by decide +kernel
  have hends : rule.alternatives.map Alternative.number? ⊆ [b.low, b.high] := by
    intro n hn
    obtain ⟨a, ha, rfl⟩ := List.mem_map.mp hn
    obtain ⟨b', hb', -, hside⟩ := hall a ha (hbound a ha)
    rw [List.mem_singleton.mp hb'] at hside
    exact List.mem_pair.mpr (hside.imp Eq.symm Eq.symm)
  have hfew : 4 ≤ 2 := (List.subperm_of_subset hnumbers hends).length_le
  exact absurd hfew (by decide)

end QuestionBank.Scoring
