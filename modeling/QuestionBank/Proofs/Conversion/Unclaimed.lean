import QuestionBank.Proofs.Conversion.Distractors

/-!
# What is offered as wrong, once each

The texts that a block offers as wrong are drawn from the own options of its stem and from what
is left over in the question. Of those that are written alike, letter case left aside, only the
first one is offered, and none that is written like a match. Apart from empty texts nothing else
is left out. A text may grow when it is folded, but it never vanishes, so an empty text is
written like no other.
-/

namespace QuestionBank

open QuestionBank.Scoring QuestionBank.Text

/-! ## Folded texts -/

theorem foldChar_ne_nil (c : Char) : foldChar c ≠ [] := by
  have hexpansions : ∀ entry ∈ foldExpansions, entry.2 ≠ [] := by decide
  unfold foldChar
  split
  · exact List.cons_ne_nil _ _
  · split
    next codes hcodes =>
      obtain ⟨before, after, hentry, -⟩ := List.lookup_eq_some_iff.mp hcodes
      have hmem : (c.toNat, codes) ∈ foldExpansions := by
        rw [hentry]
        simp
      intro hnil
      exact hexpansions _ hmem (List.map_eq_nil_iff.mp hnil)
    next => exact List.cons_ne_nil _ _

theorem fold_eq_empty_iff {s : String} : fold s = "" ↔ s = "" := by
  constructor
  · intro h
    rw [fold, String.ofList_eq_empty_iff, List.flatMap_eq_nil_iff] at h
    rw [← String.toList_eq_nil_iff, List.eq_nil_iff_forall_not_mem]
    intro c hc
    exact foldChar_ne_nil c (h c hc)
  · rintro rfl
    rfl

/-! ## The first of each -/

/-- In the place `i` of a list stands `s`, and no text before it is written like it, letter case
left aside. -/
structure FirstAt (l : List String) (i : Nat) (s : String) : Prop where
  getElem?_eq : l[i]? = some s
  first : ∀ j < i, ∀ t, l[j]? = some t → fold t ≠ fold s

theorem FirstAt.cons {l : List String} {i : Nat} {s t : String} (h : FirstAt l i s)
    (ht : fold t ≠ fold s) : FirstAt (t :: l) (i + 1) s := by
  constructor
  · exact h.getElem?_eq
  · intro j hj u hu
    cases j with
    | zero =>
        obtain rfl := Option.some.inj hu
        exact ht
    | succ j => exact h.first j (Nat.lt_of_succ_lt_succ hj) u hu

/-- Texts that stand first in a list still do so behind a text that is written like none of
them. -/
theorem places_cons {l kept : List String} {places : List Nat} {t : String}
    (h : List.Forall₂ (FirstAt l) places kept) (ht : ∀ s ∈ kept, fold t ≠ fold s) :
    List.Forall₂ (FirstAt (t :: l)) (places.map (· + 1)) kept := by
  rw [List.forall₂_map_left_iff]
  induction h with
  | nil => exact .nil
  | cons hs _ ih =>
      obtain ⟨hfirst, hrest⟩ := List.forall_mem_cons.mp ht
      exact .cons (hs.cons hfirst) (ih hrest)

variable {taken l : List String}

/-- What is new stands first in the list, in places that go up. -/
theorem exists_places_unclaimed (taken l : List String) :
    ∃ places, places.Pairwise (· < ·) ∧
      List.Forall₂ (FirstAt l) places (unclaimed taken l) := by
  induction l generalizing taken with
  | nil => exact ⟨[], .nil, .nil⟩
  | cons t l ih =>
      have hraised {places : List Nat} (h : places.Pairwise (· < ·)) :
          (places.map (· + 1)).Pairwise (· < ·) := by
        rw [List.pairwise_map]
        exact h.imp Nat.succ_lt_succ
      rw [unclaimed]
      split
      next hskip =>
        obtain ⟨places, hplaces, hfirst⟩ := ih taken
        refine ⟨places.map (· + 1), hraised hplaces, places_cons hfirst ?_⟩
        intro s hs halike
        obtain ⟨hnew, hleads⟩ := mem_unclaimed_iff.mp hs
        rcases Bool.or_eq_true_iff.mp hskip with hempty | htaken
        · -- the text is empty, and what is kept is not
          rw [String.isEmpty_iff] at hempty
          rw [hempty, eq_comm, fold_eq_empty_iff.mpr rfl, fold_eq_empty_iff] at halike
          have hkept := List.find?_some hleads
          simp [halike] at hkept
        · rw [halike] at htaken
          exact hnew (List.contains_iff_mem.mp htaken)
      next =>
        obtain ⟨places, hplaces, hfirst⟩ := ih (fold t :: taken)
        have hzero : FirstAt (t :: l) 0 t :=
          ⟨rfl, fun j hj => absurd hj (Nat.not_lt_zero j)⟩
        refine ⟨0 :: places.map (· + 1), ?_, .cons hzero (places_cons hfirst ?_)⟩
        · rw [List.pairwise_cons]
          refine ⟨?_, hraised hplaces⟩
          intro i hi
          obtain ⟨j, -, rfl⟩ := List.mem_map.mp hi
          exact Nat.succ_pos j
        · intro s hs halike
          exact (mem_unclaimed_iff.mp hs).1 (halike ▸ .head _)

/-- No two texts that are new are written alike. -/
theorem pairwise_unclaimed (taken l : List String) :
    (unclaimed taken l).Pairwise fun s t => fold s ≠ fold t := by
  induction l generalizing taken with
  | nil => exact .nil
  | cons t l ih =>
      rw [unclaimed]
      split
      · exact ih taken
      · refine .cons ?_ (ih (fold t :: taken))
        intro s hs halike
        exact (mem_unclaimed_iff.mp hs).1 (halike ▸ .head _)

/-- What is new is not empty, and no text before it claims it. -/
theorem not_claimed_of_mem_unclaimed {s : String} (h : s ∈ unclaimed taken l) :
    s ≠ "" ∧ fold s ∉ taken := by
  obtain ⟨hnew, hleads⟩ := mem_unclaimed_iff.mp h
  have hkept := List.find?_some hleads
  refine ⟨?_, hnew⟩
  rintro rfl
  simp at hkept

/-- A text of the list is empty, claimed, or written like one that is new. -/
theorem claimed_or_mem_unclaimed {s : String} (hs : s ∈ l) (hne : s ≠ "") :
    fold s ∈ taken ∨ ∃ t ∈ unclaimed taken l, fold t = fold s := by
  have hsome : (l.find? fun t => !t.isEmpty && fold t == fold s).isSome := by
    rw [List.find?_isSome]
    exact ⟨s, hs, by simpa using hne⟩
  obtain ⟨t, ht⟩ := Option.isSome_iff_exists.mp hsome
  have halike : fold t = fold s := by
    have hkept := List.find?_some ht
    simpa using (Bool.and_eq_true_iff.mp hkept).2
  by_cases htaken : fold s ∈ taken
  · exact .inl htaken
  · refine .inr ⟨t, mem_unclaimed_iff.mpr ⟨halike ▸ htaken, ?_⟩, halike⟩
    rw [Leads, halike]
    exact ht

/-- **What is offered as wrong is complete, and nothing is offered twice.** No text that is offered
is empty or written like a match, and no two are written alike, letter case left aside. Each own
option and each text that is left over is empty, written like a match, or written like a text that
is offered. The texts that are offered stand among the own options and what is left over, in the
same order and each in the place of the first one that is written like it. -/
theorem distractors_once (own : List String) (found : List Match) (residual : List String) :
    (∀ s ∈ distractors own found residual, s ≠ "" ∧ ∀ m ∈ found, fold m.answer ≠ fold s) ∧
    (distractors own found residual).Pairwise (fun s t => fold s ≠ fold t) ∧
    (∀ s ∈ own ++ residual, s ≠ "" → (∃ m ∈ found, fold m.answer = fold s) ∨
      ∃ t ∈ distractors own found residual, fold t = fold s) ∧
    ∃ places, places.Pairwise (· < ·) ∧
      List.Forall₂ (FirstAt (own ++ residual)) places (distractors own found residual) := by
  refine ⟨?_, pairwise_unclaimed _ _, ?_, exists_places_unclaimed _ _⟩
  · intro s hs
    obtain ⟨hne, hnew⟩ := not_claimed_of_mem_unclaimed hs
    refine ⟨hne, ?_⟩
    intro m hm halike
    exact hnew (List.mem_map.mpr ⟨m, hm, halike⟩)
  · intro s hs hne
    exact (claimed_or_mem_unclaimed hs hne).imp_left List.mem_map.mp

end QuestionBank
