import QuestionBank.Scoring.Matches

/-!
# The first of each

Stems and alternatives are collected one by one, and what is met again is passed over: a stem
that is there already, or an alternative of the same answer up to letter case. What comes of this
is the list of the elements whose key no earlier element has. It is a part of the list in the
same order, each key is met once in it, and no key is lost.
-/

namespace QuestionBank.Scoring

section FirstOfEach

variable {α β : Type} [DecidableEq β] (key : α → β)

/-- The elements whose key no earlier element has. -/
def firstOfEach : List α → List α
  | [] => []
  | a :: l => a :: (firstOfEach l).filter fun b => key b ≠ key a

/-! ## Elements added one by one -/

/-- Adds an element unless one before it has its key. -/
def addNew (kept : List α) (a : α) : List α :=
  if key a ∈ kept.map key then kept else kept ++ [a]

theorem addNew_cons_of_eq {a b : α} (h : key a = key b) (kept : List α) :
    addNew key (b :: kept) a = b :: kept :=
  if_pos (h ▸ List.mem_map_of_mem (.head _))

theorem addNew_cons_of_ne {a b : α} (h : key a ≠ key b) (kept : List α) :
    addNew key (b :: kept) a = b :: addNew key kept a := by
  simp only [addNew, List.map_cons, List.mem_cons, h, false_or]
  split <;> rfl

/-- To add elements one by one is to add the first of each key that is not there yet. -/
theorem foldl_addNew (l kept : List α) :
    l.foldl (addNew key) kept =
      kept ++ (firstOfEach key l).filter fun a => key a ∉ kept.map key := by
  induction l generalizing kept with
  | nil => exact (List.append_nil kept).symm
  | cons a l ih =>
      rw [List.foldl_cons, ih, firstOfEach, addNew]
      by_cases hold : key a ∈ kept.map key
      · -- what is dropped for the key of `a` is dropped for what stands before `a` as well
        have hfilter (b : α) : (key b ∉ kept.map key ∧ key b ≠ key a) ↔ key b ∉ kept.map key :=
          ⟨And.left, fun h => ⟨h, fun heq => h (heq ▸ hold)⟩⟩
        rw [if_pos hold, List.filter_cons_of_neg (by simpa using hold), List.filter_filter]
        simp only [← Bool.decide_and, hfilter]
      · have hfilter (b : α) : key b ∉ (kept ++ [a]).map key ↔
            (key b ∉ kept.map key ∧ key b ≠ key a) := by
          rw [List.map_append, List.mem_append, not_or, List.map_singleton, List.mem_singleton]
        rw [if_neg hold, List.filter_cons_of_pos (by simpa using hold), List.filter_filter,
          List.append_assoc, List.singleton_append]
        simp only [← Bool.decide_and, hfilter]

theorem foldl_addNew_nil (l : List α) : l.foldl (addNew key) [] = firstOfEach key l := by
  rw [foldl_addNew]
  simp

/-! ## What is kept -/

/-- What is kept stands in the list in the same order. -/
theorem firstOfEach_sublist (l : List α) : (firstOfEach key l).Sublist l := by
  induction l with
  | nil => exact .slnil
  | cons a l ih => exact (List.filter_sublist.trans ih).cons_cons a

/-- The first element is always kept. -/
theorem firstOfEach_ne_nil {l : List α} (h : l ≠ []) : firstOfEach key l ≠ [] := by
  obtain ⟨a, l, rfl⟩ := List.exists_cons_of_ne_nil h
  exact List.cons_ne_nil _ _

/-- Each key is met once. -/
theorem nodup_firstOfEach (l : List α) : ((firstOfEach key l).map key).Nodup := by
  induction l with
  | nil => exact List.nodup_nil
  | cons a l ih =>
      rw [firstOfEach, List.map_cons, List.nodup_cons]
      constructor
      · rw [List.mem_map]
        rintro ⟨b, hb, heq⟩
        simp [heq] at hb
      · exact ih.sublist (List.filter_sublist.map key)

/-- If no key is met twice, nothing is dropped. -/
theorem firstOfEach_eq_self {key : α → β} {l : List α} (h : (l.map key).Nodup) :
    firstOfEach key l = l := by
  induction l with
  | nil => rfl
  | cons a l ih =>
      rw [List.map_cons, List.nodup_cons] at h
      rw [firstOfEach, ih h.2, List.filter_eq_self.mpr]
      intro b hb
      have hne : key b ≠ key a := fun heq => h.1 (heq ▸ List.mem_map_of_mem hb)
      exact decide_eq_true hne

/-- If some key is met twice, something is dropped. -/
theorem length_firstOfEach_lt {l : List α} (h : ¬ (l.map key).Nodup) :
    (firstOfEach key l).length < l.length := by
  have hsublist := firstOfEach_sublist key l
  refine Nat.lt_of_le_of_ne hsublist.length_le fun hlength => h ?_
  rw [← hsublist.eq_of_length hlength]
  exact nodup_firstOfEach key l

/-- The element of a key that is kept is the first one. -/
theorem find?_firstOfEach (l : List α) (k : β) :
    (firstOfEach key l).find? (fun a => key a = k) = l.find? fun a => key a = k := by
  induction l with
  | nil => rfl
  | cons a l ih =>
      rw [firstOfEach, List.find?_cons, List.find?_cons]
      by_cases ha : key a = k
      · simp [ha]
      · rw [← ih, List.find?_filter]
        simp only [ha, decide_false]
        congr 1
        funext b
        by_cases hb : key b = k
        · simp [hb, Ne.symm ha]
        · simp [hb]

/-- No key is lost. -/
theorem mem_map_firstOfEach {l : List α} {k : β} :
    k ∈ (firstOfEach key l).map key ↔ k ∈ l.map key := by
  have hfind (m : List α) : k ∈ m.map key ↔ (m.find? fun a => key a = k).isSome := by
    simp [List.find?_isSome]
  rw [hfind, hfind, find?_firstOfEach]

/-- Of a list behind another one, what has a key of the other one is dropped. -/
theorem firstOfEach_append (l m : List α) :
    firstOfEach key (l ++ m) =
      firstOfEach key l ++ (firstOfEach key m).filter fun a => key a ∉ l.map key := by
  rw [← foldl_addNew_nil, List.foldl_append, foldl_addNew_nil, foldl_addNew]
  simp only [mem_map_firstOfEach]

end FirstOfEach

/-! ## Elements that are their own keys -/

section Distinct

variable {β : Type} [DecidableEq β]

theorem mem_firstOfEach_id {l : List β} {b : β} : b ∈ firstOfEach id l ↔ b ∈ l := by
  simpa only [List.map_id] using mem_map_firstOfEach id (l := l) (k := b)

theorem nodup_firstOfEach_id (l : List β) : (firstOfEach id l).Nodup := by
  simpa only [List.map_id] using nodup_firstOfEach id l

/-- Of a row of the same element, one is kept. -/
theorem firstOfEach_replicate (n : Nat) (b : β) :
    firstOfEach id (List.replicate (n + 1) b) = [b] := by
  have hnone : (firstOfEach id (List.replicate n b)).filter (fun a => id a ≠ id b) = [] := by
    rw [List.filter_eq_nil_iff]
    intro a ha
    rw [mem_firstOfEach_id] at ha
    simp [List.eq_of_mem_replicate ha]
  rw [List.replicate_succ, firstOfEach, hnone]

end Distinct

/-! ## Stems of matches -/

namespace MatchResult

theorem foldl_addNew_nil (l : List String) : l.foldl addNew [] = firstOfEach id l := by
  have hadd : addNew = Scoring.addNew id := by
    funext seen s
    simp [addNew, Scoring.addNew]
  rw [hadd, Scoring.foldl_addNew_nil]

/-- The stems are those that the matches name, each where it is first met. -/
theorem stemIds_eq_firstOfEach (r : MatchResult) :
    r.stemIds = firstOfEach id (r.found.map Match.stem) := foldl_addNew_nil _

end MatchResult

end QuestionBank.Scoring
