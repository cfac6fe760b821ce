import Mathlib.Data.List.Forall2

/-!
# Traversals that may fail

A list is traversed by a function that may fail. The traversal succeeds with the
results of all elements, or fails as the first element that fails.
-/

namespace QuestionBank.Traversal

variable {ε α β : Type}

theorem map_eq_ok_iff {f : α → β} {x : Except ε α} {b : β} :
    x.map f = .ok b ↔ ∃ a, x = .ok a ∧ f a = b := by
  cases x <;> simp [Except.map]

theorem map_eq_error_iff {f : α → β} {x : Except ε α} {e : ε} :
    x.map f = .error e ↔ x = .error e := by
  cases x <;> simp [Except.map]

theorem map_isOk_iff {f : α → β} {x : Except ε α} :
    (∃ b, x.map f = .ok b) ↔ ∃ a, x = .ok a := by
  cases x <;> simp [Except.map]

theorem bind_eq_ok_iff {f : α → Except ε β} {x : Except ε α} {b : β} :
    x.bind f = .ok b ↔ ∃ a, x = .ok a ∧ f a = .ok b := by
  cases x <;> simp [Except.bind]

theorem mapM_cons_ok {f : α → Except ε β} {a : α} {b : β} (l : List α) (h : f a = .ok b) :
    (a :: l).mapM f = (l.mapM f).map (b :: ·) := by
  rw [List.mapM_cons, h]
  rfl

theorem mapM_cons_error {f : α → Except ε β} {a : α} {e : ε} (l : List α) (h : f a = .error e) :
    (a :: l).mapM f = .error e := by
  rw [List.mapM_cons, h]
  rfl

/-- A traversal succeeds with a list just when each element succeeds with the entry in
its place. -/
theorem mapM_eq_ok_iff {f : α → Except ε β} {l : List α} {bs : List β} :
    l.mapM f = .ok bs ↔ List.Forall₂ (fun a b => f a = .ok b) l bs := by
  induction l generalizing bs with
  | nil =>
      rw [List.forall₂_nil_left_iff]
      exact ⟨fun h => (Except.ok.inj h).symm, fun h => h ▸ rfl⟩
  | cons a l ih =>
      rw [List.forall₂_cons_left_iff]
      cases ha : f a with
      | error e => simp [mapM_cons_error l ha]
      | ok b =>
          rw [mapM_cons_ok l ha]
          cases hl : l.mapM f with
          | error e =>
              have hne : ∀ u, ¬ List.Forall₂ (fun a b => f a = .ok b) l u := fun u hu => by
                rw [← ih, hl] at hu
                cases hu
              simp [Except.map, hne]
          | ok cs =>
              simp only [Except.map, Except.ok.injEq]
              constructor
              · rintro rfl
                exact ⟨b, cs, rfl, ih.mp hl, rfl⟩
              · rintro ⟨b', u, hb, hu, rfl⟩
                rw [← ih, hl] at hu
                cases hb
                cases hu
                rfl

/-- Each result of a traversal comes from an element. -/
theorem exists_of_mem_mapM {f : α → Except ε β} {l : List α} {bs : List β}
    (h : l.mapM f = .ok bs) {b : β} (hb : b ∈ bs) : ∃ a ∈ l, f a = .ok b := by
  rw [mapM_eq_ok_iff] at h
  induction h with
  | nil => cases hb
  | cons ha _ ih =>
      rcases List.mem_cons.mp hb with rfl | hb
      · exact ⟨_, .head _, ha⟩
      · obtain ⟨a, hmem, ha⟩ := ih hb
        exact ⟨a, .tail _ hmem, ha⟩

/-- If each element is related to something, the list is related to a list. -/
theorem exists_forall₂ {R : α → β → Prop} {l : List α} (h : ∀ a ∈ l, ∃ b, R a b) :
    ∃ bs, List.Forall₂ R l bs := by
  induction l with
  | nil => exact ⟨[], .nil⟩
  | cons a l ih =>
      obtain ⟨b, hb⟩ := h a (by simp)
      obtain ⟨bs, hbs⟩ := ih fun c hc => h c (by simp [hc])
      exact ⟨b :: bs, .cons hb hbs⟩

/-- Each element of one of two related lists is related to an element of the other. -/
theorem exists_of_mem_left {R : α → β → Prop} {l : List α} {bs : List β} (h : List.Forall₂ R l bs)
    {a : α} (ha : a ∈ l) : ∃ b ∈ bs, R a b := by
  induction h with
  | nil => cases ha
  | @cons a' b l bs hab _ ih =>
      rcases List.mem_cons.mp ha with rfl | ha
      · exact ⟨b, .head _, hab⟩
      · obtain ⟨b', hb', h⟩ := ih ha
        exact ⟨b', .tail _ hb', h⟩

/-- Lists that are related to one list in the middle are related to each other. -/
theorem forall₂_comp {γ : Type} {R : α → β → Prop} {S : β → γ → Prop} {l : List α} {bs : List β}
    {cs : List γ} (h : List.Forall₂ R l bs) (h' : List.Forall₂ S bs cs) :
    List.Forall₂ (fun a c => ∃ b, R a b ∧ S b c) l cs := by
  induction h generalizing cs with
  | nil =>
      cases h'
      exact .nil
  | cons ha _ ih =>
      cases h' with
      | cons hb hrest => exact .cons ⟨_, ha, hb⟩ (ih hrest)

/-- A traversal succeeds just when each element does. -/
theorem mapM_isOk_iff {f : α → Except ε β} {l : List α} :
    (∃ bs, l.mapM f = .ok bs) ↔ ∀ a ∈ l, ∃ b, f a = .ok b := by
  induction l with
  | nil => exact ⟨fun _ => List.forall_mem_nil _, fun _ => ⟨[], rfl⟩⟩
  | cons a l ih =>
      rw [List.forall_mem_cons]
      cases ha : f a with
      | error e => simp [mapM_cons_error l ha]
      | ok b => simp [mapM_cons_ok l ha, map_isOk_iff, ih]

theorem mapM_error_of_append {f : α → Except ε β} {before : List α} {a : α} {e : ε}
    (hbefore : ∀ b ∈ before, ∃ c, f b = .ok c) (ha : f a = .error e) (after : List α) :
    (before ++ a :: after).mapM f = .error e := by
  induction before with
  | nil => exact mapM_cons_error after ha
  | cons b before ih =>
      obtain ⟨c, hc⟩ := hbefore b (.head _)
      rw [List.cons_append, mapM_cons_ok _ hc, ih fun x hx => hbefore x (.tail _ hx)]
      rfl

theorem exists_error_of_mapM {f : α → Except ε β} {l : List α} {e : ε}
    (h : l.mapM f = .error e) :
    ∃ before a after, l = before ++ a :: after ∧ (∀ b ∈ before, ∃ c, f b = .ok c) ∧
      f a = .error e := by
  induction l with
  | nil => cases h
  | cons a l ih =>
      cases ha : f a with
      | error e' =>
          rw [mapM_cons_error l ha] at h
          cases h
          exact ⟨[], a, l, rfl, List.forall_mem_nil _, ha⟩
      | ok b =>
          rw [mapM_cons_ok l ha, map_eq_error_iff] at h
          obtain ⟨before, a', after, rfl, hbefore, he⟩ := ih h
          exact ⟨a :: before, a', after, rfl, List.forall_mem_cons.mpr ⟨⟨b, ha⟩, hbefore⟩, he⟩

/-- A traversal fails just as the first element that fails. -/
theorem mapM_eq_error_iff {f : α → Except ε β} {l : List α} {e : ε} :
    l.mapM f = .error e ↔
      ∃ before a after, l = before ++ a :: after ∧ (∀ b ∈ before, ∃ c, f b = .ok c) ∧
        f a = .error e := by
  constructor
  · exact exists_error_of_mapM
  · rintro ⟨before, a, after, rfl, hbefore, ha⟩
    exact mapM_error_of_append hbefore ha after

end QuestionBank.Traversal
