import QuestionBank.Proofs.Text.TakeWhile
import QuestionBank.Text.Blank
import QuestionBank.Text.Lower

/-!
# Lower case is settled

Lowering a text twice is lowering it once. A letter that comes of lowering is never
blank and never a sign of ASCII, so a text in lower case has no blank and no such sign
that was not there before.
-/

namespace QuestionBank.Text

/-! ## ASCII -/

/-- What holds of the ASCII characters by their numbers holds of each of them. -/
theorem of_ascii {P : Char → Prop} (h : ∀ n < 0x80, P (Char.ofNat n)) {c : Char}
    (hc : c.toNat < 0x80) : P c :=
  Char.ofNat_toNat c ▸ h c.toNat hc

theorem toNat_of_isAlpha {c : Char} (h : c.isAlpha = true) : 0x41 ≤ c.toNat ∧ c.toNat < 0x80 := by
  unfold Char.isAlpha Char.isUpper Char.isLower at h
  simp only [Bool.or_eq_true, Bool.and_eq_true, decide_eq_true_eq, UInt32.le_iff_toNat_le,
    ge_iff_le] at h
  have : c.toNat = c.val.toNat := rfl
  have : 'A'.val.toNat = 0x41 := rfl
  have : 'Z'.val.toNat = 0x5A := rfl
  have : 'a'.val.toNat = 0x61 := rfl
  have : 'z'.val.toNat = 0x7A := rfl
  omega

/-! ## Runs -/

namespace Run

/-- The image of the first code point of a run. -/
def first (r : Run) : Nat := (r.lo + r.shift).toNat

/-- The image of the last code point of a run. -/
def last (r : Run) : Nat := (r.hi + r.shift).toNat

/-- The code points that a run maps. -/
def points (r : Run) : List Nat :=
  (List.range ((r.hi - r.lo) / r.step + 1)).map fun k => r.lo + k * r.step

/-- The images of a run lie before or behind another run. -/
def misses (r r' : Run) : Bool := Nat.blt r.last r'.lo || Nat.blt r'.hi r.first

end Run

/-- The code points above the signs of ASCII that are blank or that lower case treats in
its own way. -/
def unsettledPoints : List Nat :=
  [0x85, 0xA0, 0x130, 0x3A3, 0x1680, 0x2000, 0x2001, 0x2002, 0x2003, 0x2004, 0x2005, 0x2006,
   0x2007, 0x2008, 0x2009, 0x200A, 0x2028, 0x2029, 0x202F, 0x205F, 0x3000]

/-- The images of a run are letters that no run maps. -/
def Run.settles (r : Run) : Bool :=
  Nat.ble 0x61 r.first &&
    (Nat.blt r.last 0xD800 || (Nat.blt 0xDFFF r.first && Nat.blt r.last 0x110000)) &&
    unsettledPoints.all (fun n => Nat.blt n r.first || Nat.blt r.last n) &&
    (lowerRuns.filter fun r' => !r.misses r').all fun r' =>
      r.points.all fun n => !r'.covers (n + r.shift).toNat

theorem settles_lowerRuns : lowerRuns.all Run.settles = true := by decide +kernel

theorem mem_points {r : Run} {n : Nat} (h : r.covers n) : n ∈ r.points := by
  simp only [Run.covers, Bool.and_eq_true, decide_eq_true_eq, beq_iff_eq] at h
  obtain ⟨⟨hlo, hhi⟩, hstep⟩ := h
  refine List.mem_map.mpr ⟨(n - r.lo) / r.step, List.mem_range.mpr ?_, ?_⟩
  · exact Nat.lt_succ_of_le (Nat.div_le_div_right (by omega))
  · rw [Nat.div_mul_cancel (Nat.dvd_of_mod_eq_zero hstep)]
    omega

/-! ## Letters -/

theorem mem_unsettledPoints {c : Char} (h : isBlank c = true) (hletter : 0x61 ≤ c.toNat) :
    c.toNat ∈ unsettledPoints := by
  unfold isBlank at h
  generalize c.toNat = n at h hletter
  simp only [Bool.or_eq_true, Bool.and_eq_true, decide_eq_true_eq, beq_iff_eq] at h
  unfold unsettledPoints
  simp only [List.mem_cons, List.not_mem_nil, or_false]
  omega

theorem toLower_small {c : Char} (hascii : c.toNat < 0x80) (hsmall : 0x61 ≤ c.toNat) :
    c.toLower = c :=
  of_ascii (P := fun c => 0x61 ≤ c.toNat → c.toLower = c) (by decide +kernel) hascii hsmall

/-- In ASCII, lower case stays, and a capital becomes a letter. -/
theorem toLower_ascii {c : Char} (hascii : c.toNat < 0x80) :
    c.toLower.toNat < 0x80 ∧ c.toLower.toLower = c.toLower ∧
      (c.toLower = c ∨ 0x61 ≤ c.toLower.toNat ∧ isBlank c.toLower = false) :=
  of_ascii (P := fun c => c.toLower.toNat < 0x80 ∧ c.toLower.toLower = c.toLower ∧
    (c.toLower = c ∨ 0x61 ≤ c.toLower.toNat ∧ isBlank c.toLower = false)) (by decide +kernel) hascii

/-- A character that lower case leaves as it is, wherever it stands. -/
def Stays (c : Char) : Prop := ∀ before after, lowerChar before c after = [c]

/-- A letter that comes of lowering another character: it stays, and is no blank. -/
structure Settled (c : Char) : Prop where
  stays : Stays c
  letter : 0x61 ≤ c.toNat
  blank : isBlank c = false

theorem stays_of_ascii {c : Char} (hascii : c.toNat < 0x80) (h : c.toLower = c) : Stays c := by
  intro before after
  rw [lowerChar, if_pos hascii, h]

theorem stays_of_uncovered {c : Char} (hascii : ¬ c.toNat < 0x80) (hsigma : c.toNat ≠ 0x3A3)
    (hdotted : c.toNat ≠ 0x130) (h : ∀ r ∈ lowerRuns, r.covers c.toNat = false) : Stays c := by
  intro before after
  have hnone : lowerRuns.find? (·.covers c.toNat) = none := by
    rw [List.find?_eq_none]
    intro r hr
    simp [h r hr]
  rw [lowerChar, if_neg hascii, if_neg hsigma, if_neg hdotted, mapByRuns, hnone]

/-- The image of a run stays. -/
theorem settled_image {r : Run} (hr : r ∈ lowerRuns) {n : Nat} (hn : r.covers n = true) :
    Settled (Char.ofNat (n + r.shift).toNat) := by
  have h := List.all_eq_true.mp settles_lowerRuns r hr
  simp only [Run.settles, Bool.and_eq_true, Bool.or_eq_true, Nat.ble_eq, Nat.blt_eq,
    List.all_eq_true, List.mem_filter, Bool.not_eq_true'] at h
  obtain ⟨⟨⟨hletter, hvalid⟩, hpoints⟩, huncovered⟩ := h
  have hrange : r.first ≤ (n + r.shift).toNat ∧ (n + r.shift).toNat ≤ r.last := by
    simp only [Run.covers, Bool.and_eq_true, decide_eq_true_eq] at hn
    unfold Run.first Run.last
    omega
  have hmem := mem_points hn
  generalize hm : (n + r.shift).toNat = m at hrange ⊢
  have hchar : (Char.ofNat m).toNat = m := by
    have : m.isValidChar := by
      unfold Nat.isValidChar
      omega
    rw [Char.ofNat, dif_pos this]
    rfl
  have hsettled (k : Nat) (hk : k ∈ unsettledPoints) : m ≠ k := by
    have := hpoints k hk
    omega
  have hrun : ∀ r' ∈ lowerRuns, r'.covers (Char.ofNat m).toNat = false := by
    intro r' hr'
    rw [hchar, ← hm]
    by_cases hmisses : r.misses r' = false
    · exact huncovered r' ⟨hr', hmisses⟩ n hmem
    · simp only [Run.misses, Bool.not_eq_false, Bool.or_eq_true, Nat.blt_eq] at hmisses
      refine Bool.eq_false_iff.mpr fun hcovers => ?_
      simp only [Run.covers, Bool.and_eq_true, decide_eq_true_eq] at hcovers
      omega
  refine ⟨?_, by omega, ?_⟩
  · by_cases hascii : m < 0x80
    · refine stays_of_ascii (by omega) (toLower_small ?_ (by omega))
      omega
    · exact stays_of_uncovered (by omega) (by rw [hchar]; exact hsettled _ (by decide))
        (by rw [hchar]; exact hsettled _ (by decide)) hrun
  · refine Bool.eq_false_iff.mpr fun hblank => ?_
    exact hsettled _ (mem_unsettledPoints hblank (by omega)) hchar.symm

/-! ## Texts -/

theorem settled_of_mem {c : Char} (h : c ∈ ['i', '\u0307', '\u03c2', '\u03c3']) : Settled c := by
  have hletter : ∀ c ∈ ['i', '\u0307', '\u03c2', '\u03c3'], 0x61 ≤ c.toNat ∧ isBlank c = false := by
    decide
  refine ⟨?_, (hletter c h).1, (hletter c h).2⟩
  rcases List.mem_cons.mp h with rfl | h
  · exact stays_of_ascii (by decide) rfl
  · have hother : ∀ c ∈ ['\u0307', '\u03c2', '\u03c3'], ¬ c.toNat < 0x80 ∧ c.toNat ≠ 0x3A3 ∧
        c.toNat ≠ 0x130 ∧ ∀ r ∈ lowerRuns, r.covers c.toNat = false := by decide +kernel
    obtain ⟨hascii, hsigma, hdotted, hrun⟩ := hother c h
    exact stays_of_uncovered hascii hsigma hdotted hrun

/-- What lower case gives stays. It is the character itself, or a letter. -/
theorem mem_lowerChar {before after : List Char} {c d : Char} (h : d ∈ lowerChar before c after) :
    Stays d ∧ (d = c ∨ Settled d) := by
  unfold lowerChar at h
  split at h
  next hascii =>
    obtain ⟨hascii', hstays, hcase⟩ := toLower_ascii hascii
    rw [List.mem_singleton.mp h]
    have hstays := stays_of_ascii hascii' hstays
    exact ⟨hstays, hcase.imp_right fun hletter => ⟨hstays, hletter.1, hletter.2⟩⟩
  next hascii =>
    have hsettled (h : d ∈ ['i', '\u0307', '\u03c2', '\u03c3']) : Stays d ∧ (d = c ∨ Settled d) :=
      ⟨(settled_of_mem h).stays, .inr (settled_of_mem h)⟩
    split at h
    · refine hsettled ?_
      rw [List.mem_singleton.mp h]
      split <;> decide
    next hsigma =>
      split at h
      next => exact hsettled (List.mem_of_mem_take (i := 2) h)
      next hdotted =>
        rw [List.mem_singleton.mp h, mapByRuns]
        split
        next r hr =>
          have hcovers : r.covers c.toNat = true := by simpa using List.find?_some hr
          have hsettled := settled_image (List.mem_of_find?_eq_some hr) hcovers
          exact ⟨hsettled.stays, .inr hsettled⟩
        next hnone =>
          refine ⟨stays_of_uncovered hascii hsigma hdotted fun r hr => ?_, .inl rfl⟩
          simpa using List.find?_eq_none.mp hnone r hr

/-- Only a letter can follow in the lower case of one character. -/
theorem lowerChar_eq_cons (before after : List Char) (c : Char) :
    ∃ d ds, lowerChar before c after = d :: ds ∧ (d = c ∨ Settled d) ∧ ∀ e ∈ ds, Settled e := by
  have hhead {d : Char} {ds : List Char} (h : lowerChar before c after = d :: ds) :
      d = c ∨ Settled d := by
    have hmem : d ∈ lowerChar before c after := by
      rw [h]
      exact .head _
    exact (mem_lowerChar hmem).2
  have hshape : (∃ d, lowerChar before c after = [d]) ∨
      lowerChar before c after = ['i', '\u0307'] := by
    unfold lowerChar
    split
    · exact .inl ⟨_, rfl⟩
    · split
      · exact .inl ⟨_, rfl⟩
      · split
        · exact .inr rfl
        · exact .inl ⟨_, rfl⟩
  rcases hshape with ⟨d, h⟩ | h
  · exact ⟨d, [], h, hhead h, List.forall_mem_nil _⟩
  · refine ⟨'i', ['\u0307'], h, hhead h, fun e he => settled_of_mem ?_⟩
    rw [List.mem_singleton.mp he]
    decide

theorem mem_lowerFrom {before s : List Char} {d : Char} (h : d ∈ lowerFrom before s) :
    Stays d ∧ (d ∈ s ∨ Settled d) := by
  induction s generalizing before with
  | nil => cases h
  | cons c s ih =>
      rcases List.mem_append.mp h with h | h
      · obtain ⟨hstays, hd⟩ := mem_lowerChar h
        exact ⟨hstays, hd.imp_left fun he => by rw [he]; exact .head _⟩
      · obtain ⟨hstays, hd⟩ := ih h
        exact ⟨hstays, hd.imp_left (.tail _)⟩

theorem lowerFrom_of_stays {before s : List Char} (h : ∀ c ∈ s, Stays c) :
    lowerFrom before s = s := by
  induction s generalizing before with
  | nil => rfl
  | cons c s ih =>
      rw [lowerFrom, h c (.head _), ih fun d hd => h d (.tail _ hd)]
      rfl

/-- A character of a text in lower case was there before, or is a letter. -/
theorem mem_lower {s : List Char} {d : Char} (h : d ∈ lower s) : d ∈ s ∨ Settled d :=
  (mem_lowerFrom h).2

theorem lower_cons (c : Char) (s : List Char) :
    lower (c :: s) = lowerChar [] c s ++ lowerFrom [c] s := rfl

/-- **Lowering a text twice is lowering it once.** -/
theorem lower_lower (s : List Char) : lower (lower s) = lower s :=
  lowerFrom_of_stays fun _ h => (mem_lowerFrom h).1

end QuestionBank.Text
