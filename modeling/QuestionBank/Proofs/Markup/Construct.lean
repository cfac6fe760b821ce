import QuestionBank.Proofs.Markup.Piece

/-!
# Where constructs end

What a reader takes after an opening bracket ends in a closing bracket. There are two
exceptions: a bracket that begins nothing, and a tag that is broken off at a null
character behind its name. A reader of cleaned markup is therefore at the beginning of a
piece whenever it goes on.
-/

namespace QuestionBank.Markup

open QuestionBank.Text

/-! ## Closing brackets -/

/-- The last of the first characters of a text is a closing bracket. -/
def EndsInBracket (s : List Char) (n : Nat) : Prop := ∃ k, n = k + 1 ∧ s[k]? = some '>'

theorem EndsInBracket.cons (c : Char) {s : List Char} {n : Nat} (h : EndsInBracket s n) :
    EndsInBracket (c :: s) (n + 1) := by
  obtain ⟨k, rfl, hk⟩ := h
  exact ⟨k + 1, rfl, hk⟩

theorem EndsInBracket.of_drop {s : List Char} {k n : Nat} (h : EndsInBracket (s.drop k) n) :
    EndsInBracket s (n + k) := by
  obtain ⟨j, rfl, hj⟩ := h
  rw [List.getElem?_drop] at hj
  exact ⟨k + j, by omega, hj⟩

/-- Where a run of characters stops, there is nothing or a character of another kind. -/
theorem getElem?_takeWhile {p : Char → Bool} {s : List Char} {c : Char}
    (h : s[(s.takeWhile p).length]? = some c) : p c = false := by
  rw [← List.head?_drop, drop_length_takeWhile] at h
  obtain ⟨r, hr⟩ := List.head?_eq_some_iff.mp h
  exact not_of_dropWhile hr

theorem endsInBracket_sizeThroughBracket {s : List Char} {n : Nat}
    (h : sizeThroughBracket? s = some n) : EndsInBracket s n := by
  unfold sizeThroughBracket? at h
  dsimp only at h
  split at h
  · cases h
  next hne =>
    cases h
    refine ⟨_, rfl, ?_⟩
    cases hc : s[(s.takeWhile (· != '>')).length]? with
    | none => exact absurd (by simpa using hc) hne
    | some c => simpa using getElem?_takeWhile hc

theorem notMem_of_sizeThroughBracket {s : List Char} (h : sizeThroughBracket? s = none) :
    '>' ∉ s := by
  unfold sizeThroughBracket? at h
  dsimp only at h
  split at h
  next hempty =>
    rw [drop_length_takeWhile, List.isEmpty_iff, List.dropWhile_eq_nil_iff] at hempty
    intro hmem
    exact absurd (hempty '>' hmem) (by decide)
  next => cases h

theorem endsInBracket_bracketSize {s : List Char} {n : Nat} (h : bracketSize? s = some n) :
    EndsInBracket s n := by
  unfold bracketSize? at h
  dsimp only at h
  split at h
  next hhead =>
    cases h
    exact ⟨_, rfl, by rwa [← List.head?_drop]⟩
  next => cases h

theorem endsInBracket_commentEnd {s : List Char} {n : Nat} (h : commentEnd? s = some n) :
    EndsInBracket s n := by
  unfold commentEnd? at h
  split at h
  · obtain ⟨m, hm, rfl⟩ := Option.map_eq_some_iff.mp h
    exact ((endsInBracket_bracketSize hm).cons '-').cons '-'
  · cases h

theorem endsInBracket_shortSectionEnd {s : List Char} {n : Nat} (h : shortSectionEnd? s = some n) :
    EndsInBracket s n := by
  unfold shortSectionEnd? at h
  split at h
  · obtain ⟨m, hm, rfl⟩ := Option.map_eq_some_iff.mp h
    exact (endsInBracket_bracketSize hm).cons ']'
  · cases h

theorem endsInBracket_sectionEnd {s : List Char} {n : Nat} (h : sectionEnd? s = some n) :
    EndsInBracket s n := by
  unfold sectionEnd? at h
  split at h
  · obtain ⟨m, hm, rfl⟩ := Option.map_eq_some_iff.mp h
    exact (endsInBracket_shortSectionEnd hm).of_drop.cons ']'
  · cases h

theorem endsInBracket_rawEnd {name s : List Char} {n : Nat} (h : rawEnd? name s = some n) :
    EndsInBracket s n := by
  unfold rawEnd? at h
  split at h
  · dsimp only at h
    split at h
    · obtain ⟨m, hm, rfl⟩ := Option.map_eq_some_iff.mp h
      exact ((endsInBracket_bracketSize hm).of_drop.cons '/').cons '<'
    · cases h
  · cases h

theorem endsInBracket_search {size? : List Char → Option Nat}
    (hsize : ∀ s n, size? s = some n → EndsInBracket s n) {s : List Char} {place n : Nat}
    (h : search size? s = some (place, n)) : EndsInBracket s (place + n) := by
  induction s generalizing place with
  | nil => cases h
  | cons c s ih =>
      unfold search at h
      split at h
      next m hm =>
        cases h
        rw [Nat.zero_add]
        exact hsize _ _ hm
      next =>
        obtain ⟨⟨place', n'⟩, hfound, he⟩ := Option.map_eq_some_iff.mp h
        cases he
        rw [Nat.add_right_comm]
        exact (ih hfound).cons c

theorem endsInBracket_endOf {size? : List Char → Option Nat}
    (hsize : ∀ s n, size? s = some n → EndsInBracket s n) {s : List Char} {n : Nat}
    (h : endOf (search size? s) = some n) : EndsInBracket s n := by
  obtain ⟨⟨place, m⟩, hfound, rfl⟩ := Option.map_eq_some_iff.mp h
  exact endsInBracket_search hsize hfound

theorem skippedTo_eq {found : Option Nat} {size : Nat} (h : skippedTo found = .skipped size) :
    found = some size := by
  cases found with
  | none => cases h
  | some n =>
      cases h
      rfl

theorem endsInBracket_markedSection {s : List Char} {size : Nat}
    (h : markedSection s = .skipped size) : EndsInBracket ('!' :: '[' :: s) size := by
  unfold markedSection at h
  split at h
  · cases h
  · split at h
    · dsimp only at h
      split at h
      · cases h
      · split at h
        next short _ =>
          obtain ⟨n, hn, rfl⟩ := Option.map_eq_some_iff.mp (skippedTo_eq h)
          refine ((endsInBracket_endOf (fun s n hsize => ?_) hn).cons '[').cons '!'
          cases short with
          | true => exact endsInBracket_shortSectionEnd hsize
          | false => exact endsInBracket_sectionEnd hsize
        next => cases h
    · cases h

theorem endsInBracket_declaration {s : List Char} {size : Nat}
    (h : declaration s = .skipped size) : EndsInBracket ('!' :: s) size := by
  unfold declaration at h
  split at h
  · obtain ⟨n, hn, rfl⟩ := Option.map_eq_some_iff.mp (skippedTo_eq h)
    have hend := endsInBracket_endOf (fun _ _ => endsInBracket_commentEnd) hn
    exact ((hend.cons '-').cons '-').cons '!'
  · exact endsInBracket_markedSection h
  · split at h
    · obtain ⟨n, hn, rfl⟩ := Option.map_eq_some_iff.mp (skippedTo_eq h)
      exact (endsInBracket_sizeThroughBracket hn).of_drop.cons '!'
    · obtain ⟨n, hn, rfl⟩ := Option.map_eq_some_iff.mp (skippedTo_eq h)
      exact (endsInBracket_sizeThroughBracket hn).cons '!'

/-- What a reader skips ends in a closing bracket. -/
theorem endsInBracket_skipped {s : List Char} {size : Nat} (h : construct s = .skipped size) :
    EndsInBracket s size := by
  unfold construct at h
  split at h
  · cases h
  next c r =>
    split at h
    next =>
      unfold startConstruct at h
      split at h
      · split at h <;> cases h
      · split at h <;> cases h
      · cases h
    next =>
      split at h
      next =>
        unfold endConstruct at h
        split at h
        · cases h
        next n hn =>
          split at h <;> cases h
          exact (endsInBracket_sizeThroughBracket hn).cons c
      next =>
        split at h
        next =>
          obtain ⟨n, hn, rfl⟩ := Option.map_eq_some_iff.mp (skippedTo_eq h)
          exact (endsInBracket_sizeThroughBracket hn).cons c
        next =>
          split at h
          next hc =>
            subst hc
            exact endsInBracket_declaration h
          next => cases h

/-! ## Gaps and values -/

theorem gapSize_cons (c : Char) (s : List Char) :
    gapSize (c :: s) = if isBlank c || (c = '/' && s.head? != some '>') then gapSize s + 1 else 0 :=
  rfl

/-- No gap follows a gap. -/
theorem gapSize_drop (s : List Char) : gapSize (s.drop (gapSize s)) = 0 := by
  induction s with
  | nil => rfl
  | cons c s ih =>
      by_cases hc : (isBlank c || (c = '/' && s.head? != some '>')) = true
      · rw [gapSize_cons, if_pos hc]
        exact ih
      · rw [gapSize_cons, if_neg hc, List.drop_zero, gapSize_cons, if_neg hc]

/-- A gap ends in a blank or a slash. -/
theorem endsWord_gap {s : List Char} {g : Nat} (h : gapSize s = g + 1) :
    ∃ d, s[g]? = some d ∧ endsWord d = true := by
  induction s generalizing g with
  | nil => cases h
  | cons c s ih =>
      rw [gapSize_cons] at h
      split at h
      next hc =>
        cases g with
        | zero =>
            refine ⟨c, rfl, ?_⟩
            simp only [Bool.or_eq_true, Bool.and_eq_true, decide_eq_true_eq] at hc
            rcases hc with hc | ⟨rfl, -⟩
            · simp [endsWord, hc]
            · rfl
        | succ g => exact ih (Nat.succ_injective h)
      next => cases h

theorem not_isBlank_of_gapSize {c : Char} {s : List Char} (h : gapSize (c :: s) = 0) :
    isBlank c = false := by
  rw [gapSize_cons] at h
  split at h
  · cases h
  next hc =>
    rw [Bool.or_eq_true, not_or, Bool.not_eq_true] at hc
    exact hc.1

theorem getLastD_getElem? {c d e : Char} {r : List Char} {k : Nat} (h : r[k]? = some d) :
    (c :: r.take (k + 1)).getLastD e = d := by
  obtain ⟨s, hs⟩ : ∃ s, r.drop k = d :: s := by
    rw [← List.head?_drop] at h
    exact List.head?_eq_some_iff.mp h
  exact getLastD_take hs

/-- A value without quotes ends before a gap or a closing bracket. -/
theorem bare_end {s : List Char} (hgap : gapSize (s.drop (s.takeWhile isBareChar).length) = 0) :
    ∀ d ∈ (s.drop (s.takeWhile isBareChar).length).head?, d = '>' := by
  intro d hd
  obtain ⟨r, hr⟩ := List.head?_eq_some_iff.mp hd
  rw [hr] at hgap
  rw [drop_length_takeWhile] at hr
  have hbare := not_of_dropWhile hr
  simpa [isBareChar, not_isBlank_of_gapSize hgap] using hbare

theorem getElem?_quotedValue {quote : Char} {s body : List Char}
    (h : quotedValue? quote s = some body) : s[body.length]? = some quote := by
  unfold quotedValue? at h
  dsimp only at h
  split at h
  · cases h
  next hne =>
    cases h
    cases hc : s[(s.takeWhile (· != quote)).length]? with
    | none => exact absurd (by simpa using hc) hne
    | some c => simpa using getElem?_takeWhile hc

/-- Inside a run of blanks, a gap goes on. -/
theorem gapSize_blanks {s : List Char} {k : Nat} (h : k < (s.takeWhile isBlank).length) :
    gapSize (s.drop k) ≠ 0 := by
  obtain ⟨c, hc⟩ : ∃ c, (s.takeWhile isBlank)[k]? = some c :=
    ⟨_, List.getElem?_eq_getElem h⟩
  have hblank : isBlank c = true := List.mem_takeWhile_imp (List.mem_of_getElem? hc)
  have hs : s[k]? = some c := by
    rw [← List.takeWhile_append_dropWhile (p := isBlank) (l := s), List.getElem?_append_left h, hc]
  rw [← List.head?_drop] at hs
  obtain ⟨r, hr⟩ := List.head?_eq_some_iff.mp hs
  intro hgap
  rw [hr] at hgap
  rw [not_isBlank_of_gapSize hgap] at hblank
  cases hblank

/-- A value ends in a quote, or the tag ends behind it, or a gap follows. -/
theorem value?_end {s v : List Char} {n : Nat} (h : value? s = some (v, n))
    (hgap : gapSize (s.drop n) = 0) :
    (∀ d ∈ (s.drop n).head?, d = '>') ∨ ∃ k q, n = k + 1 ∧ s[k]? = some q ∧ endsWord q = true := by
  unfold value? at h
  dsimp only at h
  generalize (s.takeWhile isBlank).length = before at h
  generalize ((s.drop before).takeWhile (· == '=')).length = signs at h
  simp only [List.drop_drop] at h
  generalize hafter : ((s.drop (before + signs)).takeWhile isBlank).length = after at h
  generalize hr : s.drop (before + signs + after) = r at h
  have hbare (hn : n = before + signs + after + (r.takeWhile isBareChar).length) :
      ∀ d ∈ (s.drop n).head?, d = '>' := by
    rw [hn, ← List.drop_drop, hr] at hgap ⊢
    exact bare_end hgap
  split at h
  · cases h
  next hsigns =>
    cases r with
    | nil =>
      cases h
      rw [hr]
      exact .inl (by rintro d ⟨⟩)
    | cons c r =>
      dsimp only at h
      split at h
      next hquote =>
        have hword : endsWord c = true := by
          rw [Bool.or_eq_true, decide_eq_true_eq, decide_eq_true_eq] at hquote
          rcases hquote with rfl | rfl <;> rfl
        split at h
        next hbody =>
          cases h
          refine .inr ⟨before + signs + after + (v.length + 1), c, rfl, ?_, hword⟩
          rw [← List.getElem?_drop, hr]
          exact getElem?_quotedValue hbody
        next =>
          split at h
          next hpos =>
            cases h
            rw [Nat.add_sub_assoc hpos, ← List.drop_drop] at hgap
            exact absurd hgap (gapSize_blanks (by omega))
          next =>
            split at h
            next hmany =>
              cases h
              refine .inl (hbare ?_)
              rw [List.length_cons]
              omega
            next => cases h
      next =>
        cases h
        exact .inl (hbare rfl)

/-- Behind an attribute that ends inside a word, the tag ends. -/
theorem attribute_end {c : Char} {r : List Char} {size : Nat}
    (hsize : size = (r.takeWhile isAttributeNameChar).length +
      ((value? (r.drop (r.takeWhile isAttributeNameChar).length)).map Prod.snd).getD 0)
    (hword : endsWord ((c :: r.take (size + gapSize (r.drop size))).getLastD c) = false) :
    ∀ d ∈ (r.drop (size + gapSize (r.drop size))).head?, d = '>' ∨ d = '/' ∨ d = '=' := by
  cases hgap : gapSize (r.drop size) with
  | succ g =>
      obtain ⟨d, hd, hends⟩ := endsWord_gap hgap
      rw [List.getElem?_drop] at hd
      rw [hgap, ← Nat.add_assoc, getLastD_getElem? hd, hends] at hword
      cases hword
  | zero =>
      rw [hgap, Nat.add_zero] at hword
      rw [Nat.add_zero]
      cases hvalue : value? (r.drop (r.takeWhile isAttributeNameChar).length) with
      | none =>
          rw [hvalue, Option.map_none, Option.getD_none, Nat.add_zero] at hsize
          intro d hd
          obtain ⟨s, hs⟩ := List.head?_eq_some_iff.mp hd
          rw [hs] at hgap
          have hname : isAttributeNameChar d = false := by
            rw [List.head?_drop, hsize] at hd
            exact getElem?_takeWhile hd
          simp only [isAttributeNameChar, not_isBlank_of_gapSize hgap, Bool.false_or,
            Bool.not_eq_false', Bool.or_eq_true, beq_iff_eq] at hname
          rcases hname with (h | h) | h
          · exact .inr (.inl h)
          · exact .inr (.inr h)
          · exact .inl h
      | some found =>
          obtain ⟨v, n⟩ := found
          rw [hvalue, Option.map_some, Option.getD_some] at hsize
          rw [hsize, ← List.drop_drop] at hgap ⊢
          rcases value?_end hvalue hgap with hclosed | ⟨j, q, rfl, hq, hends⟩
          · exact fun d hd => .inl (hclosed d hd)
          · rw [List.getElem?_drop] at hq
            rw [hsize, ← Nat.add_assoc, getLastD_getElem? hq, hends] at hword
            cases hword

theorem attributes_inside {last : Char} {s : List Char} (h : endsWord last = false) :
    attributes last s = ([], 0) := by
  cases s with
  | nil => rw [attributes.eq_def]
  | cons c r => exact attributes_stop (by rw [h, Bool.false_and])

/-- What ends the attributes of a tag. -/
theorem attributes_end {last : Char} {s : List Char} (hgap : gapSize s = 0)
    (hlast : endsWord last = true) :
    ∀ d ∈ (s.drop (attributes last s).2).head?, d = '>' ∨ d = '/' ∨ d = '=' := by
  fun_induction attributes last s with
  | case1 => rintro d ⟨⟩
  | case2 last c r hbegins rest value size₀ size others n hothers ih =>
      have hgap' : gapSize (r.drop size) = 0 := by
        rw [← List.drop_drop]
        exact gapSize_drop _
      have hn : n = (attributes ((c :: r.take size).getLastD c) (r.drop size)).2 := by rw [hothers]
      show ∀ d ∈ ((c :: r).drop (size + 1 + n)).head?, _
      rw [Nat.add_right_comm, List.drop_succ_cons, ← List.drop_drop, hn]
      by_cases hword : endsWord ((c :: r.take size).getLastD c) = true
      · exact ih hgap' hword
      · have hword := Bool.eq_false_iff.mpr hword
        rw [attributes_inside hword, List.drop_zero]
        exact attribute_end rfl hword
  | case3 last c r hstop =>
      rintro d ⟨⟩
      simp only [hlast, not_isBlank_of_gapSize hgap, Bool.true_and, Bool.false_or,
        Bool.not_eq_true', Bool.not_eq_false, Bool.or_eq_true, beq_iff_eq] at hstop
      exact hstop.elim (fun h => .inr (.inl h)) .inl

/-! ## Start tags -/

theorem endsInBracket_startTag {c : Char} {r name : List Char} {attrs : List Attribute}
    {closesItself : Bool} {size : Nat}
    (h : startTag c r = .complete name attrs closesItself size) : EndsInBracket (c :: r) size := by
  unfold startTag at h
  dsimp only at h
  split at h
  next s hs =>
    cases h
    refine ⟨_, rfl, ?_⟩
    rw [List.getElem?_cons_succ, ← List.head?_drop, hs]
    rfl
  next s hs =>
    cases h
    refine ⟨_, rfl, ?_⟩
    rw [List.getElem?_cons_succ, ← List.getElem?_drop, hs]
    rfl
  · cases h
  · split at h <;> cases h

/-- Attributes that end at a sign which no attribute ends at are none, and no gap is before
them. -/
theorem gapSize_of_broken {c d : Char} {r : List Char} {k g : Nat} {last : Char}
    (hg : gapSize (r.drop k) = g) (hlast : (c :: r.take (k + g)).getLastD c = last)
    (hd : d ∈ ((r.drop (k + g)).drop (attributes last (r.drop (k + g))).2).head?)
    (hopen : d ≠ '>') (hslash : d ≠ '/') (hequals : d ≠ '=') : g = 0 ∧ endsWord last = false := by
  have hgap : gapSize (r.drop (k + g)) = 0 := by
    rw [← hg, ← List.drop_drop]
    exact gapSize_drop _
  have hword : endsWord last = false := by
    refine Bool.eq_false_iff.mpr fun hword => ?_
    rcases attributes_end hgap hword d hd with h | h | h
    · exact hopen h
    · exact hslash h
    · exact hequals h
  refine ⟨?_, hword⟩
  cases g with
  | zero => rfl
  | succ g =>
      -- A gap would have ended the name in a blank or a slash.
      obtain ⟨e, he, hends⟩ := endsWord_gap hg
      rw [List.getElem?_drop] at he
      rw [← hlast, ← Nat.add_assoc, getLastD_getElem? he, hends] at hword
      cases hword

theorem eq_null {d : Char} (hname : isTagNameChar d = false) (hblank : isBlank d = false)
    (hopen : d ≠ '>') (hslash : d ≠ '/') : d = '\x00' := by
  have hends : ∀ d ∈ tagNameEnds, isBlank d = true ∨ d = '/' ∨ d = '>' ∨ d = '\x00' := by
    decide
  have hmem : d ∈ tagNameEnds := by
    by_contra hmem
    rw [isTagNameChar_of_notMem hmem] at hname
    cases hname
  rcases hends d hmem with h | h | h | h
  · rw [hblank] at h
    cases h
  · exact absurd h hslash
  · exact absurd h hopen
  · exact h

/-- A tag is broken off only at a null character behind its name. -/
theorem startTag_malformed {c : Char} {r : List Char} {attrs : List Attribute} {size : Nat}
    (hc : c.isAlpha = true) (h : startTag c r = .malformed attrs size) :
    (c :: r)[size]? = some '\x00' ∧ ∀ d ∈ (c :: r).take size, isTagNameChar d = true := by
  unfold startTag at h
  dsimp only at h
  have hname : ∀ d ∈ r.take (r.takeWhile isTagNameChar).length, isTagNameChar d = true := by
    rw [← List.prefix_iff_eq_take.mp (List.takeWhile_prefix _)]
    exact fun d hd => List.mem_takeWhile_imp hd
  have hend (d : Char) :
      r[(r.takeWhile isTagNameChar).length]? = some d → isTagNameChar d = false :=
    getElem?_takeWhile
  generalize (r.takeWhile isTagNameChar).length = k at h hname hend
  generalize hg : gapSize (r.drop k) = g at h
  generalize hlast : (c :: r.take (k + g)).getLastD c = last at h
  split at h
  · cases h
  · cases h
  · cases h
  next d s hopen _ hs =>
    split at h
    · cases h
    next hstop =>
      cases h
      simp only [Bool.or_eq_true, decide_eq_true_eq, not_or] at hstop
      obtain ⟨⟨hequals, hslash⟩, -⟩ := hstop
      have hopen : d ≠ '>' := fun hd => hopen hd
      have hd : d ∈ ((r.drop (k + g)).drop (attributes last (r.drop (k + g))).2).head? := by
        rw [List.drop_drop, hs]
        rfl
      obtain ⟨rfl, hword⟩ := gapSize_of_broken hg hlast hd hopen hslash hequals
      rw [attributes_inside hword] at hd hs ⊢
      simp only [Nat.add_zero] at hs hd ⊢
      rw [List.drop_zero, List.head?_drop] at hd
      rw [hs] at hg
      have hnull : d = '\x00' := eq_null (hend d hd) (not_isBlank_of_gapSize hg) hopen hslash
      refine ⟨by rw [List.getElem?_cons_succ, hd, hnull], fun e he => ?_⟩
      rw [List.take_succ_cons] at he
      rcases List.mem_cons.mp he with rfl | he
      · exact isTagNameChar_of_isAlpha hc
      · exact hname e he

/-- What a reader takes for a token ends in a closing bracket, or is the text of a bracket that
begins nothing or of a tag that is broken off at a null character. -/
theorem construct_token {s : List Char} {t : Token} {size : Nat}
    (h : construct s = .token t size) :
    EndsInBracket s size ∨ (∃ u, t = .text u) ∧
      (size = 0 ∧ (∀ c ∈ s.head?, c.isAlpha = false ∧ c ≠ '/') ∨
        s[size]? = some '\x00' ∧ ∀ d ∈ s.take size, isTagNameChar d = true) := by
  rcases construct_eq_token h with ⟨c, r, rfl, hc, hstart⟩ | ⟨r, rfl, hend⟩ | ⟨rfl, rfl, hhead⟩
  · rcases startConstruct_eq_token hstart with
      ⟨name, attrs, attrs', closesItself, hwhole, -, -⟩ | ⟨attrs, s, hbroken, rfl⟩
    · exact .inl (endsInBracket_startTag hwhole)
    · exact .inr ⟨⟨s, rfl⟩, .inr (startTag_malformed hc hbroken)⟩
  · obtain ⟨name, n, -, hn, -, rfl⟩ := endConstruct_eq_token hend
    exact .inl ((endsInBracket_sizeThroughBracket hn).cons '/')
  · exact .inr ⟨⟨['<'], rfl⟩, .inl ⟨rfl, hhead⟩⟩

/-- A tag ends in a closing bracket. -/
theorem endsInBracket_tag {s : List Char} {t : Token} {size : Nat}
    (h : construct s = .token t size) (ht : ∀ u, t ≠ .text u) : EndsInBracket s size := by
  rcases construct_token h with hend | ⟨⟨u, rfl⟩, -⟩
  · exact hend
  · exact absurd rfl (ht u)

/-! ## Landing -/

variable {ps : List Piece} {r : List Char}

theorem lands_ends (hps : ∀ p ∈ ps, p.Regular) (hr : render ps = '<' :: r) {n : Nat}
    (h : EndsInBracket r n) : Lands ps (n + 1) := by
  obtain ⟨k, rfl, hk⟩ := h
  refine lands_bracket hps ?_
  rw [hr]
  exact hk

/-- A bracket that begins nothing is a character. -/
theorem lands_one (hps : ∀ p ∈ ps, p.Regular) (hr : render ps = '<' :: r)
    (h : ∀ c ∈ r.head?, c.isAlpha = false ∧ c ≠ '/') : Lands ps 1 := by
  cases ps with
  | nil => cases hr
  | cons p ps =>
      rw [render_cons] at hr
      cases p with
      | char c => exact lands_cons (.char c) (lands_zero ps)
      | tag name attrs closesItself =>
          obtain ⟨c, name', rfl, hc⟩ := (hps _ (.head _)).1.letter
          obtain rfl := (List.cons.inj hr).2
          rw [(h c rfl).1] at hc
          cases hc
      | endTag name =>
          obtain rfl := (List.cons.inj hr).2
          exact absurd rfl (h '/' rfl).2

/-- Behind a construct, a reader is at the beginning of a piece. -/
theorem lands_token (hps : ∀ p ∈ ps, p.Regular) (hr : render ps = '<' :: r) {t : Token}
    {size : Nat} (h : construct r = .token t size) : Lands ps (size + 1) := by
  rcases construct_token h with hend | ⟨-, ⟨rfl, hhead⟩ | ⟨hnull, hname⟩⟩
  · exact lands_ends hps hr hend
  · exact lands_one hps hr hhead
  · refine lands_name hps ?_ ?_
    · rw [hr, List.take_succ_cons]
      rintro d (_ | ⟨_, hd⟩)
      · decide
      · exact hname d hd
    · rw [hr]
      exact hnull

theorem lands_skipped (hps : ∀ p ∈ ps, p.Regular) (hr : render ps = '<' :: r) {size : Nat}
    (h : construct r = .skipped size) : Lands ps (size + 1) :=
  lands_ends hps hr (endsInBracket_skipped h)

theorem lands_unfinished (hps : ∀ p ∈ ps, p.Regular) (hr : render ps = '<' :: r) :
    Lands ps (looseSize r + 1) := by
  unfold looseSize
  split
  next n hn => exact lands_ends hps hr (endsInBracket_sizeThroughBracket hn)
  next hnone =>
    refine lands_last hps ?_ _
    rw [hr, List.mem_cons, not_or]
    exact ⟨by decide, notMem_of_sizeThroughBracket hnone⟩

end QuestionBank.Markup
