import QuestionBank.Proofs.Markup.Known
import QuestionBank.Proofs.Markup.Reference

/-!
# Where references end

A reference goes on through letters, digits and a semicolon, and no further. A text can
therefore be cut in front of any other sign and decoded part by part. An ampersand in front of
a sign that begins no name stands for itself, and what stands for a reference with its
semicolon does not depend on what comes behind.
-/

namespace QuestionBank.Markup

open QuestionBank.Text

/-! ## Texts without references -/

theorem decode_cons {c : Char} (hc : c ≠ '&') (s : List Char) :
    decode (c :: s) = c :: decode s := by
  rw [decode, if_neg hc]

theorem decode_nil : decode [] = [] := by rw [decode]

theorem decode_append_of_notMem {s : List Char} (hs : '&' ∉ s) (t : List Char) :
    decode (s ++ t) = s ++ decode t := by
  induction s with
  | nil => rfl
  | cons c s ih =>
      rw [List.mem_cons, not_or] at hs
      rw [List.cons_append, decode_cons (Ne.symm hs.1), ih hs.2, List.cons_append]

/-! ## Signs that no reference holds -/

/-- A sign that no reference holds. -/
def Foreign (c : Char) : Prop := isKnownSign c = false ∧ c ≠ '#'

instance : DecidablePred Foreign := fun _ => inferInstanceAs (Decidable (_ ∧ _))

/-- A text begins with a sign that no reference holds, or is empty. -/
def Apart (t : List Char) : Prop := ∀ c ∈ t.head?, Foreign c

theorem isAlphanum_of_known {c : Char} (h : isKnownSign c = true) :
    c.isAlphanum = true ∨ c = ';' := by
  have hsmall := isKnownCode_le h
  exact of_ascii (P := fun c => isKnownSign c = true → c.isAlphanum = true ∨ c = ';')
    (by decide +kernel) (by omega) h

theorem isKnownSign_of_isHexDigit {c : Char} (h : isHexDigit c = true) : isKnownSign c = true := by
  have hsmall : c.toNat < 0x80 := by
    have hval : c.toNat = c.val.toNat := rfl
    simp only [isHexDigit, Char.isDigit, Char.le_def, UInt32.le_iff_toNat_le, ge_iff_le,
      Bool.or_eq_true, Bool.and_eq_true, decide_eq_true_eq] at h
    have hnine : '9'.val.toNat = 0x39 := rfl
    have hf : 'f'.val.toNat = 0x66 := rfl
    have hcapital : 'F'.val.toNat = 0x46 := rfl
    omega
  exact of_ascii (P := fun c => isHexDigit c = true → isKnownSign c = true) (by decide +kernel)
    hsmall h

theorem Foreign.isDigit {c : Char} (h : Foreign c) : c.isDigit = false := by
  by_contra hdigit
  rw [Bool.not_eq_false] at hdigit
  have hhex : isHexDigit c = true := by simp [isHexDigit, hdigit]
  exact absurd (isKnownSign_of_isHexDigit hhex) (by simp [h.1])

theorem Foreign.isHexDigit {c : Char} (h : Foreign c) : isHexDigit c = false := by
  by_contra hdigit
  rw [Bool.not_eq_false] at hdigit
  exact absurd (isKnownSign_of_isHexDigit hdigit) (by simp [h.1])

theorem Foreign.ne_semicolon {c : Char} (h : Foreign c) : c ≠ ';' := by
  rintro rfl
  exact absurd h (by decide)

/-! ## Runs in front of a sign of another kind -/

theorem takeWhile_append_of_head {p : Char → Bool} {t : List Char}
    (ht : ∀ c ∈ t.head?, p c = false) (s : List Char) :
    (s ++ t).takeWhile p = s.takeWhile p := by
  induction s with
  | nil =>
      cases t with
      | nil => rfl
      | cons c t => exact List.takeWhile_cons_of_neg (by simp [ht c rfl])
  | cons c s ih =>
      rw [List.cons_append, List.takeWhile_cons, List.takeWhile_cons, ih]

theorem semicolonSize_le (s : List Char) : semicolonSize s ≤ s.length := by
  unfold semicolonSize
  split
  next h =>
    obtain ⟨r, rfl⟩ := List.head?_eq_some_iff.mp h
    exact Nat.succ_pos _
  · exact Nat.zero_le _

theorem semicolonSize_append {t : List Char} (ht : Apart t) (s : List Char) :
    semicolonSize (s ++ t) = semicolonSize s := by
  cases s with
  | cons c s => rfl
  | nil =>
      have hnone : t.head? ≠ some ';' := fun h => (ht ';' h).ne_semicolon rfl
      rw [List.nil_append, semicolonSize, semicolonSize, if_neg hnone]
      rfl

/-! ## References by name -/

/-- A text that begins with no letter has no beginning that is known. -/
theorem entity_eq_none {s : List Char} (hs : ∀ c ∈ s.head?, c.isAlpha = false) :
    entity? s = none := by
  by_contra hsome
  obtain ⟨text, htext⟩ := Option.ne_none_iff_exists'.mp hsome
  obtain ⟨⟨c, r, rfl, hc⟩, -⟩ := known_of_entity htext
  rw [hs c rfl] at hc
  cases hc

theorem longestName_succ (s : List Char) (n : Nat) :
    longestName? s (n + 2) =
      match entity? (s.take (n + 2)) with
      | some text => some (text ++ s.drop (n + 2))
      | none => longestName? s (n + 1) := rfl

theorem longestName_eq_none {s : List Char} (hs : ∀ c ∈ s.head?, c.isAlpha = false) (n : Nat) :
    longestName? s n = none := by
  induction n with
  | zero => rfl
  | succ n ih =>
      cases n with
      | zero => rfl
      | succ n =>
          have hnone : entity? (s.take (n + 1 + 1)) = none := by
            apply entity_eq_none
            cases s with
            | nil => exact hs
            | cons c r => exact hs
          rw [longestName_succ, hnone]
          exact ih

/-- A name that begins with no letter stands for itself. -/
theorem charsOfName_of_head {s : List Char} (hs : ∀ c ∈ s.head?, c.isAlpha = false) :
    charsOfName s = '&' :: s := by
  rw [charsOfName, entity_eq_none hs, longestName_eq_none hs]
  rfl

/-- No known name holds a foreign sign. -/
theorem entity_append_eq_none (s : List Char) {c : Char} (hc : Foreign c) (r : List Char) :
    entity? (s ++ c :: r) = none := by
  by_contra hsome
  obtain ⟨text, htext⟩ := Option.ne_none_iff_exists'.mp hsome
  have hknown := (known_of_entity htext).2.2.2 c (by simp)
  rw [hc.1] at hknown
  cases hknown

/-- What follows a name has no part in its known beginnings. -/
theorem longestName_append_le (s t : List Char) {n : Nat} (hn : n ≤ s.length) :
    longestName? (s ++ t) n = (longestName? s n).map (· ++ t) := by
  induction n with
  | zero => rfl
  | succ n ih =>
      cases n with
      | zero => rfl
      | succ n =>
          rw [longestName_succ, longestName_succ, List.take_append_of_le_length hn,
            List.drop_append_of_le_length hn, ih (by omega)]
          cases entity? (s.take (n + 2)) with
          | none => rfl
          | some text => exact congrArg some (List.append_assoc text _ t).symm

/-- The longest known beginning ends in front of a foreign sign. -/
theorem longestName_append (s : List Char) {c : Char} (hc : Foreign c) (r : List Char) (n : Nat) :
    longestName? (s ++ c :: r) (s.length + n) = (longestName? s s.length).map (· ++ c :: r) := by
  induction n with
  | zero => exact longestName_append_le s (c :: r) le_rfl
  | succ n ih =>
      rw [← ih]
      cases hlength : s.length + n with
      | zero =>
          rw [← Nat.add_assoc, hlength]
          rfl
      | succ k =>
          have htake : (s ++ c :: r).take (k + 2) = s ++ c :: r.take n := by
            rw [List.take_append, List.take_of_length_le (by omega),
              show k + 2 - s.length = n + 1 by omega, List.take_succ_cons]
          rw [← Nat.add_assoc, hlength, longestName_succ, htake, entity_append_eq_none s hc]

/-- The name itself is the first of its beginnings that are tried. -/
theorem charsOfName_eq (s : List Char) :
    charsOfName s = (longestName? s s.length).getD ('&' :: s) := by
  rw [charsOfName]
  rcases Nat.lt_or_ge s.length 2 with hshort | hlong
  · have hnone : entity? s = none := by
      by_contra hsome
      obtain ⟨text, htext⟩ := Option.ne_none_iff_exists'.mp hsome
      exact absurd (known_of_entity htext).2.1 (by omega)
    have htried (n : Nat) (hn : n < 2) : longestName? s n = none := by
      obtain rfl | rfl : n = 0 ∨ n = 1 := by omega
      · rfl
      · rfl
    rw [hnone, htried _ hshort, htried _ (by omega)]
  · obtain ⟨k, hk⟩ := Nat.exists_eq_add_of_le' hlong
    rw [hk, longestName_succ, ← hk, List.take_length, List.drop_length]
    cases entity? s with
    | some text => simp
    | none =>
        rw [hk]
        rfl

theorem charsOfName_append (s : List Char) {t : List Char} (ht : Apart t) :
    charsOfName (s ++ t) = charsOfName s ++ t := by
  cases t with
  | nil => rw [List.append_nil, List.append_nil]
  | cons c r =>
      rw [charsOfName_eq, charsOfName_eq, List.length_append, longestName_append s (ht c rfl)]
      cases longestName? s s.length with
      | none => rfl
      | some text => rfl

/-- The number of characters that belong to a reference by name. -/
def nameSize (s : List Char) : Nat :=
  let name := (s.takeWhile isNameSign).take 32
  if name.isEmpty then 0 else name.length + semicolonSize (s.drop name.length)

theorem isNameSign_ne {c : Char} (h : isNameSign c = true) : c ≠ '&' ∧ c ≠ '#' ∧ c ≠ ';' := by
  simp only [isNameSign, Bool.not_eq_true', Bool.or_eq_false_iff, beq_eq_false_iff_ne] at h
  exact ⟨h.1.1.2, h.1.2, h.2⟩

/-- The characters of a reference by name: those of the name, and a semicolon if one follows. -/
theorem take_nameSize (s : List Char) :
    s.take (nameSize s) = [] ∨ ∃ name, (∀ c ∈ name, isNameSign c = true) ∧
      (s.take (nameSize s) = name ∨ s.take (nameSize s) = name ++ [';']) := by
  unfold nameSize
  dsimp only
  split
  · exact .inl rfl
  · right
    have hprefix : (s.takeWhile isNameSign).take 32 <+: s :=
      (List.take_prefix _ _).trans (List.takeWhile_prefix _)
    refine ⟨(s.takeWhile isNameSign).take 32, ?_, ?_⟩
    · exact fun c hc => List.mem_takeWhile_imp (List.mem_of_mem_take hc)
    · obtain ⟨r, hr⟩ := hprefix
      generalize (s.takeWhile isNameSign).take 32 = name at hr ⊢
      subst hr
      rw [List.drop_left, List.take_length_add_append]
      unfold semicolonSize
      split
      next hhead =>
        obtain ⟨u, rfl⟩ := List.head?_eq_some_iff.mp hhead
        exact .inr rfl
      · exact .inl (List.append_nil _)

theorem notMem_take_nameSize (s : List Char) : '&' ∉ s.take (nameSize s) := by
  rcases take_nameSize s with hnone | ⟨name, hname, htake | htake⟩
  · rw [hnone]
    exact List.not_mem_nil
  · rw [htake]
    exact fun hmem => (isNameSign_ne (hname _ hmem)).1 rfl
  · rw [htake, List.mem_append, not_or]
    exact ⟨fun hmem => (isNameSign_ne (hname _ hmem)).1 rfl, by decide⟩

/-- An ampersand is decoded with the name behind it. -/
theorem decode_name {s : List Char} (hs : s.head? ≠ some '#') :
    decode ('&' :: s) = charsOfName (s.take (nameSize s)) ++ decode (s.drop (nameSize s)) := by
  have hreference : reference? s =
      if ((s.takeWhile isNameSign).take 32).isEmpty then none
      else some (charsOfName (s.take (nameSize s)), nameSize s) := by
    unfold reference? nameSize
    split
    · exact absurd rfl hs
    · dsimp only
      split
      · rfl
      · rfl
  by_cases hname : ((s.takeWhile isNameSign).take 32).isEmpty = true
  · have hsize : nameSize s = 0 := if_pos hname
    rw [if_pos hname] at hreference
    rw [decode, if_pos rfl, hreference, hsize]
    rfl
  · rw [if_neg hname] at hreference
    exact decode_amp hreference

theorem length_take_takeWhile_le (s : List Char) :
    ((s.takeWhile isNameSign).take 32).length ≤ s.length :=
  ((List.take_prefix _ _).trans (List.takeWhile_prefix _)).length_le

theorem nameSize_le (s : List Char) : nameSize s ≤ s.length := by
  have hname := length_take_takeWhile_le s
  have hsemicolon := semicolonSize_le (s.drop ((s.takeWhile isNameSign).take 32).length)
  rw [List.length_drop] at hsemicolon
  unfold nameSize
  dsimp only
  split <;> omega

/-- A reference by name goes on as long as before, or through all there was. -/
theorem nameSize_append {t : List Char} (ht : Apart t) (s : List Char) :
    nameSize (s ++ t) = nameSize s ∨ nameSize s = s.length ∧ s.length ≤ nameSize (s ++ t) := by
  have hsame (h : ((s ++ t).takeWhile isNameSign).take 32 = (s.takeWhile isNameSign).take 32) :
      nameSize (s ++ t) = nameSize s := by
    unfold nameSize
    rw [h]
    dsimp only
    rw [List.drop_append_of_le_length (length_take_takeWhile_le s), semicolonSize_append ht]
  by_cases hall : ∀ c ∈ s, isNameSign c = true
  · have hlonger : (s ++ t).takeWhile isNameSign = s ++ t.takeWhile isNameSign :=
      List.takeWhile_append_of_pos hall
    have hwhole : s.takeWhile isNameSign = s := List.takeWhile_eq_self_iff.mpr hall
    rcases Nat.lt_or_ge s.length 32 with hshort | hlong
    · right
      cases s with
      | nil => exact ⟨rfl, Nat.zero_le _⟩
      | cons c s =>
          constructor
          · unfold nameSize
            rw [hwhole, List.take_of_length_le hshort.le]
            simp [semicolonSize]
          · unfold nameSize
            rw [hlonger, List.take_append, List.take_of_length_le hshort.le]
            simp only [List.cons_append, List.isEmpty_cons, Bool.false_eq_true, if_false,
              List.length_cons, List.length_append]
            omega
    · left
      exact hsame (by rw [hlonger, hwhole, List.take_append_of_le_length hlong])
  · left
    apply hsame
    obtain ⟨d, r, hd⟩ : ∃ d r, s.dropWhile isNameSign = d :: r := by
      refine List.exists_cons_of_ne_nil fun hnil => hall ?_
      exact fun c hc => List.dropWhile_eq_nil_iff.mp hnil c hc
    have hsplit : s = s.takeWhile isNameSign ++ d :: r := by
      rw [← hd, List.takeWhile_append_dropWhile]
    have hrun := takeWhile_append_stop (s := s.takeWhile isNameSign)
      (fun c hc => List.mem_takeWhile_imp hc) (not_of_dropWhile hd) (r ++ t)
    rw [← List.cons_append, ← List.append_assoc, ← hsplit] at hrun
    rw [hrun]

/-- An ampersand in front of what begins no reference stands for itself. -/
theorem decode_alone {s : List Char} (hs : ∀ c ∈ s.head?, c.isAlpha = false ∧ c ≠ '#') :
    decode ('&' :: s) = '&' :: decode s := by
  have hhead : s.head? ≠ some '#' := fun h => (hs '#' h).2 rfl
  have hname : ∀ c ∈ (s.take (nameSize s)).head?, c.isAlpha = false := by
    intro c hc
    refine (hs c ?_).1
    cases s with
    | nil => simp at hc
    | cons d r =>
        cases hn : nameSize (d :: r) with
        | zero =>
            rw [hn] at hc
            cases hc
        | succ n =>
            rw [hn] at hc
            exact hc
  have hrest := decode_append_of_notMem (notMem_take_nameSize s) (s.drop (nameSize s))
  rw [List.take_append_drop] at hrest
  rw [decode_name hhead, charsOfName_of_head hname, hrest, List.cons_append]

/-! ## References by code -/

/-- What begins with a foreign sign has no part in a reference by code. -/
theorem reference_code_append {t : List Char} (ht : Apart t) (s : List Char) :
    reference? ('#' :: (s ++ t)) = reference? ('#' :: s) := by
  have hdigits (s : List Char) : (s ++ t).takeWhile Char.isDigit = s.takeWhile Char.isDigit :=
    takeWhile_append_of_head (fun c hc => (ht c hc).isDigit) s
  have hhex (s : List Char) : (s ++ t).takeWhile isHexDigit = s.takeWhile isHexDigit :=
    takeWhile_append_of_head (fun c hc => (ht c hc).isHexDigit) s
  have hrest (s : List Char) (p : Char → Bool) :
      semicolonSize ((s ++ t).drop (s.takeWhile p).length) =
        semicolonSize (s.drop (s.takeWhile p).length) := by
    rw [List.drop_append_of_le_length (List.takeWhile_prefix p).length_le, semicolonSize_append ht]
  unfold reference?
  simp only [hdigits, hrest]
  split
  · rfl
  · cases s with
    | cons x s => simp only [List.cons_append, hhex, hrest]
    | nil =>
        cases t with
        | nil => rfl
        | cons c t =>
            have hx : c ≠ 'x' ∧ c ≠ 'X' := by
              constructor
              · rintro rfl
                exact absurd (ht _ rfl) (by decide)
              · rintro rfl
                exact absurd (ht _ rfl) (by decide)
            simp [hx.1, hx.2]

theorem reference_code_le {s text : List Char} {size : Nat}
    (h : reference? ('#' :: s) = some (text, size)) : size ≤ s.length + 1 := by
  have hsize (p : Char → Bool) (s : List Char) :
      (s.takeWhile p).length + semicolonSize (s.drop (s.takeWhile p).length) ≤ s.length := by
    have hrun := (List.takeWhile_prefix (l := s) p).length_le
    have hsemicolon := semicolonSize_le (s.drop (s.takeWhile p).length)
    rw [List.length_drop] at hsemicolon
    omega
  simp only [reference?] at h
  split at h
  · cases h
    have := hsize Char.isDigit s
    omega
  · cases s with
    | nil => cases h
    | cons x s =>
        dsimp only at h
        split at h
        · cases h
          have := hsize isHexDigit s
          rw [List.length_cons]
          omega
        · cases h

/-! ## Texts that are cut -/

theorem decode_code_append {s t : List Char} (ht : Apart t)
    (ih : ∀ u : List Char, u.length ≤ s.length + 1 → decode (u ++ t) = decode u ++ decode t) :
    decode ('&' :: '#' :: (s ++ t)) = decode ('&' :: '#' :: s) ++ decode t := by
  have hsame := reference_code_append ht s
  cases href : reference? ('#' :: s) with
  | none =>
      rw [href] at hsame
      have hrest := ih ('#' :: s) le_rfl
      rw [decode, if_pos rfl, hsame, decode.eq_def ('&' :: '#' :: s)]
      dsimp only
      rw [if_pos rfl, href]
      exact congrArg ('&' :: ·) hrest
  | some found =>
      obtain ⟨text, size⟩ := found
      rw [href] at hsame
      have hrest := ih (('#' :: s).drop size) (List.drop_suffix _ _).length_le
      rw [decode_amp href, decode_amp hsame, ← List.cons_append,
        List.drop_append_of_le_length (reference_code_le href), hrest, List.append_assoc]

theorem decode_name_append {s t : List Char} (ht : Apart t) (hs : s.head? ≠ some '#')
    (ih : ∀ u : List Char, u.length ≤ s.length → decode (u ++ t) = decode u ++ decode t) :
    decode ('&' :: (s ++ t)) = decode ('&' :: s) ++ decode t := by
  have hs' : (s ++ t).head? ≠ some '#' := by
    cases s with
    | nil => exact fun h => (ht '#' h).2 rfl
    | cons d s => exact hs
  rw [decode_name hs, decode_name hs']
  rcases nameSize_append ht s with hsame | ⟨hall, hlonger⟩
  · rw [hsame, List.take_append_of_le_length (nameSize_le s),
      List.drop_append_of_le_length (nameSize_le s), ih _ (List.drop_suffix _ _).length_le,
      List.append_assoc]
  · -- The name of the reference runs on; what it takes in addition stands for itself.
    obtain ⟨k, hk⟩ := Nat.exists_eq_add_of_le hlonger
    have htaken := notMem_take_nameSize (s ++ t)
    rw [hk, List.take_length_add_append, List.mem_append, not_or] at htaken
    have hrest := decode_append_of_notMem htaken.2 (t.drop k)
    rw [List.take_append_drop] at hrest
    have hpart : Apart (t.take k) := by
      cases t with
      | nil => simpa using ht
      | cons d t =>
          cases k with
          | zero => exact nofun
          | succ k => exact ht
    rw [hk, List.take_length_add_append, List.drop_length_add_append, charsOfName_append s hpart,
      hall, List.take_length, List.drop_length, decode_nil, List.append_nil, hrest,
      List.append_assoc]

/-- **A text is decoded part by part where a part begins with a sign that no reference
holds.** -/
theorem decode_append {t : List Char} (ht : Apart t) (s : List Char) :
    decode (s ++ t) = decode s ++ decode t := by
  -- A reference may take any number of characters, so the induction is on the length.
  generalize hn : s.length = n
  induction n using Nat.strong_induction_on generalizing s with
  | _ n ih =>
    cases s with
    | nil => rw [decode_nil]; rfl
    | cons c s =>
      have ih (u : List Char) (hu : u.length ≤ s.length) :
          decode (u ++ t) = decode u ++ decode t :=
        ih u.length (by rw [← hn, List.length_cons]; omega) u rfl
      by_cases hc : c = '&'
      · subst hc
        by_cases hhead : s.head? = some '#'
        · obtain ⟨r, rfl⟩ := List.head?_eq_some_iff.mp hhead
          exact decode_code_append ht ih
        · exact decode_name_append ht hhead ih
      · rw [List.cons_append, decode_cons hc, decode_cons hc, ih s le_rfl, List.cons_append]

/-! ## Codes that can be read -/

/-- No code in a text has too many digits to be read. -/
def Readable (s : List Char) : Prop := overlongCode? s = none

theorem readable_nil : Readable [] := rfl

theorem readable_cons {c : Char} (hc : c ≠ '&') (s : List Char) :
    Readable (c :: s) ↔ Readable s := by
  unfold Readable
  rw [overlongCode?]
  exact fun r h => absurd h hc

theorem readable_amp {s : List Char} (hs : s.head? ≠ some '#') :
    Readable ('&' :: s) ↔ Readable s := by
  unfold Readable
  rw [overlongCode?]
  rintro r - rfl
  exact hs rfl

theorem readable_code (s : List Char) :
    Readable ('&' :: '#' :: s) ↔
      (s.takeWhile Char.isDigit).length ≤ Number.digitLimit ∧ Readable s := by
  unfold Readable
  rw [overlongCode?]
  split
  next h => simp [Nat.not_le.mpr h]
  next h => simp [Nat.not_lt.mp h]

theorem readable_append_of_notMem {s : List Char} (hs : '&' ∉ s) (t : List Char) :
    Readable (s ++ t) ↔ Readable t := by
  induction s with
  | nil => rfl
  | cons c s ih =>
      rw [List.mem_cons, not_or] at hs
      rw [List.cons_append, readable_cons (Ne.symm hs.1), ih hs.2]

/-- The codes of a text are read part by part. -/
theorem readable_append {t : List Char} (ht : Apart t) (s : List Char) :
    Readable (s ++ t) ↔ Readable s ∧ Readable t := by
  induction s with
  | nil => exact ⟨fun h => ⟨readable_nil, h⟩, And.right⟩
  | cons c s ih =>
      by_cases hc : c = '&'
      · subst hc
        by_cases hs : s.head? = some '#'
        · obtain ⟨r, rfl⟩ := List.head?_eq_some_iff.mp hs
          have hrun : (r ++ t).takeWhile Char.isDigit = r.takeWhile Char.isDigit :=
            takeWhile_append_of_head (fun c hc => (ht c hc).isDigit) r
          rw [List.cons_append, readable_cons (by decide), readable_cons (by decide)] at ih
          rw [List.cons_append, List.cons_append, readable_code, readable_code, hrun, ih, and_assoc]
        · have hs' : (s ++ t).head? ≠ some '#' := by
            cases s with
            | nil => exact fun h => (ht '#' h).2 rfl
            | cons d s => exact hs
          rw [List.cons_append, readable_amp hs, readable_amp hs', ih]
      · rw [List.cons_append, readable_cons hc, readable_cons hc, ih]

theorem Readable.of_append {s t : List Char} (h : Readable (s ++ t)) : Readable s := by
  induction s with
  | nil => exact readable_nil
  | cons c s ih =>
      by_cases hc : c = '&'
      · subst hc
        by_cases hs : s.head? = some '#'
        · obtain ⟨r, rfl⟩ := List.head?_eq_some_iff.mp hs
          rw [List.cons_append, List.cons_append, readable_code] at h
          rw [List.cons_append, readable_cons (by decide), readable_cons (by decide)] at ih
          rw [readable_code]
          have hrun : (r.takeWhile Char.isDigit).length ≤
              ((r ++ t).takeWhile Char.isDigit).length := by
            rw [List.takeWhile_append]
            split
            next hall =>
              rw [List.length_append, hall]
              exact Nat.le_add_right _ _
            next => exact le_rfl
          exact ⟨hrun.trans h.1, ih h.2⟩
        · rw [readable_amp hs]
          cases s with
          | nil => exact readable_nil
          | cons d s =>
              have hs' : (d :: s ++ t).head? ≠ some '#' := hs
              rw [List.cons_append, readable_amp hs'] at h
              exact ih h
      · rw [List.cons_append, readable_cons hc] at h
        rw [readable_cons hc]
        exact ih h

end QuestionBank.Markup
