import QuestionBank.Proofs.Number.Decimal
import QuestionBank.Proofs.Number.Signs
import QuestionBank.Scoring.Numeric

/-!
# Written numbers are read

The text of a floating-point number is a numeral: digits, maybe a point with digits
behind it, maybe an exponent, and a minus sign in front of a negative one. Numerals
are read as floating-point numbers, and so are the names of what is not finite.
-/

namespace QuestionBank.Number

open QuestionBank.Text

/-- A text of ASCII digits. -/
def Digits (s : List Char) : Prop := ∀ c ∈ s, c.isDigit = true

/-- A point with digits, or nothing. -/
inductive PointPart : List Char → Prop
  | absent : PointPart []
  | digits {s : List Char} (hs : Digits s) : PointPart ('.' :: s)

/-- An exponent with its sign, or nothing. -/
inductive PowerPart : List Char → Prop
  | absent : PowerPart []
  | digits {c : Char} {s : List Char} (hc : c = '+' ∨ c = '-') (hne : s ≠ []) (hs : Digits s) :
      PowerPart ('e' :: c :: s)

/-- An unsigned number in digits. -/
inductive Numeral : List Char → Prop
  | mk {whole point power : List Char} (hne : whole ≠ []) (hwhole : Digits whole)
      (hpoint : PointPart point) (hpower : PowerPart power) : Numeral (whole ++ (point ++ power))

theorem Digits.append {s t : List Char} (hs : Digits s) (ht : Digits t) : Digits (s ++ t) := by
  intro c hc
  rcases List.mem_append.mp hc with hc | hc
  · exact hs c hc
  · exact ht c hc

theorem digits_replicate_zero (n : Nat) : Digits (List.replicate n '0') := by
  intro c hc
  rw [List.eq_of_mem_replicate hc]
  rfl

theorem digits_decimalDigits (n : Nat) : Digits (decimalDigits n) := isDigit_of_mem_decimalDigits n

/-! ## Reading numerals -/

/-- A text does not begin with a digit. -/
def NoDigitAhead (s : List Char) : Prop := ∀ c ∈ s.head?, decimalValue? c = none

theorem takeDigits_append {s t : List Char} (hs : Digits s) (ht : NoDigitAhead t) :
    ∃ values, takeDigits (s ++ t) = (values, t) ∧ values.length = s.length := by
  induction s with
  | nil =>
      cases t with
      | nil => exact ⟨[], rfl, rfl⟩
      | cons c t => exact ⟨[], by simp [takeDigits, ht c rfl], rfl⟩
  | cons c s ih =>
      obtain ⟨values, htake, hlength⟩ := ih fun d hd => hs d (by simp [hd])
      have hc : decimalValue? c = some (c.toNat - 0x30) := by
        rw [decimalValue?, if_pos (hs c (by simp))]
      refine ⟨(c.toNat - 0x30) :: values, ?_, by simp [hlength]⟩
      rw [List.cons_append, takeDigits, hc]
      simp [htake]

theorem PowerPart.noDigitAhead {s : List Char} (h : PowerPart s) : NoDigitAhead s := by
  cases h with
  | absent => simp [NoDigitAhead]
  | digits => simp [NoDigitAhead, show decimalValue? 'e' = none by decide]

theorem noDigitAhead_point_power {s t : List Char} (hs : PointPart s) (ht : PowerPart t) :
    NoDigitAhead (s ++ t) := by
  cases hs with
  | absent => exact ht.noDigitAhead
  | digits => simp [NoDigitAhead, show decimalValue? '.' = none by decide]

theorem takeFraction_append {s t : List Char} (hs : PointPart s) (ht : PowerPart t) :
    (takeFraction (s ++ t)).2 = t := by
  cases hs with
  | absent =>
      cases ht with
      | absent => rfl
      | digits => rfl
  | digits hs =>
      obtain ⟨values, htake, -⟩ := takeDigits_append hs ht.noDigitAhead
      rw [List.cons_append, takeFraction, htake]

theorem readExponent?_isSome {s : List Char} (h : PowerPart s) : (readExponent? s).isSome := by
  cases h with
  | absent => rfl
  | @digits c s hc hne hs =>
      obtain ⟨values, htake, hlength⟩ := takeDigits_append hs (t := []) (by simp [NoDigitAhead])
      have hvalues : values ≠ [] := by
        rw [← List.length_pos_iff, hlength]
        exact List.length_pos_of_ne_nil hne
      rw [List.append_nil] at htake
      have hsign : (takeSign (c :: s)).2 = s := by
        rcases hc with rfl | rfl <;> rfl
      simp [readExponent?, hsign, htake, hvalues]

theorem isAlpha_eq_false_of_isDigit {c : Char} (h : c.isDigit = true) : c.isAlpha = false := by
  rw [Char.isDigit, Bool.and_eq_true, decide_eq_true_eq, decide_eq_true_eq] at h
  unfold Char.isAlpha Char.isUpper Char.isLower
  simp only [Bool.or_eq_false_iff, Bool.and_eq_false_iff, decide_eq_false_iff_not,
    UInt32.le_iff_toNat_le, ge_iff_le] at h ⊢
  simp at h ⊢
  omega

/-- A text that begins with a digit is not a word, whatever the letter case. -/
theorem map_toLower_ne {c : Char} {s w : List Char} (hc : c.isDigit = true)
    (hw : ∀ d ∈ w, d.isAlpha = true) : (c :: s).map Char.toLower ≠ w := by
  rintro rfl
  have halpha := isAlpha_of_toLower (hw c.toLower (by simp))
  rw [isAlpha_eq_false_of_isDigit hc] at halpha
  cases halpha

theorem readMagnitude?_isSome {s : List Char} (negative : Bool) (h : Numeral s) :
    (readMagnitude? negative s).isSome := by
  cases h with
  | @mk whole point power hne hwhole hpoint hpower =>
      obtain ⟨values, htake, hlength⟩ :=
        takeDigits_append hwhole (noDigitAhead_point_power hpoint hpower)
      have hvalues : values ≠ [] := by
        rw [← List.length_pos_iff, hlength]
        exact List.length_pos_of_ne_nil hne
      have hword : ∀ w : List Char, (∀ d ∈ w, d.isAlpha = true) →
          (whole ++ (point ++ power)).map Char.toLower ≠ w := by
        intro w hw
        cases whole with
        | nil => exact absurd rfl hne
        | cons c whole => exact map_toLower_ne (hwhole c (by simp)) hw
      have hinf := hword "inf".toList (by decide)
      have hinfinity := hword "infinity".toList (by decide)
      have hnan := hword "nan".toList (by decide)
      obtain ⟨e, he⟩ := Option.isSome_iff_exists.mp (readExponent?_isSome hpower)
      simp only [readMagnitude?, hinf, hinfinity, hnan, decide_false, Bool.or_self,
        Bool.false_eq_true, if_false, htake]
      simp [takeFraction_append hpoint hpower, hvalues, he]

/-! ## Signs and padding -/

theorem joinDigits?_of_forall_ne {s : List Char} (h : ∀ c ∈ s, c ≠ '_') (afterDigit : Bool) :
    joinDigits? afterDigit s = some s := by
  induction s generalizing afterDigit with
  | nil => rfl
  | cons c s ih =>
      rw [joinDigits?, if_neg (h c (by simp)), ih fun d hd => h d (by simp [hd])]
      rfl

theorem dropWhile_of_forall_not {p : Char → Bool} {s : List Char} (h : ∀ c ∈ s, p c = false) :
    s.dropWhile p = s := by
  cases s with
  | nil => rfl
  | cons c s => rw [List.dropWhile_cons_of_neg (by simp [h c (by simp)])]

theorem unpad_of_forall_not {s : List Char} (h : ∀ c ∈ s, isPadding c = false) : unpad s = s := by
  rw [unpad, dropWhile_of_forall_not h, dropWhile_of_forall_not, List.reverse_reverse]
  exact fun c hc => h c (List.mem_reverse.mp hc)

/-- The characters of numerals and of their sign. -/
def isNumeralSign (c : Char) : Bool := c.isDigit || c == '.' || c == 'e' || c == '+' || c == '-'

theorem Numeral.isNumeralSign {s : List Char} (h : Numeral s) :
    ∀ c ∈ s, isNumeralSign c = true := by
  cases h with
  | @mk whole point power hne hwhole hpoint hpower =>
      have hdigit : ∀ {ds}, Digits ds → ∀ c ∈ ds, Number.isNumeralSign c = true := fun h c hc => by
        simp [Number.isNumeralSign, h c hc]
      intro c hc
      rcases List.mem_append.mp hc with hc | hc
      · exact hdigit hwhole c hc
      rcases List.mem_append.mp hc with hc | hc
      · cases hpoint with
        | absent => cases hc
        | digits hs =>
            rcases List.mem_cons.mp hc with rfl | hc
            · rfl
            · exact hdigit hs c hc
      · cases hpower with
        | absent => cases hc
        | digits hsign hne hs =>
            rcases List.mem_cons.mp hc with rfl | hc
            · rfl
            rcases List.mem_cons.mp hc with rfl | hc
            · rcases hsign with rfl | rfl <;> rfl
            · exact hdigit hs c hc

theorem not_blank_of_isDigit {c : Char} (h : c.isDigit = true) : isBlank c = false := by
  have hrange : 48 ≤ c.toNat ∧ c.toNat ≤ 57 := by
    rw [Char.isDigit, Bool.and_eq_true, decide_eq_true_eq, decide_eq_true_eq] at h
    simpa [UInt32.le_iff_toNat_le] using h
  simp [isBlank]
  omega

theorem not_padding_of_isNumeralSign {c : Char} (h : isNumeralSign c = true) :
    isPadding c = false := by
  simp only [isNumeralSign, Bool.or_eq_true, beq_iff_eq] at h
  rcases h with (((h | rfl) | rfl) | rfl) | rfl
  · simp [isPadding, not_blank_of_isDigit h]
  all_goals decide

theorem ne_underscore_of_isNumeralSign {c : Char} (h : isNumeralSign c = true) : c ≠ '_' := by
  rintro rfl
  exact absurd h (by decide)

theorem takeSign_numeral {s : List Char} (h : Numeral s) : takeSign s = (false, s) := by
  cases h with
  | @mk whole point power hne hwhole hpoint hpower =>
      cases whole with
      | nil => exact absurd rfl hne
      | cons c whole =>
          have hc := hwhole c (by simp)
          unfold takeSign
          split
          next he => exact absurd ((List.cons.inj he).1 ▸ hc) (by decide)
          next he => exact absurd ((List.cons.inj he).1 ▸ hc) (by decide)
          next => rfl

theorem readBinary64?_of_signs {s : List Char} (h : ∀ c ∈ s, isNumeralSign c = true) :
    readBinary64? (String.ofList s) = readMagnitude? (takeSign s).1 (takeSign s).2 := by
  rw [readBinary64?, String.toList_ofList,
    unpad_of_forall_not fun c hc => not_padding_of_isNumeralSign (h c hc),
    joinDigits?_of_forall_ne fun c hc => ne_underscore_of_isNumeralSign (h c hc)]

/-- A numeral is read as a number, with a minus sign in front of it or without. -/
theorem readBinary64?_numeral {s : List Char} (h : Numeral s) (negative : Bool) :
    (readBinary64? (String.ofList (if negative then '-' :: s else s))).isSome := by
  cases negative with
  | false =>
      rw [if_neg (by simp), readBinary64?_of_signs h.isNumeralSign, takeSign_numeral h]
      exact readMagnitude?_isSome _ h
  | true =>
      have hsigns : ∀ c ∈ '-' :: s, isNumeralSign c = true := by
        intro c hc
        rcases List.mem_cons.mp hc with rfl | hc
        · rfl
        · exact h.isNumeralSign c hc
      rw [if_pos rfl, readBinary64?_of_signs hsigns]
      exact readMagnitude?_isSome _ h

/-! ## The text of a number -/

theorem Digits.numeral {s : List Char} (hs : Digits s) (hne : s ≠ []) : Numeral s := by
  simpa using Numeral.mk hne hs .absent .absent

theorem numeral_point {s t : List Char} (hs : Digits s) (hne : s ≠ []) (ht : Digits t) :
    Numeral (s ++ '.' :: t) := by
  simpa using Numeral.mk hne hs (.digits ht) .absent

theorem numeral_positional {digits : List Char} (h : Digits digits) (hne : digits ≠ [])
    (lead : Int) : Numeral (positional digits lead) := by
  unfold positional
  split
  · exact numeral_point (s := ['0']) (digits_replicate_zero 1) (by simp)
      ((digits_replicate_zero _).append h)
  · dsimp only
    split
    · refine numeral_point (t := ['0']) (h.append (digits_replicate_zero _)) ?_
        (digits_replicate_zero 1)
      simp [hne]
    · refine numeral_point (fun c hc => h c (List.mem_of_mem_take hc)) ?_
        fun c hc => h c (List.mem_of_mem_drop hc)
      simp [hne]

theorem numeral_exponential (layout : Layout) {digits : List Char} (h : Digits digits)
    (hne : digits ≠ []) (lead : Int) : Numeral (layout.exponential digits lead) := by
  have hpower : PowerPart ('e' :: (if lead < 0 then '-' else '+') ::
      (List.replicate (layout.exponentWidth - (decimalDigits lead.natAbs).length) '0' ++
        decimalDigits lead.natAbs)) := by
    refine .digits ?_ (by simp [decimalDigits_ne_nil])
      ((digits_replicate_zero _).append (digits_decimalDigits _))
    split
    · exact .inr rfl
    · exact .inl rfl
  unfold Layout.exponential
  match digits, hne with
  | [c], _ => exact .mk (List.cons_ne_nil c []) h .absent hpower
  | c :: d :: r, _ =>
      have hc : Digits [c] := fun e he => h e (by simp_all)
      have hr : Digits (d :: r) := fun e he => h e (by simp_all)
      exact .mk (List.cons_ne_nil c []) hc (.digits hr) hpower

theorem readBinary64?_showInt (i : Int) : (readBinary64? (showInt i)).isSome := by
  have hread := readBinary64?_numeral
    ((digits_decimalDigits i.natAbs).numeral (decimalDigits_ne_nil _)) (decide (i < 0))
  unfold showInt
  by_cases hi : i < 0
  · rw [if_pos hi]
    simpa [hi, String.ofList_cons] using hread
  · rw [if_neg hi]
    simpa [hi] using hread

/-- The text of a finite number is a numeral with its sign. -/
theorem exists_numeral_render (layout : Layout) (e : Fin 2047) (f : BitVec 52) :
    ∃ s, Numeral s ∧ ∀ negative, layout.render (.finite negative e f) =
      String.ofList (if negative then '-' :: s else s) := by
  refine ⟨_, ?_, fun negative => rfl⟩
  split
  · exact numeral_point (digits_replicate_zero 1) (by simp) (digits_replicate_zero 1)
  · dsimp only
    split
    · exact numeral_positional (digits_decimalDigits _) (decimalDigits_ne_nil _) _
    · exact numeral_exponential layout (digits_decimalDigits _) (decimalDigits_ne_nil _) _

theorem readBinary64?_render (layout : Layout) (negative : Bool) (e : Fin 2047) (f : BitVec 52) :
    (readBinary64? (layout.render (.finite negative e f))).isSome := by
  obtain ⟨s, hs, hrender⟩ := exists_numeral_render layout e f
  rw [hrender]
  exact readBinary64?_numeral hs negative

/-- **The text of a number is read as a number.** -/
theorem readBinary64?_formatNumber (x : Binary64) :
    (readBinary64? (Scoring.formatNumber x)).isSome := by
  unfold Scoring.formatNumber
  split
  next i _ => exact readBinary64?_showInt i
  next =>
    cases x with
    | nan => decide
    | infinite negative => cases negative <;> decide
    | finite negative e f => exact readBinary64?_render _ negative e f

end QuestionBank.Number
