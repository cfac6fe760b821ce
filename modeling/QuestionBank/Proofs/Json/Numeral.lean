import QuestionBank.Json.Printer
import QuestionBank.Json.Reader
import QuestionBank.Proofs.Number.Written

/-!
# Numbers in JSON text

An integer is written in digits and read back as it was. A floating-point number is written
with a point or an exponent, so that it is not read as an integer. JSON text gives it the
value that its text has by itself.
-/

namespace QuestionBank.Json

open QuestionBank.Number QuestionBank.Text

/-! ## Digits -/

/-- The values of digits. -/
def values (s : List Char) : List Nat := s.map fun c => c.toNat - 0x30

/-- Digits without a zero in front of others. -/
structure Whole (s : List Char) : Prop where
  digits : Digits s
  ne_nil : s ≠ []
  lead : ∀ r, s = '0' :: r → r = []

theorem whole_digit {c : Char} (h : c.isDigit = true) : Whole [c] := by
  refine ⟨?_, List.cons_ne_nil c [], ?_⟩
  · intro d hd
    rw [List.mem_singleton.mp hd]
    exact h
  · rintro r hr
    cases hr
    rfl

theorem digitChar_ne_zero : ∀ d < 10, d ≠ 0 → Nat.digitChar d ≠ '0' := by decide

/-- The digits of a positive number do not begin with a zero. -/
theorem decimalDigits_eq_cons {n : Nat} (hn : n ≠ 0) :
    ∃ c r, decimalDigits n = c :: r ∧ c ≠ '0' := by
  induction n using decimalDigits.induct with
  | case1 n h => exact ⟨_, [], decimalDigits_of_lt h, digitChar_ne_zero n h hn⟩
  | case2 n h ih =>
      obtain ⟨c, r, hdigits, hc⟩ := ih (by omega)
      refine ⟨c, r ++ [Nat.digitChar (n % 10)], ?_, hc⟩
      rw [decimalDigits_of_le (Nat.not_lt.mp h), hdigits, List.cons_append]

theorem whole_append {n : Nat} (hn : n ≠ 0) {s : List Char} (hs : Digits s) :
    Whole (decimalDigits n ++ s) := by
  obtain ⟨c, r, hdigits, hc⟩ := decimalDigits_eq_cons hn
  refine ⟨(digits_decimalDigits n).append hs, ?_, ?_⟩
  · simp [decimalDigits_ne_nil]
  · intro r' hr
    rw [hdigits] at hr
    exact absurd (List.cons.inj hr).1 hc

theorem whole_decimalDigits (n : Nat) : Whole (decimalDigits n) := by
  by_cases hn : n = 0
  · subst hn
    rw [decimalDigits_of_lt (by decide)]
    exact whole_digit (by decide)
  · simpa using whole_append hn (s := []) (by simp [Digits])

theorem whole_take (n k : Nat) : Whole ((decimalDigits n).take (k + 1)) := by
  refine ⟨fun c hc => digits_decimalDigits n c (List.mem_of_mem_take hc), ?_, ?_⟩
  · simp [decimalDigits_ne_nil]
  · intro r hr
    cases hdigits : decimalDigits n with
    | nil => exact absurd hdigits (decimalDigits_ne_nil n)
    | cons c t =>
        rw [hdigits, List.take_succ_cons] at hr
        obtain ⟨rfl, htake⟩ := List.cons.inj hr
        rw [(whole_decimalDigits n).lead t hdigits, List.take_nil] at htake
        exact htake.symm

/-- What follows a number: nothing that could go on with it. -/
def EndsNumber (s : List Char) : Prop :=
  ∀ c ∈ s.head?, c.isDigit = false ∧ c ≠ '.' ∧ c ≠ 'e' ∧ c ≠ 'E'

/-- No ASCII digit comes first. -/
def StopsDigits (s : List Char) : Prop := ∀ c ∈ s.head?, c.isDigit = false

theorem EndsNumber.stopsDigits {s : List Char} (h : EndsNumber s) : StopsDigits s :=
  fun c hc => (h c hc).1

theorem spanDigits_append {s t : List Char} (hs : Digits s) (ht : StopsDigits t) :
    spanDigits (s ++ t) = (s, t) := by
  unfold spanDigits
  cases t with
  | nil =>
      rw [List.append_nil, List.takeWhile_eq_self_iff.mpr hs, List.dropWhile_eq_nil_iff.mpr hs]
  | cons c t =>
      have hc : ¬ c.isDigit = true := by
        rw [ht c rfl]
        exact Bool.false_ne_true
      rw [List.takeWhile_append_of_pos hs, List.takeWhile_cons_of_neg hc, List.append_nil,
        List.dropWhile_append_of_pos hs, List.dropWhile_cons_of_neg hc]

theorem takeDigits_digits {s t : List Char} (hs : Digits s) (ht : NoDigitAhead t) :
    takeDigits (s ++ t) = (values s, t) := by
  induction s with
  | nil =>
      cases t with
      | nil => rfl
      | cons c t =>
          rw [List.nil_append, takeDigits, ht c rfl]
          rfl
  | cons c s ih =>
      obtain ⟨hc, hs⟩ := List.forall_mem_cons.mp hs
      have hvalue : decimalValue? c = some (c.toNat - 0x30) := by
        rw [decimalValue?, if_pos hc]
      rw [List.cons_append, takeDigits, hvalue]
      simp [ih hs, values]

theorem values_ne_nil {s : List Char} (hs : s ≠ []) : values s ≠ [] := by
  simpa [values] using hs

/-! ## Numbers in parts -/

/-- An unsigned number in digits: a whole part, and maybe a fraction and a signed exponent,
neither of them empty. -/
structure Spelling where
  whole : List Char
  fraction : Option (List Char)
  power : Option (Bool × List Char)
  isWhole : Whole whole
  isFraction : ∀ s ∈ fraction, Digits s ∧ s ≠ []
  isPower : ∀ p ∈ power, Digits p.2 ∧ p.2 ≠ []

def fractionChars : Option (List Char) → List Char
  | none => []
  | some s => '.' :: s

def powerChars : Option (Bool × List Char) → List Char
  | none => []
  | some (negative, s) => 'e' :: (if negative then '-' else '+') :: s

/-- The exponent that is written. -/
def powerValue (power : Option (Bool × List Char)) : Option Int :=
  power.map fun p => if p.1 then -(ofDigits (values p.2) : Int) else ofDigits (values p.2)

namespace Spelling

variable (n : Spelling)

def chars : List Char := n.whole ++ (fractionChars n.fraction ++ powerChars n.power)

/-- The digits of the fraction, none if there is no fraction. -/
def places : List Char := n.fraction.getD []

/-- The floating-point number that is written. -/
def float (negative : Bool) : Binary64 :=
  let digits := (values (n.whole ++ n.places)).dropWhile (· == 0)
  .ofDecimal negative (ofDigits digits) digits.length
    ((powerValue n.power).getD 0 - n.places.length)

/-- A number with a point and no exponent. -/
def withPoint (whole fraction : List Char) (hwhole : Whole whole) (hfraction : Digits fraction)
    (hne : fraction ≠ []) : Spelling where
  whole := whole
  fraction := some fraction
  power := none
  isWhole := hwhole
  isFraction := by
    rintro s ⟨⟩
    exact ⟨hfraction, hne⟩
  isPower := by rintro p ⟨⟩

@[simp] theorem chars_withPoint {whole fraction : List Char} (hwhole : Whole whole)
    (hfraction : Digits fraction) (hne : fraction ≠ []) :
    (withPoint whole fraction hwhole hfraction hne).chars = whole ++ '.' :: fraction := by
  simp [withPoint, chars, fractionChars, powerChars]

end Spelling

/-! ## Numbers read by themselves -/

theorem noDigitAhead_powerChars (power : Option (Bool × List Char)) :
    NoDigitAhead (powerChars power) := by
  intro c hc
  cases power with
  | none => cases hc
  | some p =>
      cases hc
      decide

theorem noDigitAhead_parts (fraction : Option (List Char)) (power : Option (Bool × List Char)) :
    NoDigitAhead (fractionChars fraction ++ powerChars power) := by
  cases fraction with
  | none => exact noDigitAhead_powerChars power
  | some s =>
      intro c hc
      cases hc
      decide

theorem readExponent?_powerChars {power : Option (Bool × List Char)}
    (h : ∀ p ∈ power, Digits p.2 ∧ p.2 ≠ []) :
    readExponent? (powerChars power) = some ((powerValue power).getD 0) := by
  cases power with
  | none => rfl
  | some p =>
      obtain ⟨negative, s⟩ := p
      obtain ⟨hs, hne⟩ := h _ rfl
      have htake : takeDigits s = (values s, []) := by
        simpa using takeDigits_digits hs (t := []) (by simp [NoDigitAhead])
      cases negative with
      | true => simp [powerChars, readExponent?, takeSign, htake, values_ne_nil hne, powerValue]
      | false => simp [powerChars, readExponent?, takeSign, htake, values_ne_nil hne, powerValue]

theorem takeFraction_parts {fraction : Option (List Char)} {power : Option (Bool × List Char)}
    (h : ∀ s ∈ fraction, Digits s ∧ s ≠ []) :
    takeFraction (fractionChars fraction ++ powerChars power) =
      (values (fraction.getD []), powerChars power) := by
  cases fraction with
  | none => cases power <;> rfl
  | some s => exact takeDigits_digits (h s rfl).1 (noDigitAhead_powerChars power)

namespace Spelling

variable (n : Spelling)

/-- The text of a number is none of the words for what is not finite. -/
theorem map_toLower_chars_ne {w : List Char} (hw : ∀ d ∈ w, d.isAlpha = true) :
    n.chars.map Char.toLower ≠ w := by
  cases hwhole : n.whole with
  | nil => exact absurd hwhole n.isWhole.ne_nil
  | cons c r =>
      have hc : c.isDigit = true := n.isWhole.digits c (hwhole ▸ .head r)
      rw [chars, hwhole]
      exact map_toLower_ne hc hw

theorem readMagnitude?_chars (negative : Bool) :
    readMagnitude? negative n.chars = some (n.float negative) := by
  have hinf := n.map_toLower_chars_ne (w := "inf".toList) (by decide)
  have hinfinity := n.map_toLower_chars_ne (w := "infinity".toList) (by decide)
  have hnan := n.map_toLower_chars_ne (w := "nan".toList) (by decide)
  have hwhole : takeDigits n.chars =
      (values n.whole, fractionChars n.fraction ++ powerChars n.power) :=
    takeDigits_digits n.isWhole.digits (noDigitAhead_parts _ _)
  have hfraction : takeFraction (fractionChars n.fraction ++ powerChars n.power) =
      (values n.places, powerChars n.power) := takeFraction_parts n.isFraction
  have hpower := readExponent?_powerChars n.isPower
  simp only [readMagnitude?, hinf, hinfinity, hnan, decide_false, Bool.or_self,
    Bool.false_eq_true, if_false, hwhole, hfraction, hpower, Option.map_some]
  simp [float, values, n.isWhole.ne_nil]

/-- The characters of a number are digits, points, exponents and signs. -/
theorem isNumeralSign_of_mem : ∀ c ∈ n.chars, isNumeralSign c = true := by
  have hdigit {s : List Char} (hs : Digits s) : ∀ c ∈ s, isNumeralSign c = true := by
    intro c hc
    simp [isNumeralSign, hs c hc]
  intro c hc
  rcases List.mem_append.mp hc with hc | hc
  · exact hdigit n.isWhole.digits c hc
  rcases List.mem_append.mp hc with hc | hc
  · cases hf : n.fraction with
    | none =>
        rw [hf] at hc
        cases hc
    | some s =>
        rw [hf] at hc
        rcases List.mem_cons.mp hc with rfl | hc
        · rfl
        · exact hdigit (n.isFraction s hf).1 c hc
  · cases hp : n.power with
    | none =>
        rw [hp] at hc
        cases hc
    | some p =>
        rw [hp] at hc
        rcases List.mem_cons.mp hc with rfl | hc
        · rfl
        rcases List.mem_cons.mp hc with rfl | hc
        · split <;> rfl
        · exact hdigit (n.isPower p hp).1 c hc

/-- The text with a sign. -/
def signed (negative : Bool) : List Char := if negative then '-' :: n.chars else n.chars

theorem takeSign_signed (negative : Bool) : takeSign (n.signed negative) = (negative, n.chars) := by
  cases negative with
  | true => rfl
  | false =>
      cases hwhole : n.whole with
      | nil => exact absurd hwhole n.isWhole.ne_nil
      | cons c r =>
          have hc : c.isDigit = true := n.isWhole.digits c (hwhole ▸ .head r)
          have hchars : n.signed false =
              c :: (r ++ (fractionChars n.fraction ++ powerChars n.power)) := by
            simp [signed, chars, hwhole]
          unfold takeSign
          split
          next he =>
            rw [hchars] at he
            exact absurd ((List.cons.inj he).1 ▸ hc) (by decide)
          next he =>
            rw [hchars] at he
            exact absurd ((List.cons.inj he).1 ▸ hc) (by decide)
          next => rfl

/-- The value of a number that stands by itself. -/
theorem readBinary64?_signed (negative : Bool) :
    readBinary64? (String.ofList (n.signed negative)) = some (n.float negative) := by
  have hsigns : ∀ c ∈ n.signed negative, isNumeralSign c = true := by
    intro c hc
    cases negative with
    | false => exact n.isNumeralSign_of_mem c hc
    | true =>
        rcases List.mem_cons.mp hc with rfl | hc
        · rfl
        · exact n.isNumeralSign_of_mem c hc
  rw [readBinary64?_of_signs hsigns, takeSign_signed]
  exact n.readMagnitude?_chars negative

end Spelling

/-! ## Numbers in JSON text -/

theorem wholePart?_append {s t : List Char} (hs : Whole s) (ht : StopsDigits t) :
    wholePart? (s ++ t) = some (s, t) := by
  cases s with
  | nil => exact absurd rfl hs.ne_nil
  | cons c r =>
      unfold wholePart?
      split
      next r' he =>
        obtain ⟨rfl, hr⟩ := List.cons.inj he
        obtain rfl := hs.lead r rfl
        rw [← hr]
        rfl
      next c' r' hzero he =>
        obtain ⟨rfl, hr⟩ := List.cons.inj he
        have hspan : spanDigits (c :: (r ++ t)) = (c :: r, t) := spanDigits_append hs.digits ht
        rw [if_pos (hs.digits c (.head r)), ← hr]
        exact congrArg some hspan
      next he => cases he

theorem stopsDigits_powerChars (power : Option (Bool × List Char)) {rest : List Char}
    (hrest : EndsNumber rest) : StopsDigits (powerChars power ++ rest) := by
  cases power with
  | none => exact hrest.stopsDigits
  | some p =>
      intro c hc
      cases hc
      rfl

theorem stopsDigits_parts {fraction : Option (List Char)} {power : Option (Bool × List Char)}
    {rest : List Char} (hrest : EndsNumber rest) :
    StopsDigits (fractionChars fraction ++ (powerChars power ++ rest)) := by
  cases fraction with
  | none => exact stopsDigits_powerChars _ hrest
  | some s =>
      intro c hc
      cases hc
      rfl

theorem fractionPart_append {fraction : Option (List Char)} (power : Option (Bool × List Char))
    {rest : List Char} (h : ∀ s ∈ fraction, Digits s ∧ s ≠ []) (hrest : EndsNumber rest) :
    fractionPart (fractionChars fraction ++ (powerChars power ++ rest)) =
      (fraction, powerChars power ++ rest) := by
  cases fraction with
  | none =>
      have hpoint : ∀ r, powerChars power ++ rest ≠ '.' :: r := by
        intro r he
        cases power with
        | none =>
            have hhead : '.' ∈ rest.head? := by
              rw [show rest = '.' :: r from he]
              rfl
            exact (hrest '.' hhead).2.1 rfl
        | some p => cases (List.cons.inj he).1
      unfold fractionPart
      split
      next r he => exact absurd he (hpoint r)
      next => rfl
  | some s =>
      obtain ⟨hs, hne⟩ := h s rfl
      have hspan := spanDigits_append hs (stopsDigits_powerChars power hrest)
      simp [fractionChars, fractionPart, hspan, hne]

theorem exponentPart_append {power : Option (Bool × List Char)} {rest : List Char}
    (h : ∀ p ∈ power, Digits p.2 ∧ p.2 ≠ []) (hrest : EndsNumber rest) :
    exponentPart (powerChars power ++ rest) = (powerValue power, rest) := by
  cases power with
  | none =>
      cases rest with
      | nil => rfl
      | cons c r =>
          obtain ⟨-, -, he, hE⟩ := hrest c rfl
          simp [powerChars, exponentPart, he, hE, powerValue]
  | some p =>
      obtain ⟨negative, s⟩ := p
      obtain ⟨hs, hne⟩ := h _ rfl
      have hspan := spanDigits_append hs hrest.stopsDigits
      cases negative with
      | true => simp [powerChars, exponentPart, takeSign, hspan, hne, powerValue, values]
      | false => simp [powerChars, exponentPart, takeSign, hspan, hne, powerValue, values]

theorem Spelling.chars_append (n : Spelling) (rest : List Char) :
    n.chars ++ rest = n.whole ++ (fractionChars n.fraction ++ (powerChars n.power ++ rest)) := by
  simp [chars]

/-- The text of a number begins with a digit. -/
theorem Spelling.chars_eq_cons (n : Spelling) : ∃ c r, n.chars = c :: r ∧ c.isDigit = true := by
  cases hwhole : n.whole with
  | nil => exact absurd hwhole n.isWhole.ne_nil
  | cons c r => exact ⟨c, _, by rw [chars, hwhole]; rfl, n.isWhole.digits c (hwhole ▸ .head r)⟩

/-- A number is read in its parts, whatever its sign. -/
theorem number_signed (n : Spelling) (negative : Bool) {rest : List Char} {j : Json}
    (hrest : EndsNumber rest)
    (h : numberOf negative n.whole n.fraction (powerValue n.power) = .ok j) :
    number (n.signed negative ++ rest) = .ok (j, rest) := by
  have hwhole : wholePart? (n.chars ++ rest) =
      some (n.whole, fractionChars n.fraction ++ (powerChars n.power ++ rest)) := by
    rw [n.chars_append]
    exact wholePart?_append n.isWhole (stopsDigits_parts hrest)
  have hfraction := fractionPart_append n.power n.isFraction hrest
  have hpower := exponentPart_append n.isPower hrest
  have hsign : takeMinus (n.signed negative ++ rest) = (negative, n.chars ++ rest) := by
    cases negative with
    | true => rfl
    | false =>
        obtain ⟨c, r, hchars, hc⟩ := n.chars_eq_cons
        rw [show n.signed false = n.chars from rfl, hchars]
        unfold takeMinus
        split
        next he => exact absurd ((List.cons.inj he).1 ▸ hc) (by decide)
        next => rfl
  unfold number
  rw [hsign]
  dsimp only
  rw [hwhole]
  dsimp only
  rw [hfraction]
  dsimp only
  rw [hpower, h]

/-- A number with a fraction or an exponent is read as a floating-point number. -/
theorem numberOf_float (n : Spelling) (negative : Bool)
    (h : n.fraction ≠ none ∨ n.power ≠ none) :
    numberOf negative n.whole n.fraction (powerValue n.power) =
      .ok (.float (n.float negative)) := by
  unfold numberOf
  split
  next hf hp =>
    rcases h with h | h
    · exact absurd hf h
    · exact absurd (Option.map_eq_none_iff.mp hp) h
  next => rfl

/-- Digits by themselves are read as an integer, unless there are too many. -/
theorem numberOf_int (negative : Bool) {whole : List Char} (h : whole.length ≤ digitLimit) :
    numberOf negative whole none none =
      .ok (.int (if negative then -(ofDigits (values whole) : Int)
        else ofDigits (values whole))) := by
  unfold numberOf
  exact if_neg (Nat.not_lt.mpr h)

/-! ## What is written -/

theorem ofDigits_values_decimalDigits (n : Nat) : ofDigits (values (decimalDigits n)) = n := by
  have hvalues : (decimalDigits n).filterMap decimalValue? = values (decimalDigits n) := by
    unfold values
    rw [← List.filterMap_eq_map']
    apply List.filterMap_congr
    intro c hc
    simp [decimalValue?, isDigit_of_mem_decimalDigits n c hc]
  rw [← hvalues]
  exact ofDigits_decimalDigits n

/-- The spelling of an integer. -/
def integerSpelling (i : Int) : Spelling where
  whole := decimalDigits i.natAbs
  fraction := none
  power := none
  isWhole := whole_decimalDigits _
  isFraction := nofun
  isPower := nofun

theorem showInt_signed (i : Int) :
    (showInt i).toList = (integerSpelling i).signed (decide (i < 0)) := by
  by_cases hi : i < 0
  · simp [showInt, hi, Spelling.signed, Spelling.chars, integerSpelling, fractionChars, powerChars]
  · simp [showInt, hi, Spelling.signed, Spelling.chars, integerSpelling, fractionChars, powerChars]

/-- **An integer is read back as it was written**, unless it has too many digits. -/
theorem number_showInt {i : Int} (h : (decimalDigits i.natAbs).length ≤ digitLimit)
    {rest : List Char} (hrest : EndsNumber rest) :
    number ((showInt i).toList ++ rest) = .ok (.int i, rest) := by
  have hread : numberOf (decide (i < 0)) (decimalDigits i.natAbs) none none = .ok (.int i) := by
    rw [numberOf_int _ h, ofDigits_values_decimalDigits]
    by_cases hi : i < 0
    · simp only [hi, decide_true, if_true]
      congr 2
      omega
    · simp only [hi, decide_false, Bool.false_eq_true, if_false]
      congr 2
      omega
  rw [showInt_signed]
  exact number_signed (integerSpelling i) _ hrest hread

/-- Positive digits with a point at their place are a number with a fraction. -/
theorem positional_spelling {digits : Nat} {lead : Int} (h : digits ≠ 0 ∨ lead = 0) :
    ∃ n : Spelling, n.chars = positional (decimalDigits digits) lead ∧ n.fraction ≠ none := by
  have hdigits := digits_decimalDigits digits
  unfold positional
  split
  · have hfraction : Digits (List.replicate (lead.natAbs - 1) '0' ++ decimalDigits digits) :=
      (digits_replicate_zero _).append hdigits
    exact ⟨.withPoint ['0'] _ (whole_digit rfl) hfraction (by simp [decimalDigits_ne_nil]),
      by simp, Option.some_ne_none _⟩
  · dsimp only
    split
    · have hwhole : Whole (decimalDigits digits ++
          List.replicate (lead.natAbs + 1 - (decimalDigits digits).length) '0') := by
        rcases h with h | rfl
        · exact whole_append h (digits_replicate_zero _)
        · -- There is one digit, and no zero is put behind it.
          have hone : 1 ≤ (decimalDigits digits).length :=
            List.length_pos_of_ne_nil (decimalDigits_ne_nil digits)
          have hnone : (0 : Int).natAbs + 1 - (decimalDigits digits).length = 0 := by
            simp only [Int.natAbs_zero]
            omega
          rw [hnone]
          simpa using whole_decimalDigits digits
      exact ⟨.withPoint _ ['0'] hwhole (digits_replicate_zero 1) (List.cons_ne_nil _ _),
        by simp, Option.some_ne_none _⟩
    · next hlength =>
      have hfraction : Digits ((decimalDigits digits).drop (lead.natAbs + 1)) := fun c hc =>
        hdigits c (List.mem_of_mem_drop hc)
      exact ⟨.withPoint _ _ (whole_take digits lead.natAbs) hfraction
        (by rwa [ne_eq, List.drop_eq_nil_iff]), by simp, Option.some_ne_none _⟩

theorem exponential_spelling (layout : Layout) (digits : Nat) (lead : Int) :
    ∃ n : Spelling, n.chars = layout.exponential (decimalDigits digits) lead ∧
      n.power ≠ none := by
  have hdigits := digits_decimalDigits digits
  have hpower : ∀ p ∈ some (decide (lead < 0),
      List.replicate (layout.exponentWidth - (decimalDigits lead.natAbs).length) '0' ++
        decimalDigits lead.natAbs), Digits p.2 ∧ p.2 ≠ [] := by
    rintro p ⟨⟩
    exact ⟨(digits_replicate_zero _).append (digits_decimalDigits _),
      by simp [decimalDigits_ne_nil]⟩
  unfold Layout.exponential
  obtain ⟨c, r, hcons⟩ := List.exists_cons_of_ne_nil (decimalDigits_ne_nil digits)
  rw [hcons] at hdigits ⊢
  obtain ⟨hc, hrest⟩ := List.forall_mem_cons.mp hdigits
  cases r with
  | nil =>
      refine ⟨⟨[c], none, _, whole_digit hc, ?_, hpower⟩, ?_, Option.some_ne_none _⟩
      · rintro s ⟨⟩
      · simp [Spelling.chars, fractionChars, powerChars]
  | cons d r =>
      refine ⟨⟨[c], some (d :: r), _, whole_digit hc, ?_, hpower⟩, ?_, Option.some_ne_none _⟩
      · rintro s ⟨⟩
        exact ⟨hrest, List.cons_ne_nil _ _⟩
      · simp [Spelling.chars, fractionChars, powerChars]

theorem trim_digits_ne_zero {d : Decimal} (h : d.digits ≠ 0) (fuel : Nat) :
    (d.trim fuel).digits ≠ 0 := by
  induction fuel generalizing d with
  | zero => exact h
  | succ fuel ih =>
      rw [Decimal.trim]
      split
      next hmod =>
        apply ih
        show d.digits / 10 ≠ 0
        omega
      next => exact h

/-- Digits on a grid that read back as a number other than zero are not zero. -/
theorem onGrid?_digits_ne_zero {x : Binary64} {num den width : Nat} {lead : Int} {d : Decimal}
    (hx : x ≠ .zero false) (h : onGrid? x num den lead width = some d) : d.digits ≠ 0 := by
  have hnonzero (n w : Nat) (e : Int) (hread : (Binary64.ofDecimal false n w e == x) = true) :
      n ≠ 0 := by
    rintro rfl
    apply hx
    rw [← eq_of_beq hread, Binary64.ofDecimal, if_pos rfl]
  unfold onGrid? at h
  dsimp only at h
  split_ifs at h with hnearer hlow hfarther hfarther
  · cases h
    exact hnonzero _ _ _ hnearer
  · cases h
    exact hnonzero _ _ _ hfarther
  · cases h
    exact hnonzero _ _ _ hfarther

theorem shortest_digits {e : Fin 2047} {f : BitVec 52} (h : ¬ (e.val = 0 ∧ f.toNat = 0)) :
    (shortest e f).digits ≠ 0 ∨ shortest e f = ⟨0, 0⟩ := by
  have hx : Binary64.finite false e f ≠ .zero false := by
    intro hzero
    cases hzero
    exact h ⟨rfl, rfl⟩
  unfold shortest
  dsimp only
  split
  next d hfound =>
    obtain ⟨i, -, hgrid⟩ := List.exists_of_findSome?_eq_some hfound
    exact .inl (trim_digits_ne_zero (onGrid?_digits_ne_zero hx hgrid) 20)
  next => exact .inr rfl

/-- The sign stands in front of whatever spells the magnitude. -/
theorem exists_signed {P : Spelling → Prop} {body : List Char} (negative : Bool)
    (h : ∃ n : Spelling, n.chars = body ∧ P n) :
    ∃ n : Spelling, (if negative then '-' :: body else body) = n.signed negative ∧ P n := by
  obtain ⟨n, rfl, hn⟩ := h
  exact ⟨n, rfl, hn⟩

/-- The text of a finite number has a point or an exponent. -/
theorem render_signed (layout : Layout) (negative : Bool) (e : Fin 2047) (f : BitVec 52) :
    ∃ n : Spelling, (layout.render (.finite negative e f)).toList = n.signed negative ∧
      (n.fraction ≠ none ∨ n.power ≠ none) := by
  rw [Layout.render, String.toList_ofList]
  apply exists_signed
  by_cases hzero : e.val = 0 ∧ f.toNat = 0
  · rw [if_pos (by simpa using hzero)]
    exact ⟨.withPoint ['0'] ['0'] (whole_digit rfl) (digits_replicate_zero 1)
      (List.cons_ne_nil _ _), rfl, .inl (Option.some_ne_none _)⟩
  · rw [if_neg (by simpa using hzero)]
    dsimp only
    split
    · have hlead : (shortest e f).digits ≠ 0 ∨
          (shortest e f).exponent + (decimalDigits (shortest e f).digits).length - 1 = 0 := by
        rcases shortest_digits hzero with h | h
        · exact .inl h
        · right
          rw [h, decimalDigits_of_lt (by decide)]
          rfl
      obtain ⟨n, hn, hfraction⟩ := positional_spelling hlead
      exact ⟨n, hn, .inl hfraction⟩
    · obtain ⟨n, hn, hpower⟩ := exponential_spelling layout _ _
      exact ⟨n, hn, .inr hpower⟩

/-- The text of a number in JSON reads back as the number. -/
def ReadsBack (x : Binary64) : Prop := readBinary64? (numberLayout.render x) = some x

instance (x : Binary64) : Decidable (ReadsBack x) := inferInstanceAs (Decidable (_ = _))

/-- **JSON text gives a number the value that its text has by itself.** -/
theorem number_render {negative : Bool} {e : Fin 2047} {f : BitVec 52}
    (h : ReadsBack (.finite negative e f)) {rest : List Char} (hrest : EndsNumber rest) :
    number ((numberLayout.render (.finite negative e f)).toList ++ rest) =
      .ok (.float (.finite negative e f), rest) := by
  obtain ⟨n, htext, hfloat⟩ := render_signed numberLayout negative e f
  have hvalue : n.float negative = .finite negative e f := by
    rw [ReadsBack, ← String.ofList_toList (s := numberLayout.render _), htext,
      n.readBinary64?_signed] at h
    exact Option.some.inj h
  rw [htext]
  refine number_signed n negative hrest ?_
  rw [numberOf_float n negative hfloat, hvalue]

end QuestionBank.Json
