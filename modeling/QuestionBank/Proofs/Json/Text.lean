import QuestionBank.Json.Printer
import QuestionBank.Json.Reader
import Mathlib.Tactic.Common

/-!
# Strings in JSON text

A string is written between quotes, with escapes for quotes, backslashes and control
characters, and it is read back as it was.
-/

namespace QuestionBank.Json

/-! ## Escapes -/

/-- A control character is written with the two last digits of its code. -/
theorem hex_of_control : ∀ n : Fin 0x20,
    Text.hex 4 n = ['0', '0', Nat.digitChar (n / 16), Nat.digitChar (n % 16)] ∧
    hexValue4? '0' '0' (Nat.digitChar (n / 16)) (Nat.digitChar (n % 16)) = some n.val := by
  decide

theorem isHighSurrogate_control {n : Nat} (h : n < 0x20) : isHighSurrogate n = false := by
  simp [isHighSurrogate]
  omega

theorem ofCode_control {n : Nat} (h : n < 0x20) : ofCode n = Char.ofNat n := by
  have hlow : isLowSurrogate n = false := by
    simp [isLowSurrogate]
    omega
  simp [ofCode, isHighSurrogate_control h, hlow]

variable {opening read rest : List Char} {c d : Char}

/-- A character that is written by its code is read, whatever comes after it. -/
theorem stringBody_code {a b c d : Char} {n : Nat} (h : hexValue4? a b c d = some n)
    (hn : n < 0x20) (hrest : rest ≠ []) :
    stringBody opening read ('\\' :: 'u' :: a :: b :: c :: d :: rest) =
      stringBody opening (Char.ofNat n :: read) rest := by
  have hhigh := isHighSurrogate_control hn
  have hcode := ofCode_control hn
  conv_lhs => rw [stringBody.eq_def]
  split
  case h_4 he =>
    -- Another code follows, which would count if this one were half of a pair.
    cases he
    simp [h, hhigh, hcode]
  case h_5 he =>
    cases he
    simp [h, hcode]
  case h_6 hone he =>
    cases he
    cases rest with
    | nil => exact absurd rfl hrest
    | cons e rest => exact absurd rfl (hone a b c d e rest)
  case h_7 hu he =>
    cases he
    exact (hu rfl).elim
  case h_8 hnone he =>
    cases he
    exact absurd rfl (hnone _ _ rfl)
  all_goals simp_all

theorem stringBody_simple (hc : c ≠ 'u') (h : simpleEscape? c = some d) :
    stringBody opening read ('\\' :: c :: rest) = stringBody opening (d :: read) rest := by
  conv_lhs => rw [stringBody.eq_def]
  split
  case h_8 hnone he =>
    cases he
    exact absurd rfl (hnone _ _ rfl)
  all_goals simp_all

theorem stringBody_plain (hquote : c ≠ '"') (hbackslash : c ≠ '\\') (hcontrol : 0x20 ≤ c.toNat) :
    stringBody opening read (c :: rest) = stringBody opening (c :: read) rest := by
  have hnot : ¬ c.toNat < 0x20 := Nat.not_lt.mpr hcontrol
  conv_lhs => rw [stringBody.eq_def]
  split
  case h_8 he =>
    cases he
    exact if_neg hnot
  all_goals simp_all

/-! ## Strings -/

/-- What a character is written as is read as the character, if more text follows. -/
theorem stringBody_escapedChar (c : Char) (hrest : rest ≠ []) :
    stringBody opening read (escapedChar c ++ rest) = stringBody opening (c :: read) rest := by
  unfold escapedChar
  split_ifs with hquote hbackslash hline hreturn htab hback hform hcontrol
  · subst hquote
    exact stringBody_simple (by decide) rfl
  · subst hbackslash
    exact stringBody_simple (by decide) rfl
  · subst hline
    exact stringBody_simple (by decide) rfl
  · subst hreturn
    exact stringBody_simple (by decide) rfl
  · subst htab
    exact stringBody_simple (by decide) rfl
  · subst hback
    exact stringBody_simple (by decide) rfl
  · subst hform
    exact stringBody_simple (by decide) rfl
  · obtain ⟨hhex, hvalue⟩ := hex_of_control ⟨c.toNat, hcontrol⟩
    have hread := @stringBody_code opening read rest _ _ _ _ _ hvalue hcontrol hrest
    rw [Char.ofNat_toNat] at hread
    rw [show Text.hex 4 c.toNat = _ from hhex]
    exact hread
  · exact stringBody_plain hquote hbackslash (Nat.not_lt.mp hcontrol)

/-- **A string is read back as it was written.** -/
theorem stringBody_stringChars (s opening rest : List Char) :
    stringBody opening read (s.flatMap escapedChar ++ '"' :: rest) =
      .ok (String.ofList (read.reverse ++ s), rest) := by
  induction s generalizing read with
  | nil => rw [List.append_nil, List.flatMap_nil, List.nil_append, stringBody]
  | cons c s ih =>
      have hrest : s.flatMap escapedChar ++ '"' :: rest ≠ [] := by simp
      rw [List.flatMap_cons, List.append_assoc, stringBody_escapedChar c hrest, ih,
        List.reverse_cons, List.append_assoc]
      rfl

/-! ## Line ends -/

/-- The characters that end a line. -/
def isLineEnd (c : Char) : Bool := c == '\n' || c == '\r'

theorem hex_of_control_noLineEnd : ∀ n : Fin 0x20, ∀ c ∈ Text.hex 4 n, isLineEnd c = false := by
  decide

/-- What a character is written as holds no line end. -/
theorem escapedChar_noLineEnd (c : Char) : ∀ e ∈ escapedChar c, isLineEnd e = false := by
  unfold escapedChar
  split_ifs with hquote hbackslash hline hreturn htab hback hform hcontrol
  iterate 7 decide
  · intro e he
    rcases List.mem_cons.mp he with rfl | he
    · rfl
    rcases List.mem_cons.mp he with rfl | he
    · rfl
    exact hex_of_control_noLineEnd ⟨c.toNat, hcontrol⟩ e he
  · intro e he
    rw [List.mem_singleton.mp he]
    simp [isLineEnd, hline, hreturn]

theorem stringChars_noLineEnd (s : String) : ∀ e ∈ stringChars s, isLineEnd e = false := by
  intro e he
  rcases List.mem_cons.mp he with rfl | he
  · rfl
  rcases List.mem_append.mp he with he | he
  · obtain ⟨c, -, hc⟩ := List.mem_flatMap.mp he
    exact escapedChar_noLineEnd c e hc
  · rw [List.mem_singleton.mp he]
    rfl

end QuestionBank.Json
