import QuestionBank.Markup.Reference
import QuestionBank.Proofs.Text.TakeWhile

/-!
# Encoded text

The signs that markup reserves are written as references. Encoded text holds none of
them but the ampersand, and decoding gives back what was encoded.
-/

namespace QuestionBank.Markup

open QuestionBank.Text

theorem encodeChar_cases (c : Char) :
    encodeChar c = ['&', 'a', 'm', 'p', ';'] ∧ c = '&' ∨
    encodeChar c = ['&', 'l', 't', ';'] ∧ c = '<' ∨
    encodeChar c = ['&', 'g', 't', ';'] ∧ c = '>' ∨
    encodeChar c = ['&', 'q', 'u', 'o', 't', ';'] ∧ c = '"' ∨
    encodeChar c = ['&', '#', 'x', '2', '7', ';'] ∧ c = '\'' ∨
    encodeChar c = [c] ∧ c ∉ ['&', '<', '>', '"', '\''] := by
  unfold encodeChar
  split_ifs <;> simp_all

/-- Encoded text has no quotes and no brackets. -/
theorem notMem_encode {s : List Char} {c : Char} (hc : c ∈ ['<', '>', '"', '\'']) :
    c ∉ encode s := by
  intro h
  obtain ⟨d, -, hd⟩ := List.mem_flatMap.mp h
  have hsigns : ∀ c ∈ ['<', '>', '"', '\''], c ∉ ['&', 'a', 'm', 'p', ';'] ∧
      c ∉ ['&', 'l', 't', ';'] ∧ c ∉ ['&', 'g', 't', ';'] ∧ c ∉ ['&', 'q', 'u', 'o', 't', ';'] ∧
      c ∉ ['&', '#', 'x', '2', '7', ';'] := by decide
  obtain ⟨hamp, hlt, hgt, hquot, hcode⟩ := hsigns c hc
  rcases encodeChar_cases d with ⟨he, -⟩ | ⟨he, -⟩ | ⟨he, -⟩ | ⟨he, -⟩ | ⟨he, -⟩ | ⟨he, hplain⟩ <;>
    rw [he] at hd
  · exact hamp hd
  · exact hlt hd
  · exact hgt hd
  · exact hquot hd
  · exact hcode hd
  · exact hplain (List.mem_singleton.mp hd ▸ .tail _ hc)

/-! ## Codes -/

/-- No encoded character is a code of decimal digits. -/
theorem overlongCode_encodeChar (c : Char) (s : List Char) :
    overlongCode? (encodeChar c ++ s) = overlongCode? s := by
  rcases encodeChar_cases c with ⟨he, -⟩ | ⟨he, -⟩ | ⟨he, -⟩ | ⟨he, -⟩ | ⟨he, -⟩ | ⟨he, hplain⟩ <;>
    rw [he]
  case inr.inr.inr.inr.inr =>
    rw [List.singleton_append, overlongCode?]
    intro r hc
    exact absurd (hc ▸ .head _) hplain
  case inr.inr.inr.inr.inl =>
    have hdigits : ('x' :: '2' :: '7' :: ';' :: s).takeWhile Char.isDigit = [] :=
      List.takeWhile_cons_of_neg (by decide)
    simp [overlongCode?, hdigits]
  all_goals simp [overlongCode?]

/-! ## Decoding -/

theorem decode_amp {r text : List Char} {size : Nat} (h : reference? r = some (text, size)) :
    decode ('&' :: r) = text ++ decode (r.drop size) := by
  rw [decode, if_pos rfl, h]

/-- A reference by a known name is replaced by its text. -/
theorem decode_named {name text : List Char} (hname : name ≠ [])
    (hsigns : ∀ c ∈ name, isNameSign c = true) (hlength : name.length ≤ 32)
    (hentity : entity? (name ++ [';']) = some text) (s : List Char) :
    decode ('&' :: (name ++ ';' :: s)) = text ++ decode s := by
  have htake : (name ++ ';' :: s).takeWhile isNameSign = name :=
    takeWhile_append_stop hsigns (by decide) s
  have hreference : reference? (name ++ ';' :: s) = some (text, name.length + 1) := by
    unfold reference?
    split
    next r h =>
      obtain ⟨c, rest, rfl⟩ := List.exists_cons_of_ne_nil hname
      cases h
      exact absurd (hsigns '#' (.head _)) (by decide)
    next =>
      dsimp only
      rw [htake, List.take_of_length_le hlength, if_neg (by simpa using hname),
        List.drop_left, semicolonSize, List.head?_cons, if_pos rfl, charsOfName,
        List.take_length_add_append, List.take_succ_cons, List.take_zero, hentity]
  rw [decode_amp hreference, List.drop_length_add_append]
  rfl

/-- A reference by a code of hexadecimal digits is replaced by its character. -/
theorem decode_coded (s : List Char) :
    decode ('&' :: '#' :: 'x' :: '2' :: '7' :: ';' :: s) = '\'' :: decode s := by
  have hreference : reference? ('#' :: 'x' :: '2' :: '7' :: ';' :: s) = some (['\''], 5) := by
    have hdecimal : ('x' :: '2' :: '7' :: ';' :: s).takeWhile Char.isDigit = [] :=
      List.takeWhile_cons_of_neg (by decide)
    have hdigits : ('2' :: '7' :: ';' :: s).takeWhile isHexDigit = ['2', '7'] :=
      takeWhile_append_stop (s := ['2', '7']) (by decide) (by decide) s
    simp only [reference?, hdecimal, hdigits]
    rfl
  rw [decode_amp hreference]
  rfl

theorem decode_encodeChar (c : Char) (s : List Char) :
    decode (encodeChar c ++ s) = c :: decode s := by
  have hnames : entity? ("amp".toList ++ [';']) = some ['&'] ∧
      entity? ("lt".toList ++ [';']) = some ['<'] ∧ entity? ("gt".toList ++ [';']) = some ['>'] ∧
      entity? ("quot".toList ++ [';']) = some ['"'] := by decide +kernel
  obtain ⟨hamp, hlt, hgt, hquot⟩ := hnames
  rcases encodeChar_cases c with ⟨he, rfl⟩ | ⟨he, rfl⟩ | ⟨he, rfl⟩ | ⟨he, rfl⟩ | ⟨he, rfl⟩ |
    ⟨he, hplain⟩ <;> rw [he]
  · exact decode_named (by decide) (by decide) (by decide) hamp s
  · exact decode_named (by decide) (by decide) (by decide) hlt s
  · exact decode_named (by decide) (by decide) (by decide) hgt s
  · exact decode_named (by decide) (by decide) (by decide) hquot s
  · exact decode_coded s
  · rw [List.singleton_append, decode, if_neg]
    rintro rfl
    exact hplain (.head _)

theorem decode_encode (s : List Char) : decode (encode s) = s := by
  induction s with
  | nil => rw [encode, List.flatMap_nil, decode]
  | cons c s ih =>
      rw [encode, List.flatMap_cons, decode_encodeChar]
      exact congrArg _ ih

theorem decodeText_encode (s : List Char) : decodeText (encode s) = .ok s := by
  have hcode : overlongCode? (encode s) = none := by
    induction s with
    | nil => rfl
    | cons c s ih =>
        rw [encode, List.flatMap_cons, overlongCode_encodeChar]
        exact ih
  rw [decodeText, hcode, decode_encode]

end QuestionBank.Markup
