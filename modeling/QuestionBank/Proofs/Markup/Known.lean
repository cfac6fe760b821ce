import QuestionBank.Markup.Entity
import QuestionBank.Proofs.Text.Lower

/-!
# Names of known references

A known reference has a name of two to 32 characters, which begins with a letter and holds
letters, digits and a semicolon only. So no other sign ever belongs to a reference by name.
-/

namespace QuestionBank.Markup

open QuestionBank.Text

/-! ## Names by their bytes -/

/-- Tells whether a number is that of a letter, a digit or a semicolon. -/
def isKnownCode (n : Nat) : Bool :=
  (Nat.ble 48 n && Nat.ble n 57) || (Nat.ble 65 n && Nat.ble n 90) ||
    (Nat.ble 97 n && Nat.ble n 122) || Nat.beq n 59

/-- The characters of known names. -/
def isKnownSign (c : Char) : Bool := isKnownCode c.toNat

/-- Tells by its bytes whether a name is in order. -/
def isOrderly (name : String) : Bool :=
  let bytes := name.toByteArray.data.toList
  Nat.ble 2 bytes.length && Nat.ble bytes.length 32 && bytes.all fun b => isKnownCode b.toNat

/-- The names of the table are in order. They are checked by their bytes, which is much faster
than by their characters. -/
theorem isOrderly_of_mem {c : Char} {entry : String × String} (h : entry ∈ entitiesFrom c) :
    isOrderly entry.1 = true := by
  by_cases hc : c.toNat < 0x80
  · have hall : ∀ n < 0x80, (entitiesFrom (Char.ofNat n)).all (fun e => isOrderly e.1) = true := by
      decide +kernel
    have hnames := of_ascii (P := fun c => (entitiesFrom c).all (fun e => isOrderly e.1) = true)
      hall hc
    exact List.all_eq_true.mp hnames entry h
  · unfold entitiesFrom at h
    split at h <;> first | exact absurd (by decide) hc | cases h

theorem isKnownCode_le {n : Nat} (h : isKnownCode n = true) : n ≤ 122 := by
  simp only [isKnownCode, Bool.or_eq_true, Bool.and_eq_true, Nat.ble_eq, Nat.beq_eq] at h
  omega

/-- A character all of whose bytes are in order is one byte. -/
theorem utf8EncodeChar_of_known {c : Char}
    (h : ∀ b ∈ String.utf8EncodeChar c, isKnownCode b.toNat = true) :
    isKnownSign c = true ∧ (String.utf8EncodeChar c).length = 1 := by
  have hlast (n : Nat) : (UInt8.ofNat (n % 64 + 128)).toNat = n % 64 + 128 := by
    rw [UInt8.toNat_ofNat']
    omega
  have hnone (n : Nat) : isKnownCode (UInt8.ofNat (n % 64 + 128)).toNat ≠ true := by
    intro hknown
    have hle := isKnownCode_le hknown
    rw [hlast] at hle
    omega
  unfold String.utf8EncodeChar at h ⊢
  dsimp only at h ⊢
  split at h
  next hsmall =>
    rw [if_pos hsmall]
    have hbyte := h _ (.head _)
    rw [UInt8.toNat_ofNat', Nat.mod_eq_of_lt (by omega)] at hbyte
    exact ⟨hbyte, rfl⟩
  · split at h
    · exact absurd (h _ (.tail _ (.head _))) (hnone _)
    · split at h
      · exact absurd (h _ (.tail _ (.tail _ (.head _)))) (hnone _)
      · exact absurd (h _ (.tail _ (.tail _ (.tail _ (.head _))))) (hnone _)

theorem known_of_isOrderly {name : List Char} (h : isOrderly (String.ofList name) = true) :
    2 ≤ name.length ∧ name.length ≤ 32 ∧ ∀ c ∈ name, isKnownSign c = true := by
  have hbytes : (String.ofList name).toByteArray.data.toList =
      name.flatMap String.utf8EncodeChar := by
    simp [String.ofList, List.utf8Encode]
  simp only [isOrderly, hbytes, Bool.and_eq_true, Nat.ble_eq, List.all_eq_true] at h
  obtain ⟨⟨hlong, hshort⟩, hall⟩ := h
  have hchars : ∀ c ∈ name, isKnownSign c = true ∧ (String.utf8EncodeChar c).length = 1 := by
    intro c hc
    exact utf8EncodeChar_of_known fun b hb => hall b (List.mem_flatMap.mpr ⟨c, hc, hb⟩)
  have hlength : (name.flatMap String.utf8EncodeChar).length = name.length := by
    rw [List.length_flatMap, List.map_congr_left fun c hc => (hchars c hc).2, List.map_const',
      List.sum_replicate_nat, Nat.mul_one]
  rw [hlength] at hlong hshort
  exact ⟨hlong, hshort, fun c hc => (hchars c hc).1⟩

/-! ## Known names -/

theorem isAlpha_of_entitiesFrom {c : Char} (h : entitiesFrom c ≠ []) : c.isAlpha = true := by
  unfold entitiesFrom at h
  split at h <;> first | rfl | exact absurd rfl h

/-- A known name begins with a letter and is in order. -/
theorem known_of_entity {name text : List Char} (h : entity? name = some text) :
    (∃ c r, name = c :: r ∧ c.isAlpha = true) ∧ 2 ≤ name.length ∧ name.length ≤ 32 ∧
      ∀ c ∈ name, isKnownSign c = true := by
  cases name with
  | nil => cases h
  | cons c r =>
      obtain ⟨entry, hentry, -⟩ := Option.map_eq_some_iff.mp h
      have hmem : (String.ofList (c :: r), entry) ∈ entitiesFrom c := by
        obtain ⟨before, after, hsplit, -⟩ := List.lookup_eq_some_iff.mp hentry
        rw [hsplit]
        simp
      refine ⟨⟨c, r, rfl, isAlpha_of_entitiesFrom (List.ne_nil_of_mem hmem)⟩, ?_⟩
      exact known_of_isOrderly (isOrderly_of_mem hmem)

end QuestionBank.Markup
