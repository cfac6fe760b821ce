import QuestionBank.Proofs.Cloze.Shielded
import QuestionBank.Proofs.Number.Decimal
import QuestionBank.Proofs.Text.TakeWhile
import QuestionBank.Proofs.Traversal

/-!
# Blocks that are read back

A block is well formed if its weight has digits only, its kind has signs of kind
tags only, and its options are shielded from the closing brace. A reader at the
beginning of a well-formed block finds just this block, whatever follows it; the
blocks that the encoder writes are well formed, and each of their options is
decoded to the text and feedback that it was made of.
-/

namespace QuestionBank.Cloze

open QuestionBank.Scoring QuestionBank.Text QuestionBank.Number

/-! ## Reading a well-formed block -/

/-- The parts of a block are where a reader looks for them. -/
structure RawBlock.WellFormed (b : RawBlock) : Prop where
  weight_ne_nil : b.weight ≠ []
  weight_decimal : ∀ c ∈ b.weight, isDecimal c = true
  kind_ne_nil : b.kind ≠ []
  kind_tag : ∀ c ∈ b.kind, isTagChar c = true
  body : Shielded (· == '\x7d') b.body

theorem blockStart?_append {digits : List Char} (hne : digits ≠ [])
    (h : ∀ c ∈ digits, isDecimal c = true) (t : List Char) :
    blockStart? ('\x7b' :: (digits ++ ':' :: t)) = some digits := by
  have htake : (digits ++ ':' :: t).takeWhile isDecimal = digits :=
    Text.takeWhile_append_stop h (by decide) t
  simp [blockStart?, htake, hne]

/-- A reader of options passes over a shielded text. -/
theorem blockBody?_append {s : List Char} (hs : Shielded (· == '\x7d') s) (t : List Char) :
    blockBody? (s ++ t) = (blockBody? t).map (s ++ ·) := by
  induction hs with
  | nil => simp
  | literal hc _ ih =>
      simp only [List.cons_append, blockBody?, if_neg hc, ih, Option.map_map]
      rfl
  | @plain c r hb hc _ ih =>
      have hc' : c ≠ '\x7d' := by simpa using hc
      rw [List.cons_append, blockBody?, ih, Option.map_map]
      · rfl
      · exact hc'
      · exact fun _ _ h => absurd h hb
      · exact fun h => absurd h hb

theorem blockBody?_closed {s : List Char} (hs : Shielded (· == '\x7d') s) (t : List Char) :
    blockBody? (s ++ '\x7d' :: t) = some s := by
  rw [blockBody?_append hs, blockBody?]
  simp

namespace RawBlock

variable {b : RawBlock}

theorem text_append (b : RawBlock) (t : List Char) :
    b.text ++ t =
      '\x7b' :: (b.weight ++ ':' :: (b.kind ++ ':' :: (b.body ++ '\x7d' :: t))) := by
  simp [RawBlock.text]

theorem WellFormed.blockStart? (hb : b.WellFormed) (t : List Char) :
    blockStart? (b.text ++ t) = some b.weight := by
  rw [text_append]
  exact blockStart?_append hb.weight_ne_nil hb.weight_decimal _

theorem WellFormed.rawBlock? (hb : b.WellFormed) (t : List Char) :
    rawBlock? b.weight (b.text ++ t) = some b := by
  have hdrop : (b.text ++ t).drop (b.weight.length + 2) =
      b.kind ++ ':' :: (b.body ++ '\x7d' :: t) := by
    have hsplit : b.text ++ t =
        ('\x7b' :: b.weight ++ [':']) ++ (b.kind ++ ':' :: (b.body ++ '\x7d' :: t)) := by
      simp [text_append]
    rw [hsplit, List.drop_left' (by simp)]
  have htake : (b.kind ++ ':' :: (b.body ++ '\x7d' :: t)).takeWhile isTagChar = b.kind :=
    Text.takeWhile_append_stop hb.kind_tag (by decide) _
  simp [Cloze.rawBlock?, hdrop, htake, hb.kind_ne_nil, blockBody?_closed hb.body]

end RawBlock

/-- **A block becomes a numbered place.** A well-formed block is decoded to a question, or
refused, and the scan goes on behind the block. -/
theorem extractFrom_block {b : RawBlock} (hb : b.WellFormed) (pos position : Nat)
    (t : List Char) :
    extractFrom pos position (b.text ++ t) =
      (decodeBlock position b).bind fun sub =>
        (extractFrom (pos + b.text.length) (position + 1) t).map
          fun (text, subs) => (placeholder position ++ text, sub :: subs) := by
  obtain ⟨r, hr⟩ : ∃ r, b.text = '\x7b' :: r := ⟨_, rfl⟩
  have hstart := hb.blockStart? t
  have hraw := hb.rawBlock? t
  rw [hr, List.cons_append] at hstart hraw
  rw [hr, List.cons_append, extractFrom, hstart]
  simp only [hraw, hr, List.length_cons, Nat.add_sub_cancel, List.drop_left]
  rw [Nat.add_right_comm, Nat.add_assoc]
  cases decodeBlock position b <;> rfl

end QuestionBank.Cloze
