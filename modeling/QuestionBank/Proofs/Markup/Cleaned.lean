import QuestionBank.Proofs.Markup.Construct
import Mathlib.Data.List.DropRight

/-!
# What is cleaned, piece by piece

Each token keeps some pieces: a text its characters, a tag at most itself. A tag that is
kept has names in order and is no active content, so active content can only come from
how the pieces are read when they stand side by side.
-/

namespace QuestionBank.Markup

open QuestionBank.Text

/-- A token that is no active content: neither the tag of an active element nor a tag with
an attribute that runs a script. -/
def Token.Inert : Token → Prop
  | .openTag name attrs => name ∉ activeElements ∧ ∀ a ∈ attrs, isSafe a = true
  | .emptyTag name attrs => name ∉ activeElements ∧ ∀ a ∈ attrs, isSafe a = true
  | _ => True

instance : DecidablePred Token.Inert := fun t => by
  cases t <;> unfold Token.Inert <;> infer_instance

/-! ## Kept pieces -/

namespace Piece

/-- A piece that is no active content if it is read as it is meant. -/
def Inert : Piece → Prop
  | tag name attrs _ => name ∉ activeElements ∧ ∀ a ∈ attrs, isSafe a = true
  | _ => True

/-- Tells whether a piece is a blank. -/
def isBlank : Piece → Bool
  | char c => Text.isBlank c
  | _ => false

end Piece

/-- The pieces of a text. -/
def textPieces (s : List Char) : List Piece := s.map .char

/-- The pieces that are kept of tokens; `depth` counts the dropped elements that are open. -/
def keptPieces (depth : Nat) : List Token → List Piece
  | [] => []
  | .text s :: r => (if depth = 0 then textPieces s else []) ++ keptPieces depth r
  | .openTag name attrs :: r =>
    if activeElements.contains name then keptPieces (depth + 1) r
    else (if depth = 0 then [.tag name (attrs.filter isSafe) false] else []) ++ keptPieces depth r
  | .emptyTag name attrs :: r =>
    (if depth = 0 && !activeElements.contains name then [.tag name (attrs.filter isSafe) true]
      else []) ++ keptPieces depth r
  | .endTag name :: r =>
    if activeElements.contains name then keptPieces (depth - 1) r
    else
      (if depth = 0 && !voidElements.contains name then [.endTag name] else []) ++
        keptPieces depth r
  | .named name :: r =>
    (if depth = 0 then textPieces ('&' :: (name ++ [';'])) else []) ++ keptPieces depth r
  | .numbered code :: r =>
    (if depth = 0 then textPieces ('&' :: '#' :: (code ++ [';'])) else []) ++ keptPieces depth r

/-- Pieces without blanks at both ends. -/
def stripPieces (ps : List Piece) : List Piece :=
  (ps.dropWhile Piece.isBlank).rdropWhile Piece.isBlank

/-- The pieces of what is cleaned, from the tokens of a text. -/
def cleanedPieces (ts : List Token) : List Piece := stripPieces (keptPieces 0 ts)

theorem render_append (ps qs : List Piece) : render (ps ++ qs) = render ps ++ render qs :=
  List.flatMap_append

theorem render_textPieces (s : List Char) : render (textPieces s) = s := by
  induction s with
  | nil => rfl
  | cons c s ih => exact congrArg (c :: ·) ih

theorem render_ite (c : Prop) [Decidable c] (ps qs : List Piece) :
    render (if c then ps else qs) = if c then render ps else render qs := apply_ite render c ps qs

theorem render_tag (name : List Char) (attrs : List Attribute) (closesItself : Bool) :
    render [.tag name (attrs.filter isSafe) closesItself] =
      '<' :: (tagChars name attrs ++ closing closesItself) := by
  simp [render, Piece.chars, written, tagChars]

theorem render_endTag (name : List Char) :
    render [.endTag name] = '<' :: '/' :: (name ++ ['>']) := by
  simp [render, Piece.chars]

theorem render_keptPieces (depth : Nat) (ts : List Token) :
    render (keptPieces depth ts) = safeMarkup depth ts := by
  induction ts generalizing depth with
  | nil => rfl
  | cons t ts ih =>
      cases t with
      | text s =>
          rw [keptPieces, safeMarkup, render_append, render_ite, render_textPieces, ih]
          rfl
      | openTag name attrs =>
          rw [keptPieces, safeMarkup, render_ite, render_append, render_ite, render_tag, ih, ih]
          rfl
      | emptyTag name attrs =>
          rw [keptPieces, safeMarkup, render_append, render_ite, render_tag, ih]
          rfl
      | endTag name =>
          rw [keptPieces, safeMarkup, render_ite, render_append, render_ite, render_endTag, ih, ih]
          rfl
      | named name =>
          rw [keptPieces, safeMarkup, render_append, render_ite, render_textPieces, ih]
          rfl
      | numbered code =>
          rw [keptPieces, safeMarkup, render_append, render_ite, render_textPieces, ih]
          rfl

/-! ## Stripped pieces -/

theorem dropWhile_render (ps : List Piece) :
    (render ps).dropWhile isBlank = render (ps.dropWhile Piece.isBlank) := by
  induction ps with
  | nil => rfl
  | cons p ps ih =>
      cases p with
      | char c =>
          show (c :: render ps).dropWhile isBlank = _
          rw [List.dropWhile_cons, List.dropWhile_cons, ih]
          show _ = render (if isBlank c = true then _ else _)
          rw [render_ite]
          rfl
      | tag name attrs closesItself => rfl
      | endTag name => rfl

theorem chars_eq_concat (p : Piece) : (∃ c, p = .char c) ∨ ∃ s, p.chars = s ++ ['>'] := by
  cases p with
  | char c => exact .inl ⟨c, rfl⟩
  | tag name attrs closesItself =>
      right
      cases closesItself with
      | true =>
          refine ⟨'<' :: (name ++ written attrs [' ', '/']), ?_⟩
          simp [Piece.chars, closing, written]
      | false =>
          refine ⟨'<' :: (name ++ written attrs []), ?_⟩
          simp [Piece.chars, closing, written]
  | endTag name => exact .inr ⟨'<' :: '/' :: name, rfl⟩

theorem rdropWhile_render (ps : List Piece) :
    (render ps).rdropWhile isBlank = render (ps.rdropWhile Piece.isBlank) := by
  induction ps using List.reverseRecOn with
  | nil => rfl
  | append_singleton ps p ih =>
      by_cases hp : p.isBlank = true
      · obtain ⟨c, rfl⟩ : ∃ c, p = .char c := by
          cases p with
          | char c => exact ⟨c, rfl⟩
          | tag name attrs closesItself => cases hp
          | endTag name => cases hp
        rw [List.rdropWhile_concat_pos _ _ _ hp, render_append, ← ih]
        exact List.rdropWhile_concat_pos _ _ _ hp
      · rw [List.rdropWhile_concat_neg _ _ _ hp, render_append]
        rcases chars_eq_concat p with ⟨c, rfl⟩ | ⟨s, hs⟩
        · exact List.rdropWhile_concat_neg _ _ _ hp
        · have hlast : render [p] = s ++ ['>'] := by simp [render, hs]
          rw [hlast, ← List.append_assoc]
          exact List.rdropWhile_concat_neg _ _ _ (by decide)

/-- A text is stripped piece by piece. -/
theorem render_stripPieces (ps : List Piece) :
    render (stripPieces ps) = stripEnd (stripStart (render ps)) := by
  rw [stripPieces, ← rdropWhile_render, ← dropWhile_render]
  rfl

/-- What is cleaned is made of the kept pieces. -/
theorem toRich_eq {s : String} {ts : List Token} (hts : tokens false s.toList = .ok ts) :
    toRich s = .ok (String.ofList (render (cleanedPieces ts))) := by
  rw [toRich, hts, cleanedPieces, render_stripPieces, render_keptPieces]
  simp [Except.map, strip]

/-! ## Kept tags -/

theorem kept_tag {name : List Char} {attrs : List Attribute} {closesItself : Bool}
    (hname : TagName name) (hattrs : ∀ a ∈ attrs, AttributeName a.name)
    (hactive : activeElements.contains name = false) :
    (Piece.tag name (attrs.filter isSafe) closesItself).Regular ∧
      (Piece.tag name (attrs.filter isSafe) closesItself).Inert := by
  refine ⟨⟨hname, fun a ha => hattrs a (List.mem_filter.mp ha).1⟩, ?_, fun a ha => ?_⟩
  · exact fun hmem => Bool.eq_false_iff.mp hactive (List.contains_iff_mem.mpr hmem)
  · exact (List.mem_filter.mp ha).2

/-- Every kept tag has names in order and is no active content. -/
theorem kept_of_mem {depth : Nat} {ts : List Token} (hts : ∀ t ∈ ts, t.Regular) {p : Piece}
    (hp : p ∈ keptPieces depth ts) : p.Regular ∧ p.Inert := by
  induction ts generalizing depth with
  | nil => cases hp
  | cons t ts ih =>
      have ih {depth : Nat} (h : p ∈ keptPieces depth ts) : p.Regular ∧ p.Inert :=
        ih (fun t ht => hts t (.tail _ ht)) h
      have ht := hts t (.head _)
      have htext {s : List Char} (h : p ∈ if depth = 0 then textPieces s else []) :
          p.Regular ∧ p.Inert := by
        split at h
        · obtain ⟨c, -, rfl⟩ := List.mem_map.mp h
          exact ⟨trivial, trivial⟩
        · cases h
      cases t with
      | text s => exact (List.mem_append.mp hp).elim htext ih
      | openTag name attrs =>
          rw [keptPieces] at hp
          split at hp
          · exact ih hp
          next hname =>
            rcases List.mem_append.mp hp with h | h
            · split at h
              · rw [List.mem_singleton.mp h]
                exact kept_tag ht.1 ht.2 (Bool.eq_false_iff.mpr hname)
              · cases h
            · exact ih h
      | emptyTag name attrs =>
          rcases List.mem_append.mp hp with h | h
          · split at h
            next hname =>
              rw [Bool.and_eq_true, Bool.not_eq_true'] at hname
              rw [List.mem_singleton.mp h]
              exact kept_tag ht.1 ht.2 hname.2
            next => cases h
          · exact ih h
      | endTag name =>
          rw [keptPieces] at hp
          split at hp
          · exact ih hp
          · rcases List.mem_append.mp hp with h | h
            · split at h
              · rw [List.mem_singleton.mp h]
                exact ⟨ht, trivial⟩
              · cases h
            · exact ih h
      | named name => exact (List.mem_append.mp hp).elim htext ih
      | numbered code => exact (List.mem_append.mp hp).elim htext ih

theorem mem_of_mem_stripPieces {ps : List Piece} {p : Piece} (h : p ∈ stripPieces ps) : p ∈ ps :=
  (List.dropWhile_sublist _).subset ((List.rdropWhile_prefix _ _).subset h)

theorem mem_report {decoding : Bool} {s : List Char} {ts : List Token}
    (hts : tokens decoding s = .ok ts) {t : Token} (ht : t ∈ ts) :
    t ∈ (scan decoding false none s).tokens := by
  rw [tokens, Report.whole, report] at hts
  split at hts
  · cases hts
  · cases hts
    exact ht

/-- Every piece of what is cleaned has names in order and is no active content. -/
theorem kept_of_tokens {s : List Char} {ts : List Token} (hts : tokens false s = .ok ts) :
    ∀ p ∈ cleanedPieces ts, p.Regular ∧ p.Inert := by
  have hregular : ∀ t ∈ ts, t.Regular := fun t ht =>
    regular_of_mem_scan (fun _ h => by cases h) (mem_report hts ht)
  exact fun p hp => kept_of_mem hregular (mem_of_mem_stripPieces hp)

end QuestionBank.Markup
