import QuestionBank.Proofs.Markup.Cleaned
import QuestionBank.Proofs.Text.Strip

/-!
# What goes with dropped elements

Both cleanings count the dropped elements that are open, whatever their names, and write
character data only where none is. An end tag may be missing or belong to no element, yet the
count never exceeds the number of elements with content that are open, as long as no `embed` or
`frame` is met. So all data outside of dropped elements are kept up to there.

These two are counted as open too, though they have no content and no end tag. Where every end
tag closes an element of its own name, the count never comes down to zero behind one of them, and
the rest of the text is lost.
-/

namespace QuestionBank.Markup

open QuestionBank.Text

/-! ## Dropped elements -/

/-- The dropped elements that have content. -/
def contentElements : List (List Char) :=
  ["script", "style", "iframe", "object", "frameset"].map String.toList

/-- The dropped elements that have no content and no end tag. -/
def hollowElements : List (List Char) := ["embed", "frame"].map String.toList

theorem mem_activeElements_iff {name : List Char} :
    name ∈ activeElements ↔ name ∈ contentElements ∨ name ∈ hollowElements := by
  have hactive : ∀ name ∈ activeElements, name ∈ contentElements ∨ name ∈ hollowElements := by
    decide
  have hdropped : ∀ name ∈ contentElements ++ hollowElements, name ∈ activeElements := by decide
  rw [← List.mem_append]
  exact ⟨fun h => List.mem_append.mpr (hactive name h), hdropped name⟩

theorem not_mem_hollowElements {name : List Char} (h : name ∈ contentElements) :
    name ∉ hollowElements := by
  have hdisjoint : ∀ name ∈ contentElements, name ∉ hollowElements := by decide
  exact hdisjoint name h

/-- A token is the start tag of an `embed` or `frame`. -/
def Token.isHollow : Token → Bool
  | .openTag name _ => hollowElements.contains name
  | _ => false

/-- The dropped elements with content that are open behind a token, the innermost one first, if
those in `names` are open before it. An end tag closes one of its name. -/
def openBehind (names : List (List Char)) : Token → List (List Char)
  | .openTag name _ => if contentElements.contains name then name :: names else names
  | .endTag name => if contentElements.contains name then names.erase name else names
  | _ => names

/-- The character data of a token; a reference is written in full. -/
def Token.data? : Token → Option (List Char)
  | .text s => some s
  | .named name => some ('&' :: (name ++ [';']))
  | .numbered code => some ('&' :: '#' :: (code ++ [';']))
  | _ => none

/-- The pieces of character data outside of dropped elements, if those in `names` are open
before the first token. -/
def dataOutside (names : List (List Char)) : List Token → List (List Char)
  | [] => []
  | t :: ts =>
    (if names = [] then t.data?.toList else []) ++ dataOutside (openBehind names t) ts

/-- The tokens in front of the first `embed` or `frame`. -/
def front (ts : List Token) : List Token := ts.takeWhile fun t => !t.isHollow

/-- Every end tag of a dropped element closes one of its name. If those in `names` are open
before the first token, each end tag of an element with content meets an open one of its name,
and there is none of an element without content. -/
inductive EndsOwn : List (List Char) → List Token → Prop
  | nil (names : List (List Char)) : EndsOwn names []
  | cons {names : List (List Char)} {t : Token} {ts : List Token}
      (hcontent : ∀ name ∈ contentElements, t = .endTag name → name ∈ names)
      (hhollow : ∀ name ∈ hollowElements, t ≠ .endTag name)
      (hrest : EndsOwn (openBehind names t) ts) : EndsOwn names (t :: ts)

/-- Texts stand in another text one behind the other. -/
inductive Keeps : List (List Char) → List Char → Prop
  | nil (s : List Char) : Keeps [] s
  | cons {piece : List Char} {pieces : List (List Char)} {s : List Char} (before : List Char)
      (h : Keeps pieces s) : Keeps (piece :: pieces) (before ++ (piece ++ s))

theorem Keeps.append_left {pieces : List (List Char)} {s : List Char} (h : Keeps pieces s)
    (before : List Char) : Keeps pieces (before ++ s) := by
  cases h with
  | nil => exact .nil _
  | cons before' h =>
      rw [← List.append_assoc]
      exact .cons _ h

theorem Keeps.append_right {pieces : List (List Char)} {s : List Char} (h : Keeps pieces s)
    (after : List Char) : Keeps pieces (s ++ after) := by
  induction h with
  | nil => exact .nil _
  | cons before _ ih =>
      rw [List.append_assoc, List.append_assoc]
      exact .cons before ih

/-- What is kept has the characters of each text. -/
theorem Keeps.mem {pieces : List (List Char)} {s piece : List Char} (h : Keeps pieces s)
    (hpiece : piece ∈ pieces) {c : Char} (hc : c ∈ piece) : c ∈ s := by
  induction h with
  | nil => cases hpiece
  | cons before _ ih =>
      rw [List.mem_append, List.mem_append]
      rcases List.mem_cons.mp hpiece with rfl | hpiece
      · exact .inr (.inl hc)
      · exact .inr (.inr (ih hpiece))

/-! ## The count -/

/-- The number of dropped elements that a cleaning takes for open behind a token. -/
def depthBehind (depth : Nat) : Token → Nat
  | .openTag name _ => if activeElements.contains name then depth + 1 else depth
  | .endTag name => if activeElements.contains name then depth - 1 else depth
  | _ => depth

variable {names : List (List Char)} {depth k : Nat} {t : Token} {ts : List Token}

/-- The count does not exceed the number of elements that are open, without `embed` and
`frame`. -/
theorem depthBehind_le (h : depth ≤ names.length) (ht : t.isHollow = false) :
    depthBehind depth t ≤ (openBehind names t).length := by
  cases t with
  | openTag name attrs =>
      have hname : name ∉ hollowElements := by simpa [Token.isHollow] using ht
      by_cases hcontent : name ∈ contentElements
      · simpa [depthBehind, openBehind, mem_activeElements_iff, hcontent] using h
      · simpa [depthBehind, openBehind, mem_activeElements_iff, hcontent, hname] using h
  | endTag name =>
      by_cases hcontent : name ∈ contentElements
      · have herase := names.length_erase (a := name)
        have hlength : names.length - 1 ≤ (names.erase name).length := by
          split at herase <;> omega
        simp only [depthBehind, openBehind, hcontent, List.contains_iff_mem,
          mem_activeElements_iff, true_or, if_true]
        omega
      · simp only [depthBehind, openBehind, hcontent, List.contains_iff_mem, if_false]
        split <;> omega
  | text | emptyTag | named | numbered => exact h

/-- Where end tags close elements of their own names, the count does not fall behind the number
of elements that are open, and `embed` and `frame` raise it above that. -/
theorem le_depthBehind (hcontent : ∀ name ∈ contentElements, t = .endTag name → name ∈ names)
    (hhollow : ∀ name ∈ hollowElements, t ≠ .endTag name) (h : names.length + k ≤ depth) :
    (openBehind names t).length + k + (if t.isHollow then 1 else 0) ≤ depthBehind depth t := by
  cases t with
  | openTag name attrs =>
      by_cases hname : name ∈ contentElements
      · simp only [depthBehind, openBehind, Token.isHollow, List.contains_iff_mem,
          mem_activeElements_iff, hname, not_mem_hollowElements hname, true_or, if_true, if_false,
          List.length_cons]
        omega
      · by_cases hhollow : name ∈ hollowElements
        · simp only [depthBehind, openBehind, Token.isHollow, List.contains_iff_mem,
            mem_activeElements_iff, hname, hhollow, or_true, if_true, if_false]
          omega
        · simpa [depthBehind, openBehind, Token.isHollow, mem_activeElements_iff, hname, hhollow]
            using h
  | endTag name =>
      have hnot : name ∉ hollowElements := fun hname => hhollow name hname rfl
      by_cases hname : name ∈ contentElements
      · have hmem := hcontent name hname rfl
        have herase := List.length_erase_of_mem hmem
        have hpos := List.length_pos_of_mem hmem
        simp only [depthBehind, openBehind, Token.isHollow, List.contains_iff_mem,
          mem_activeElements_iff, hname, true_or, if_true, Bool.false_eq_true, if_false]
        omega
      · simpa [depthBehind, openBehind, Token.isHollow, mem_activeElements_iff, hname, hnot]
          using h
  | text | emptyTag | named | numbered => exact h

/-! ## A cleaning as a run -/

section Run

/- What a cleaning writes for a token, if so many dropped elements are open. -/
variable {part : Nat → Token → List Char}

/-- What is written for tokens one after the other. -/
def run (part : Nat → Token → List Char) : Nat → List Token → List Char
  | _, [] => []
  | depth, t :: ts => part depth t ++ run part (depthBehind depth t) ts

/-- All data outside of dropped elements are kept, if there is no `embed` or `frame`. -/
theorem keeps_run (hpart : ∀ t ∈ ts, ∀ s, t.data? = some s → part 0 t = s)
    (hhollow : ∀ t ∈ ts, t.isHollow = false) (h : depth ≤ names.length) :
    Keeps (dataOutside names ts) (run part depth ts) := by
  induction ts generalizing names depth with
  | nil => exact .nil _
  | cons t ts ih =>
      obtain ⟨ht, hts⟩ := List.forall_mem_cons.mp hhollow
      obtain ⟨hdata, hpart⟩ := List.forall_mem_cons.mp hpart
      have hrest := ih hpart hts (depthBehind_le h ht)
      rw [dataOutside, run]
      by_cases hnames : names = []
      · subst hnames
        obtain rfl : depth = 0 := Nat.le_zero.mp h
        cases hs : t.data? with
        | none => exact hrest.append_left _
        | some s =>
            rw [hdata s hs, if_pos rfl]
            exact .cons [] hrest
      · rw [if_neg hnames]
        exact hrest.append_left _

theorem run_front_append (part : Nat → Token → List Char) (depth : Nat) (ts : List Token) :
    ∃ after, run part depth ts = run part depth (front ts) ++ after := by
  induction ts generalizing depth with
  | nil => exact ⟨[], rfl⟩
  | cons t ts ih =>
      rw [front, List.takeWhile_cons]
      split
      · obtain ⟨after, hafter⟩ := ih (depthBehind depth t)
        refine ⟨after, ?_⟩
        rw [run, run, hafter, List.append_assoc]
        rfl
      · exact ⟨_, rfl⟩

/- Inside of dropped elements only blanks are written. -/
variable (hblank : ∀ depth t, ∀ c ∈ part (depth + 1) t, isBlank c = true)

include hblank

/-- Behind an `embed` or `frame` only blanks are written. -/
theorem isBlank_of_mem_run (hown : EndsOwn names ts) (h : names.length + 1 ≤ depth) :
    ∀ c ∈ run part depth ts, isBlank c = true := by
  induction hown generalizing depth with
  | nil => exact List.forall_mem_nil _
  | cons hcontent hhollow _ ih =>
      obtain ⟨depth, rfl⟩ := Nat.exists_eq_add_of_le' (Nat.le_of_add_left_le h)
      rw [run, List.forall_mem_append]
      exact ⟨hblank depth _, ih (Nat.le_of_add_right_le (le_depthBehind hcontent hhollow h))⟩

/-- What is written is what is written in front of the first `embed` or `frame`, and blanks. -/
theorem run_front (hhollow : ∀ t, t.isHollow = true → part 0 t = [])
    (hown : EndsOwn names ts) (h : names.length ≤ depth) :
    ∃ blanks, run part depth ts = run part depth (front ts) ++ blanks ∧
      ∀ c ∈ blanks, isBlank c = true := by
  induction hown generalizing depth with
  | nil => exact ⟨[], rfl, List.forall_mem_nil _⟩
  | @cons names t ts hcontent hend hrest ih =>
      have hdepth := le_depthBehind (k := 0) hcontent hend h
      rw [front, List.takeWhile_cons]
      cases ht : t.isHollow with
      | false =>
          obtain ⟨blanks, hrun, hblanks⟩ := ih (Nat.le_of_add_right_le hdepth)
          refine ⟨blanks, ?_, hblanks⟩
          rw [run, hrun, ← List.append_assoc]
          rfl
      | true =>
          rw [ht, if_pos rfl] at hdepth
          refine ⟨run part depth (t :: ts), rfl, ?_⟩
          rw [run, List.forall_mem_append]
          constructor
          · cases depth with
            | zero =>
                rw [hhollow t ht]
                exact List.forall_mem_nil _
            | succ depth => exact hblank depth t
          · exact isBlank_of_mem_run hblank hrest hdepth

end Run

/-! ## References -/

/-- A token is a reference. -/
def Token.isReference : Token → Bool
  | .named _ | .numbered _ => true
  | _ => false

theorem not_isReference_of_construct {s : List Char} {size : Nat}
    (h : construct s = .token t size) : t.isReference = false := by
  rcases construct_eq_token h with ⟨c, r, -, -, hstart⟩ | ⟨r, -, hend⟩ | ⟨rfl, -⟩
  · rcases startConstruct_eq_token hstart with ⟨_, _, _, closesItself, -, -, rfl⟩ | ⟨_, _, -, rfl⟩
    · cases closesItself <;> rfl
    · rfl
  · obtain ⟨name, n, -, -, rfl, -⟩ := endConstruct_eq_token hend
    rfl
  · rfl

/-- A reader that decodes reports no references. -/
theorem not_isReference_of_mem_scan {final : Bool} {raw : Option (List Char)} {s : List Char}
    (h : t ∈ (scan true final raw s).tokens) : t.isReference = false := by
  cases reported_of_mem_scan h with
  | text s => rfl
  | bracket hread => exact not_isReference_of_construct hread
  | reference hdecoding => cases hdecoding
  | rawEnd => rfl

/-! ## Both cleanings -/

/-- What plain text has of a token. -/
def plainPart (depth : Nat) : Token → List Char
  | .text s => if depth = 0 then s else []
  | .openTag name _ | .endTag name =>
    if activeElements.contains name then [] else if blockElements.contains name then [' '] else []
  | .emptyTag name _ => if blockElements.contains name then [' ', ' '] else []
  | .named _ | .numbered _ => []

/-- What rich text has of a token. -/
def richPart (depth : Nat) (t : Token) : List Char :=
  if depth = 0 then
    match t with
    | .openTag name attrs =>
      if activeElements.contains name then [] else '<' :: (tagChars name attrs ++ ['>'])
    | .emptyTag name attrs =>
      if activeElements.contains name then []
      else '<' :: (tagChars name attrs ++ [' ', '/', '>'])
    | .endTag name =>
      if activeElements.contains name || voidElements.contains name then []
      else '<' :: '/' :: (name ++ ['>'])
    | t => t.data?.getD []
  else []

theorem visibleText_eq_run (depth : Nat) (ts : List Token) :
    visibleText depth ts = run plainPart depth ts := by
  induction ts generalizing depth with
  | nil => rfl
  | cons t ts ih =>
      cases t with
      | openTag | endTag =>
          simp only [visibleText, run, plainPart, depthBehind, ih]
          split_ifs <;> rfl
      | emptyTag =>
          simp only [visibleText, run, plainPart, depthBehind, ih]
          split <;> rfl
      | text | named | numbered =>
          rw [visibleText, ih]
          rfl

theorem safeMarkup_eq_run (depth : Nat) (ts : List Token) :
    safeMarkup depth ts = run richPart depth ts := by
  induction ts generalizing depth with
  | nil => rfl
  | cons t ts ih =>
      cases t with
      | openTag | emptyTag | endTag =>
          simp only [safeMarkup, run, richPart, depthBehind, ih]
          split_ifs <;> simp_all
      | text | named | numbered =>
          rw [safeMarkup, ih]
          rfl

theorem plainPart_data {s : List Char} (href : t.isReference = false) (h : t.data? = some s) :
    plainPart 0 t = s := by
  cases t with
  | text s => exact Option.some.inj h
  | named | numbered => cases href
  | openTag | emptyTag | endTag => cases h

theorem plainPart_hollow (h : t.isHollow = true) (depth : Nat) : plainPart depth t = [] := by
  cases t with
  | openTag name attrs =>
      have hname : name ∈ hollowElements := List.contains_iff_mem.mp h
      simp [plainPart, mem_activeElements_iff, hname]
  | text | emptyTag | endTag | named | numbered => cases h

/-- Inside of dropped elements plain text has only the blanks that part words. -/
theorem isBlank_of_mem_plainPart {c : Char} (h : c ∈ plainPart (depth + 1) t) :
    isBlank c = true := by
  have hspace {n : Nat} (hc : c ∈ List.replicate n ' ') : isBlank c = true := by
    rw [List.eq_of_mem_replicate hc]
    decide
  cases t with
  | text | named | numbered => cases h
  | openTag | endTag =>
      simp only [plainPart] at h
      split_ifs at h
      · cases h
      · exact hspace (n := 1) h
      · cases h
  | emptyTag =>
      simp only [plainPart] at h
      split at h
      · exact hspace (n := 2) h
      · cases h

theorem richPart_data {s : List Char} (h : t.data? = some s) : richPart 0 t = s := by
  cases t with
  | text | named | numbered => exact Option.some.inj h
  | openTag | emptyTag | endTag => cases h

theorem richPart_hollow (h : t.isHollow = true) : richPart 0 t = [] := by
  cases t with
  | openTag name attrs =>
      have hname : name ∈ hollowElements := List.contains_iff_mem.mp h
      simp [richPart, mem_activeElements_iff, hname]
  | text | emptyTag | endTag | named | numbered => cases h

/-! ## Blanks at the end -/

theorem strip_concat_blank {c : Char} (hc : isBlank c = true) (s : List Char) :
    strip (String.ofList (s ++ [c])) = strip (String.ofList s) := by
  have hend : stripEnd (stripStart (s ++ [c])) = stripEnd (stripStart s) := by
    rw [stripStart, List.dropWhile_append]
    split
    next hall =>
      rw [List.dropWhile_cons_of_pos hc, List.dropWhile_nil, stripStart, List.isEmpty_iff.mp hall]
    next => exact stripEnd_append_blank _ hc
  rw [strip, strip, String.toList_ofList, String.toList_ofList, hend]

/-- What does not change with a blank at the end does not change with several ones. -/
theorem append_blanks {finish : List Char → String}
    (hfinish : ∀ c s, isBlank c = true → finish (s ++ [c]) = finish s) {blanks : List Char}
    (h : ∀ c ∈ blanks, isBlank c = true) (s : List Char) : finish (s ++ blanks) = finish s := by
  induction blanks generalizing s with
  | nil => rw [List.append_nil]
  | cons c blanks ih =>
      obtain ⟨hc, hblanks⟩ := List.forall_mem_cons.mp h
      rw [List.append_cons, ih hblanks, hfinish c s hc]

/-! ## Text behind an `embed` or `frame` -/

/-- What a cleaning that is finished by `finish` makes of tokens: all data outside of dropped
elements that stand in front of the first `embed` or `frame` are kept, and where end tags close
elements of their own names, nothing else is. -/
structure KeepsFront (clean : List Token → List Char) (finish : List Char → String)
    (ts : List Token) (result : String) : Prop where
  kept : ∃ out, result = finish out ∧ Keeps (dataOutside [] (front ts)) out
  lost : EndsOwn [] ts → result = finish (clean (front ts))

theorem keepsFront_run {part : Nat → Token → List Char} (finish : List Char → String)
    (hpart : ∀ t ∈ ts, ∀ s, t.data? = some s → part 0 t = s)
    (hhollow : ∀ t, t.isHollow = true → part 0 t = [])
    (hblank : ∀ depth t, ∀ c ∈ part (depth + 1) t, isBlank c = true)
    (hfinish : ∀ c s, isBlank c = true → finish (s ++ [c]) = finish s) :
    KeepsFront (run part 0) finish ts (finish (run part 0 ts)) := by
  constructor
  · obtain ⟨after, hafter⟩ := run_front_append part 0 ts
    refine ⟨run part 0 ts, rfl, ?_⟩
    rw [hafter]
    apply Keeps.append_right
    apply keeps_run
    · exact fun t ht => hpart t ((List.takeWhile_sublist _).subset ht)
    · intro t ht
      simpa using List.mem_takeWhile_imp ht
    · exact Nat.le_refl 0
  · intro hown
    obtain ⟨blanks, hrun, hblanks⟩ := run_front hblank hhollow hown (Nat.le_refl 0)
    rw [hrun, append_blanks hfinish hblanks]

/-- **Text behind an `embed` or `frame` is lost.** Both cleanings keep, in order, all data outside
of dropped elements in front of the first of these tags, so all there are in a text without them.
Where each end tag of a dropped element closes one of its own name, and the two have none, all
that stands behind the first of them is lost. -/
theorem clean_keepsFront (s : String) :
    (∀ ts, tokens true s.toList = .ok ts → ∃ result, toPlain s = .ok result ∧
      KeepsFront (visibleText 0) (fun out => squeeze (String.ofList out)) ts result) ∧
    (∀ ts, tokens false s.toList = .ok ts → ∃ result, toRich s = .ok result ∧
      KeepsFront (safeMarkup 0) (fun out => strip (String.ofList out)) ts result) := by
  constructor
  · intro ts hts
    refine ⟨squeeze (String.ofList (visibleText 0 ts)), by rw [toPlain, hts]; rfl, ?_⟩
    have hclean : visibleText 0 = run plainPart 0 := funext (visibleText_eq_run 0)
    rw [hclean]
    apply keepsFront_run fun out => squeeze (String.ofList out)
    · intro t ht d hd
      exact plainPart_data (not_isReference_of_mem_scan (mem_report hts ht)) hd
    · exact fun t ht => plainPart_hollow ht 0
    · exact fun depth t c hc => isBlank_of_mem_plainPart hc
    · exact fun c out hc => squeeze_concat_blank hc out
  · intro ts hts
    refine ⟨strip (String.ofList (safeMarkup 0 ts)), by rw [toRich, hts]; rfl, ?_⟩
    have hclean : safeMarkup 0 = run richPart 0 := funext (safeMarkup_eq_run 0)
    rw [hclean]
    apply keepsFront_run fun out => strip (String.ofList out)
    · exact fun t _ d hd => richPart_data hd
    · exact fun t ht => richPart_hollow ht
    · exact fun depth t c hc => by cases hc
    · exact fun c out hc => strip_concat_blank hc out

/-- The tokens of a paragraph with a style, and of a player with words behind it. -/
def playerTokens : List Token :=
  [.openTag ['p'] [], .text "One ".toList, .openTag "style".toList [], .text "p\x7b\x7d".toList,
    .endTag "style".toList, .text "two".toList, .endTag ['p'],
    .openTag "embed".toList [⟨"src".toList, some ['a']⟩], .text "three".toList]

theorem endsOwn_player : EndsOwn [] playerTokens := by
  refine .cons (by decide) (by decide) (.cons (by decide) (by decide) ?_)
  refine .cons (by decide) (by decide) (.cons (by decide) (by decide) ?_)
  refine .cons (by decide) (by decide) (.cons (by decide) (by decide) ?_)
  refine .cons (by decide) (by decide) (.cons (by decide) (by decide) ?_)
  exact .cons (by decide) (by decide) (.nil _)

/-- The paragraph loses its style only, and the words behind the player are lost. -/
theorem clean_keepsFront_player :
    ∃ plain rich,
      toPlain "<p>One <style>p\x7b\x7d</style>two</p><embed src=a>three" = .ok plain ∧
      toRich "<p>One <style>p\x7b\x7d</style>two</p><embed src=a>three" = .ok rich ∧
      (∃ out, plain = squeeze (String.ofList out) ∧ Keeps ["One ".toList, "two".toList] out) ∧
      (∃ out, rich = strip (String.ofList out) ∧ Keeps ["One ".toList, "two".toList] out) ∧
      plain = "One two" ∧ rich = "<p>One two</p>" := by
  have hplain : tokens true "<p>One <style>p\x7b\x7d</style>two</p><embed src=a>three".toList =
      .ok playerTokens := by decide +kernel
  have hrich : tokens false "<p>One <style>p\x7b\x7d</style>two</p><embed src=a>three".toList =
      .ok playerTokens := by decide +kernel
  obtain ⟨plain, hcleaned, hfront⟩ := (clean_keepsFront _).1 _ hplain
  obtain ⟨rich, hcleaned', hfront'⟩ := (clean_keepsFront _).2 _ hrich
  refine ⟨plain, rich, hcleaned, hcleaned', hfront.kept, hfront'.kept, ?_, ?_⟩
  · rw [hfront.lost endsOwn_player]
    decide +kernel
  · rw [hfront'.lost endsOwn_player]
    decide +kernel

/-- A question behind a player is lost, though each element is closed. -/
theorem not_forall_data_kept :
    ¬ ∀ s ts, tokens false s.toList = .ok ts → EndsOwn [] ts → ts.foldl openBehind [] = [] →
      ∃ out, toRich s = .ok (strip (String.ofList out)) ∧ Keeps (dataOutside [] ts) out := by
  intro h
  have hts : tokens false "<embed src=a.swf>Question text".toList =
      .ok [.openTag "embed".toList [⟨"src".toList, some "a.swf".toList⟩],
        .text "Question text".toList] := by decide +kernel
  have hcleaned : toRich "<embed src=a.swf>Question text" = .ok "" := by decide +kernel
  obtain ⟨out, hout, hkeeps⟩ := h _ _ hts
    (.cons (by decide) (by decide) (.cons (by decide) (by decide) (.nil _))) (by decide)
  rw [hcleaned, Except.ok.injEq] at hout
  have hmem : 'Q' ∈ (String.ofList out).toList := by
    rw [String.toList_ofList]
    exact hkeeps.mem (.head _) (.head _)
  have hleft := mem_strip hmem (by decide)
  rw [← hout] at hleft
  cases hleft

end QuestionBank.Markup
