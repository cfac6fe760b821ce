import QuestionBank.Condition.Reader
import QuestionBank.Proofs.Condition.Word
import QuestionBank.Proofs.Number.Plain
import QuestionBank.Proofs.Text.TakeWhile
import QuestionBank.Proofs.Traversal

/-!
# Tokens tile a condition

A condition is cut into tokens in turns: blanks are passed over, and the lexeme behind them is
cut off. Each turn ends behind the place where it began, so there are no more turns than
characters. The tokens stand in the text one after the other, each written as its lexeme is, with
nothing but blanks around them; and if the text cannot be cut at some place, that is the first
place behind the last token that has no blank.
-/

namespace QuestionBank.Condition

open QuestionBank.Text

/-! ## How lexemes are written -/

/-- The characters that a lexeme is written with: a literal stands between quotes and holds none,
or is a plain number; an operator or a keyword may be in any letter case. -/
inductive Lexeme.WrittenAs : Lexeme → List Char → Prop
  | quoted {value : List Char} (h : '"' ∉ value) :
      WrittenAs (.literal (String.ofList value)) ('"' :: (value ++ ['"']))
  | number {value : List Char} (h : Number.IsPlain value) :
      WrittenAs (.literal (String.ofList value)) value
  | operator {op : Operator} {word : List Char} (h : word.map Char.toUpper = op.text.toList) :
      WrittenAs (.operator op) word
  | keyword {w : Keyword} {word : List Char} (h : word.map Char.toUpper = w.text.toList) :
      WrittenAs (.keyword w) word

/-- A text that holds a quote goes on with a quote where it holds one first. -/
theorem exists_closing {s : List Char} (h : '"' ∈ s) :
    ∃ rest, s.dropWhile (· != '"') = '"' :: rest := by
  cases hdrop : s.dropWhile (· != '"') with
  | nil =>
      rw [List.dropWhile_eq_nil_iff] at hdrop
      simpa using hdrop '"' h
  | cons d rest =>
      obtain rfl : d = '"' := by simpa using not_of_dropWhile hdrop
      exact ⟨rest, rfl⟩

theorem Lexeme.writtenAs_of_text {l : Lexeme} {word : List Char} (hl : ∀ value, l ≠ .literal value)
    (h : word.map Char.toUpper = l.text.toList) : l.WrittenAs word := by
  cases l with
  | literal value => exact absurd rfl (hl value)
  | operator op => exact .operator h
  | keyword w => exact .keyword h

theorem wordLexeme?_text {word : String} {l : Lexeme} (h : wordLexeme? word = some l) :
    (∀ value, l ≠ .literal value) ∧ l.text = word := by
  unfold wordLexeme? at h
  split_ifs at h <;>
  · cases h
    exact ⟨nofun, Eq.symm ‹_›⟩

/-- A lexeme is cut off as it is written, and a plain number as a whole: no digit follows it. -/
theorem lexeme_eq_ok {pos : Nat} {c : Char} {r : List Char} {l : Lexeme} {n : Nat}
    (h : lexeme pos c r = .ok (l, n)) :
    ∃ taken rest, r = taken ++ rest ∧ n = taken.length ∧ l.WrittenAs (c :: taken) ∧
      (∀ value, l = .literal value → c ≠ '"' → Number.NoDigitAhead rest) := by
  unfold lexeme at h
  dsimp only at h
  split at h
  next hquote =>
    cases h
    rw [Bool.and_eq_true, decide_eq_true_eq, List.contains_iff_mem] at hquote
    obtain ⟨rfl, hclosed⟩ := hquote
    have hbody : '"' ∉ r.takeWhile (· != '"') := fun hmem => by
      simpa using List.mem_takeWhile_imp hmem
    obtain ⟨rest, hrest⟩ := exists_closing hclosed
    refine ⟨r.takeWhile (· != '"') ++ ['"'], rest, ?_, by simp, .quoted hbody,
      fun _ _ hne => absurd rfl hne⟩
    rw [List.append_assoc, List.singleton_append, ← hrest, List.takeWhile_append_dropWhile]
  next =>
    split at h
    next number hnumber =>
      cases h
      obtain ⟨hplain, rest, hsplit, hahead⟩ := Number.plainNumber?_eq_some hnumber
      obtain ⟨d, taken, rfl⟩ := List.exists_cons_of_ne_nil hplain.ne_nil
      obtain ⟨rfl, rfl⟩ := List.cons.inj hsplit
      exact ⟨taken, rest, rfl, rfl, .number hplain, fun _ _ _ => hahead⟩
    next =>
      have hne (op : Operator) (v : String) : Lexeme.operator op ≠ .literal v := by simp
      split_ifs at h with habove hequal hbelow hequal' heq hword
      · obtain ⟨rest, rfl⟩ := List.head?_eq_some_iff.mp hequal
        cases h
        exact ⟨['='], rest, rfl, rfl, .operator (habove ▸ rfl), fun v hl => absurd hl (hne _ v)⟩
      · cases h
        exact ⟨[], r, rfl, rfl, .operator (habove ▸ rfl), fun v hl => absurd hl (hne _ v)⟩
      · obtain ⟨rest, rfl⟩ := List.head?_eq_some_iff.mp hequal'
        cases h
        exact ⟨['='], rest, rfl, rfl, .operator (hbelow ▸ rfl), fun v hl => absurd hl (hne _ v)⟩
      · cases h
        exact ⟨[], r, rfl, rfl, .operator (hbelow ▸ rfl), fun v hl => absurd hl (hne _ v)⟩
      · cases h
        exact ⟨[], r, rfl, rfl, .operator (heq ▸ rfl), fun v hl => absurd hl (hne _ v)⟩
      · split at h
        next hknown =>
          cases h
          obtain ⟨hliteral, htext⟩ := wordLexeme?_text hknown
          refine ⟨r.takeWhile isWordChar, r.dropWhile isWordChar,
            List.takeWhile_append_dropWhile.symm, rfl, ?_,
            fun value hl => absurd hl (hliteral value)⟩
          apply Lexeme.writtenAs_of_text hliteral
          rw [htext, String.toList_ofList]
        next => cases h

/-- What a fault says of a place of a text that cannot be cut there: it names the place, and the
character or the word that stands there. -/
inductive Fault.PointsAt (s : List Char) (pos : Nat) : Fault → Prop
  | character {c : Char} (h : s[pos]? = some c) : PointsAt s pos (.unexpectedCharacter c pos)
  | word {word : String} (hne : word ≠ "") (h : word.toList <+: s.drop pos) :
      PointsAt s pos (.unexpectedWord word pos)

theorem getElem?_of_drop {s r : List Char} {c : Char} {pos : Nat} (h : s.drop pos = c :: r) :
    s[pos]? = some c := by
  rw [← Nat.add_zero pos, ← List.getElem?_drop, h]
  rfl

theorem lexeme_eq_error {s r : List Char} {c : Char} {pos : Nat} {fault : Fault}
    (hs : s.drop pos = c :: r) (h : lexeme pos c r = .error fault) : fault.PointsAt s pos := by
  unfold lexeme at h
  dsimp only at h
  split at h
  · cases h
  · split at h
    · cases h
    · split_ifs at h
      · split at h
        next => cases h
        next =>
          cases h
          refine .word ?_ ?_
          · simp [String.ext_iff]
          · rw [hs, String.toList_ofList, List.cons_prefix_cons]
            exact ⟨rfl, List.takeWhile_prefix _⟩
      · cases h
        exact .character (getElem?_of_drop hs)

theorem Lexeme.WrittenAs.ne_nil {l : Lexeme} {slice : List Char} (h : l.WrittenAs slice) :
    slice ≠ [] := by
  rintro rfl
  cases h with
  | number hplain => exact hplain.ne_nil rfl
  | @operator op _ hword => cases op <;> exact absurd hword (by decide)
  | @keyword w _ hword => cases w <;> exact absurd hword (by decide)

/-! ## Tokens in a text -/

/-- The number of characters that a token takes in a text. A literal that begins with a quote
takes two quotes more than its value. -/
def Token.width (s : List Char) (t : Token) : Nat :=
  match t.lexeme with
  | .literal value => value.toList.length + if s[t.pos]? = some '"' then 2 else 0
  | l => l.text.toList.length

/-- The place behind a token. -/
def Token.stop (s : List Char) (t : Token) : Nat := t.pos + t.width s

/-- The characters of a token. -/
def Token.slice (s : List Char) (t : Token) : List Char := (s.drop t.pos).take (t.width s)

/-- A token is as wide as its lexeme is written. -/
theorem Token.width_eq {s slice rest : List Char} {t : Token} (hs : s.drop t.pos = slice ++ rest)
    (h : t.lexeme.WrittenAs slice) : t.width s = slice.length := by
  obtain ⟨l, pos⟩ := t
  cases h with
  | quoted hvalue =>
      simp [width, getElem?_of_drop (s := s) hs]
  | number hplain =>
      obtain ⟨c, r, rfl⟩ := List.exists_cons_of_ne_nil hplain.ne_nil
      have hquote : c ≠ '"' := by
        rintro rfl
        exact absurd hplain.head (by decide)
      simp [width, getElem?_of_drop (s := s) hs, hquote]
  | operator hword => simp [width, Lexeme.text, ← hword]
  | keyword hword => simp [width, Lexeme.text, ← hword]

section

variable {s slice rest : List Char} {t : Token} (hs : s.drop t.pos = slice ++ rest)
  (h : t.lexeme.WrittenAs slice)
include hs h

theorem Token.slice_eq : t.slice s = slice := by
  rw [Token.slice, Token.width_eq hs h, hs, List.take_left]

theorem Token.drop_stop : s.drop (t.stop s) = rest := by
  rw [Token.stop, Token.width_eq hs h, ← List.drop_drop, hs, List.drop_left]

theorem Token.stop_le_length : t.stop s ≤ s.length := by
  have hlength := congrArg List.length hs
  rw [List.length_drop, List.length_append] at hlength
  have hpos : 0 < slice.length := List.length_pos_iff.mpr h.ne_nil
  rw [Token.stop, Token.width_eq hs h]
  omega

end

/-! ## Turns -/

/-- The place behind the blanks that stand at a place. -/
def visible (s : List Char) (pos : Nat) : Nat := pos + ((s.drop pos).takeWhile isBlank).length

/-- One turn at a place of a text: blanks are passed over, and a token is cut off with the place
of the next turn. There is no turn if nothing but blanks is left. -/
def turn (s : List Char) (pos : Nat) : Option (Except Fault (Token × Nat)) :=
  let start := visible s pos
  match s.drop start with
  | [] => none
  | c :: r => some ((lexeme start c r).map fun (l, n) => (⟨l, start⟩, start + 1 + n))

/-- Turns one after the other, with the tokens that are cut off. -/
inductive Turns (s : List Char) : Nat → List Token → Nat → Prop
  | done (pos : Nat) : Turns s pos [] pos
  | turn {pos next last : Nat} {t : Token} {ts : List Token}
      (ht : turn s pos = some (.ok (t, next))) (hts : Turns s next ts last) :
      Turns s pos (t :: ts) last

/-- Nothing but blanks stands between two places. -/
def BlankBetween (s : List Char) (start stop : Nat) : Prop :=
  ∀ i c, start ≤ i → i < stop → s[i]? = some c → isBlank c = true

/-- The first character from a place on that is no blank. -/
structure FirstVisible (s : List Char) (start place : Nat) : Prop where
  start_le : start ≤ place
  blank : BlankBetween s start place
  visible : ∃ c, s[place]? = some c ∧ isBlank c = false

theorem drop_visible (s : List Char) (pos : Nat) :
    s.drop (visible s pos) = (s.drop pos).dropWhile isBlank := by
  rw [visible, ← List.drop_drop, drop_length_takeWhile]

theorem blankBetween_visible (s : List Char) (pos : Nat) :
    BlankBetween s pos (visible s pos) := by
  intro i c hpos hi hc
  obtain ⟨k, rfl⟩ := Nat.exists_eq_add_of_le hpos
  have hk : k < ((s.drop pos).takeWhile isBlank).length := by
    unfold visible at hi
    omega
  rw [← List.getElem?_drop, ← List.takeWhile_append_dropWhile (p := isBlank) (l := s.drop pos),
    List.getElem?_append_left hk] at hc
  exact List.mem_takeWhile_imp (List.mem_of_getElem? hc)

theorem firstVisible_of_drop {s r : List Char} {c : Char} {pos : Nat}
    (h : s.drop (visible s pos) = c :: r) : FirstVisible s pos (visible s pos) where
  start_le := Nat.le_add_right _ _
  blank := blankBetween_visible s pos
  visible := by
    refine ⟨c, getElem?_of_drop h, ?_⟩
    rw [drop_visible] at h
    exact not_of_dropWhile h

/-- Blanks give no tokens. -/
theorem tokensFrom_visible (s : List Char) (pos : Nat) :
    tokensFrom pos (s.drop pos) = tokensFrom (visible s pos) (s.drop (visible s pos)) := by
  have hblank : ∀ c ∈ (s.drop pos).takeWhile isBlank, isBlank c = true :=
    fun c hc => List.mem_takeWhile_imp hc
  rw [drop_visible, visible, ← tokensFrom_append_blank hblank, List.takeWhile_append_dropWhile]

/-- No turn is left behind the last token. -/
theorem turn_eq_none {s : List Char} {pos : Nat} (h : turn s pos = none) :
    tokensFrom pos (s.drop pos) = .ok [] ∧ BlankBetween s pos s.length := by
  have hnil : s.drop (visible s pos) = [] := by
    unfold turn at h
    dsimp only at h
    split at h
    · assumption
    · cases h
  constructor
  · rw [tokensFrom_visible, hnil, tokensFrom_nil]
  · intro i c hpos hi hc
    have hlast : s.length ≤ visible s pos := List.drop_eq_nil_iff.mp hnil
    exact blankBetween_visible s pos i c hpos (hi.trans_le hlast) hc

/-- A turn begins at the first character that is no blank. -/
theorem turn_eq_some {s : List Char} {pos : Nat} {result : Except Fault (Token × Nat)}
    (h : turn s pos = some result) :
    ∃ c r, s.drop (visible s pos) = c :: r ∧ isBlank c = false ∧
      FirstVisible s pos (visible s pos) ∧
      (lexeme (visible s pos) c r).map
        (fun (l, n) => (⟨l, visible s pos⟩, visible s pos + 1 + n)) = result := by
  unfold turn at h
  dsimp only at h
  split at h
  next => cases h
  next c r hs =>
    have hfirst := firstVisible_of_drop hs
    obtain ⟨d, hd, hblank⟩ := hfirst.visible
    cases (getElem?_of_drop hs).symm.trans hd
    exact ⟨c, r, hs, hblank, hfirst, Option.some.inj h⟩

/-- A turn that fails stops the tokenizer at the first character that is no blank. -/
theorem turn_eq_error {s : List Char} {pos : Nat} {fault : Fault}
    (h : turn s pos = some (.error fault)) :
    tokensFrom pos (s.drop pos) = .error fault ∧
      ∃ place, FirstVisible s pos place ∧ fault.PointsAt s place := by
  obtain ⟨c, r, hs, hblank, hfirst, he⟩ := turn_eq_some h
  have hlexeme := Traversal.map_eq_error_iff.mp he
  refine ⟨?_, visible s pos, hfirst, lexeme_eq_error hs hlexeme⟩
  rw [tokensFrom_visible, hs, tokensFrom_error (by simp [hblank]) hlexeme]

/-- A turn cuts off a token that stands at the first character that is no blank, and goes on
behind it. -/
theorem turn_eq_ok {s : List Char} {pos next : Nat} {t : Token}
    (h : turn s pos = some (.ok (t, next))) :
    tokensFrom pos (s.drop pos) = (tokensFrom next (s.drop next)).map (t :: ·) ∧
      FirstVisible s pos t.pos ∧ t.lexeme.WrittenAs (t.slice s) ∧
      t.pos < next ∧ next = t.stop s ∧ next ≤ s.length := by
  obtain ⟨c, r, hs, hblank, hfirst, he⟩ := turn_eq_some h
  obtain ⟨⟨l, n⟩, hlexeme, he⟩ := Traversal.map_eq_ok_iff.mp he
  obtain ⟨rfl, rfl⟩ := Prod.mk.inj he
  obtain ⟨taken, rest, rfl, rfl, hwritten, -⟩ := lexeme_eq_ok hlexeme
  let t : Token := ⟨l, visible s pos⟩
  have hslice : s.drop t.pos = (c :: taken) ++ rest := hs
  have hnext : t.pos + 1 + taken.length = t.stop s := by
    rw [Token.stop, Token.width_eq hslice hwritten, List.length_cons]
    omega
  refine ⟨?_, hfirst, ?_, ?_, hnext, ?_⟩
  · rw [tokensFrom_visible, hs, tokensFrom_cons (by simp [hblank]) hlexeme, List.drop_left]
    change _ = (tokensFrom _ (s.drop (t.pos + 1 + taken.length))).map _
    rw [hnext, Token.drop_stop hslice hwritten, ← hnext]
  · rwa [Token.slice_eq hslice hwritten]
  · exact Nat.lt_add_right _ (Nat.lt_succ_self _)
  · exact hnext ▸ Token.stop_le_length hslice hwritten

/-! ## Runs -/

theorem map_append_cons {x : Except Fault (List Token)} (t : Token) (ts : List Token) :
    (x.map (ts ++ ·)).map (t :: ·) = x.map (t :: ts ++ ·) := by
  cases x <;> rfl

/-- The tokens of a text are those of the turns that were taken, and then those of what is left. -/
theorem Turns.tokensFrom {s : List Char} {pos last : Nat} {ts : List Token}
    (h : Turns s pos ts last) :
    tokensFrom pos (s.drop pos) = (tokensFrom last (s.drop last)).map (ts ++ ·) := by
  induction h with
  | done pos => cases Condition.tokensFrom pos (s.drop pos) <;> rfl
  | turn ht _ ih =>
      obtain ⟨hread, -⟩ := turn_eq_ok ht
      rw [hread, ih, map_append_cons]

/-- The tokens stand between two places one after the other, each written as its lexeme is, with
nothing but blanks around them. -/
structure Tiles (s : List Char) (start : Nat) (ts : List Token) (stop : Nat) : Prop where
  written : ∀ t ∈ ts, t.lexeme.WrittenAs (t.slice s)
  ordered : ts.Pairwise fun t u => t.stop s ≤ u.pos
  within : ∀ t ∈ ts, start ≤ t.pos ∧ t.pos < t.stop s ∧ t.stop s ≤ stop
  blank : ∀ i c, start ≤ i → i < stop → s[i]? = some c →
    (∀ t ∈ ts, i < t.pos ∨ t.stop s ≤ i) → isBlank c = true

variable {s : List Char} {start stop : Nat} {ts : List Token}

/-- Blanks behind the last token may be added. -/
theorem Tiles.extend (h : Tiles s start ts stop) {stop' : Nat} (hle : stop ≤ stop')
    (hblank : BlankBetween s stop stop') : Tiles s start ts stop' where
  written := h.written
  ordered := h.ordered
  within := fun t ht => by
    obtain ⟨hstart, hwidth, hstop⟩ := h.within t ht
    exact ⟨hstart, hwidth, hstop.trans hle⟩
  blank := fun i c hi hstop hc hout => by
    by_cases hmid : i < stop
    · exact h.blank i c hi hmid hc hout
    · exact hblank i c (Nat.le_of_not_lt hmid) hstop hc

/-- A token in front, with nothing but blanks before it. -/
theorem Tiles.cons {t : Token} (hwritten : t.lexeme.WrittenAs (t.slice s))
    (hfirst : FirstVisible s start t.pos) (hwidth : t.pos < t.stop s)
    (h : Tiles s (t.stop s) ts stop) (hle : t.stop s ≤ stop) : Tiles s start (t :: ts) stop where
  written := List.forall_mem_cons.mpr ⟨hwritten, h.written⟩
  ordered := List.pairwise_cons.mpr ⟨fun u hu => (h.within u hu).1, h.ordered⟩
  within := by
    refine List.forall_mem_cons.mpr ⟨⟨hfirst.start_le, hwidth, hle⟩, fun u hu => ?_⟩
    obtain ⟨hstart, hrest⟩ := h.within u hu
    exact ⟨(hfirst.start_le.trans hwidth.le).trans hstart, hrest⟩
  blank := fun i c hi hstop hc hout => by
    obtain ⟨hbefore | hbehind, hothers⟩ := List.forall_mem_cons.mp hout
    · exact hfirst.blank i c hi hbefore hc
    · exact h.blank i c hbehind hstop hc hothers

/-- The turns that were taken tile the text as far as they went. -/
theorem Turns.tiles {pos last : Nat} (h : Turns s pos ts last) :
    pos ≤ last ∧ Tiles s pos ts last := by
  induction h with
  | done pos =>
      refine ⟨le_rfl, List.forall_mem_nil _, .nil, List.forall_mem_nil _, ?_⟩
      intro i c hpos hi
      exact absurd hpos (Nat.not_le_of_lt hi)
  | turn ht _ ih =>
      obtain ⟨-, hfirst, hwritten, hwidth, rfl, -⟩ := turn_eq_ok ht
      obtain ⟨hle, htiles⟩ := ih
      exact ⟨(hfirst.start_le.trans hwidth.le).trans hle, .cons hwritten hfirst hwidth htiles hle⟩

/-- Turns do not lead out of the text. -/
theorem Turns.last_le {pos last : Nat} (h : Turns s pos ts last) (hpos : pos ≤ s.length) :
    last ≤ s.length := by
  induction h with
  | done pos => exact hpos
  | turn ht _ ih =>
      obtain ⟨-, -, -, -, -, hlength⟩ := turn_eq_ok ht
      exact ih hlength

/-- The place behind the last token, or that of the first turn. -/
def behind (s : List Char) (pos : Nat) (ts : List Token) : Nat :=
  (ts.getLast?.map (Token.stop s)).getD pos

/-- The next turn begins behind the last token. -/
theorem Turns.last_eq {pos last : Nat} (h : Turns s pos ts last) : last = behind s pos ts := by
  induction h with
  | done pos => rfl
  | @turn pos next last t ts ht _ ih =>
      obtain ⟨-, -, -, -, rfl, -⟩ := turn_eq_ok ht
      rw [ih, behind, behind, List.getLast?_cons]
      cases ts.getLast? <;> rfl

/-- Turns end in a place where there is none, or where one fails. Each moves on, so there are no
more of them than characters. -/
theorem exists_turns (s : List Char) {pos : Nat} (hpos : pos ≤ s.length) :
    ∃ ts last, Turns s pos ts last ∧ ts.length ≤ s.length - pos ∧
      (turn s last = none ∨ ∃ fault, turn s last = some (.error fault)) := by
  induction hk : s.length - pos using Nat.strong_induction_on generalizing pos with
  | h k ih =>
      cases hturn : turn s pos with
      | none => exact ⟨[], pos, .done pos, Nat.zero_le _, .inl hturn⟩
      | some r =>
          match r, hturn with
          | .error fault, hturn =>
              exact ⟨[], pos, .done pos, Nat.zero_le _, .inr ⟨fault, hturn⟩⟩
          | .ok (t, next), hturn =>
              obtain ⟨-, hfirst, -, hnext, -, hlength⟩ := turn_eq_ok hturn
              have hstart := hfirst.start_le
              obtain ⟨ts, last, hts, hcount, hend⟩ :=
                ih (s.length - next) (by omega) hlength rfl
              refine ⟨t :: ts, last, .turn hturn hts, ?_, hend⟩
              rw [List.length_cons]
              omega

/-- A text is cut into what the turns give. They end in a place where there is none, or where one
fails. -/
theorem tokenize_turns (text : String) :
    ∃ ts, Turns text.toList 0 ts (behind text.toList 0 ts) ∧ ts.length ≤ text.toList.length ∧
      ((turn text.toList (behind text.toList 0 ts) = none ∧ tokenize text = .ok ts) ∨
        ∃ fault, turn text.toList (behind text.toList 0 ts) = some (.error fault) ∧
          tokenize text = .error fault) := by
  obtain ⟨ts, last, hturns, hcount, hend⟩ := exists_turns text.toList (Nat.zero_le _)
  obtain rfl := hturns.last_eq
  have hread : tokenize text = (tokensFrom _ (text.toList.drop _)).map (ts ++ ·) :=
    hturns.tokensFrom
  refine ⟨ts, hturns, hcount, ?_⟩
  rcases hend with hnone | ⟨fault, hfault⟩
  · obtain ⟨hrest, -⟩ := turn_eq_none hnone
    exact .inl ⟨hnone, by rw [hread, hrest, Except.map, List.append_nil]⟩
  · obtain ⟨hrest, -⟩ := turn_eq_error hfault
    exact .inr ⟨fault, hfault, by rw [hread, hrest, Except.map]⟩

/-- **Tokens tile a condition.** The tokens of a text stand in it one after the other, each written
as its lexeme is, with nothing but blanks around them. A text that cannot be cut into tokens is a
failure that carries it, with a fault that points at the first character behind the last token
that is no blank. Each turn ends behind the place where it began; so the turns come to an end, and
give what the text is cut into. -/
theorem tokens_tile (text : String) (outcome question : Option String) :
    (∀ ts, tokenize text = .ok ts → Tiles text.toList 0 ts text.toList.length) ∧
    (∀ fault, tokenize text = .error fault →
      (∃ ts place, Turns text.toList 0 ts (behind text.toList 0 ts) ∧
        Tiles text.toList 0 ts (behind text.toList 0 ts) ∧
        FirstVisible text.toList (behind text.toList 0 ts) place ∧
        fault.PointsAt text.toList place) ∧
      read text outcome question = .error ⟨.condition fault text outcome, question⟩) ∧
    (∀ pos t next, turn text.toList pos = some (.ok (t, next)) →
      pos ≤ t.pos ∧ t.pos < next ∧ next ≤ text.toList.length) ∧
    ∃ ts, Turns text.toList 0 ts (behind text.toList 0 ts) ∧ ts.length ≤ text.toList.length ∧
      ((turn text.toList (behind text.toList 0 ts) = none ∧ tokenize text = .ok ts) ∨
        ∃ fault, turn text.toList (behind text.toList 0 ts) = some (.error fault) ∧
          tokenize text = .error fault) := by
  obtain ⟨ts, hturns, hcount, hend⟩ := tokenize_turns text
  obtain ⟨-, htiles⟩ := hturns.tiles
  refine ⟨?_, ?_, ?_, ts, hturns, hcount, hend⟩
  · intro us hus
    rcases hend with ⟨hnone, hok⟩ | ⟨fault, -, herror⟩
    · cases hok.symm.trans hus
      obtain ⟨-, hblank⟩ := turn_eq_none hnone
      exact htiles.extend (hturns.last_le (Nat.zero_le _)) hblank
    · cases herror.symm.trans hus
  · intro fault hfault
    refine ⟨?_, by rw [read, parse, hfault]⟩
    rcases hend with ⟨-, hok⟩ | ⟨fault', hturn, herror⟩
    · cases hok.symm.trans hfault
    · cases herror.symm.trans hfault
      obtain ⟨-, place, hplace, hpoints⟩ := turn_eq_error hturn
      exact ⟨ts, place, hturns, htiles, hplace, hpoints⟩
  · intro pos t next hturn
    obtain ⟨-, hfirst, -, hnext, -, hlength⟩ := turn_eq_ok hturn
    exact ⟨hfirst.start_le, hnext, hlength⟩

/-- Signs without blanks between them, a number with a sign and a point, and a quote that is never
closed. -/
theorem tokens_tile_unclosed :
    tokenize " not\"a b\">=-1.5 " = .ok [⟨.keyword .not, 1⟩, ⟨.literal "a b", 4⟩,
      ⟨.operator .atLeast, 9⟩, ⟨.literal "-1.5", 11⟩] ∧
    Tiles " not\"a b\">=-1.5 ".toList 0 [⟨.keyword .not, 1⟩, ⟨.literal "a b", 4⟩,
      ⟨.operator .atLeast, 9⟩, ⟨.literal "-1.5", 11⟩] 16 ∧
    tokenize "7 = \"7" = .error (.unexpectedCharacter '"' 4) ∧
    (∃ ts place, Turns "7 = \"7".toList 0 ts (behind "7 = \"7".toList 0 ts) ∧
      Tiles "7 = \"7".toList 0 ts (behind "7 = \"7".toList 0 ts) ∧
      FirstVisible "7 = \"7".toList (behind "7 = \"7".toList 0 ts) place ∧
      (Fault.unexpectedCharacter '"' 4).PointsAt "7 = \"7".toList place) ∧
    turn "7 = \"7".toList 1 = some (.ok (⟨.operator .equal, 2⟩, 3)) ∧ 2 < 3 := by
  have hcut : tokenize " not\"a b\">=-1.5 " = .ok [⟨.keyword .not, 1⟩, ⟨.literal "a b", 4⟩,
      ⟨.operator .atLeast, 9⟩, ⟨.literal "-1.5", 11⟩] := by decide +kernel
  have hfault : tokenize "7 = \"7" = .error (.unexpectedCharacter '"' 4) := by decide +kernel
  have hturn : turn "7 = \"7".toList 1 = some (.ok (⟨.operator .equal, 2⟩, 3)) := by
    decide +kernel
  obtain ⟨htiles, -⟩ := tokens_tile " not\"a b\">=-1.5 " none none
  obtain ⟨-, hpoints, hmoves, -⟩ := tokens_tile "7 = \"7" none none
  exact ⟨hcut, htiles _ hcut, hfault, (hpoints _ hfault).1, hturn, (hmoves _ _ _ hturn).2.1⟩

end QuestionBank.Condition
