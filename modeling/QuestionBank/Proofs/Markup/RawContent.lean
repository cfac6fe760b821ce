import QuestionBank.Proofs.Markup.Steady
import QuestionBank.Proofs.Number.Signs
import QuestionBank.Text.Case

/-!
# Content of scripts and styles

The content of a script or style is character data up to the first end tag of its name, in any
letter case and with blanks around the name. Nothing else ends it: no other tag, quote, comment
or reference, and no end tag that is not complete. So neither cleaning keeps anything of it, and
both go on with what stands behind the end tag.
-/

namespace QuestionBank.Markup

open QuestionBank.Text

/-! ## End tags in raw content -/

/-- The end tag of an element: its name in any letter case, with blanks around it. -/
inductive IsEndTag (name : List Char) : List Char → Prop where
  | mk {before found after : List Char} (hbefore : ∀ c ∈ before, isBlank c = true)
      (hfound : found.map Char.toLower = name.map Char.toLower)
      (hafter : ∀ c ∈ after, isBlank c = true) :
      IsEndTag name ('<' :: '/' :: (before ++ (found ++ (after ++ ['>']))))

/-- The end tag of an element stands somewhere in a text. -/
def HasEndTag (name s : List Char) : Prop := ∃ tag, IsEndTag name tag ∧ tag <:+: s

variable {name s r tag : List Char} {n : Nat}

/-- What is taken for the end of a tag is blanks and a closing bracket. -/
theorem take_bracketSize (h : bracketSize? s = some n) :
    ∃ blanks, s.take n = blanks ++ ['>'] ∧ ∀ c ∈ blanks, isBlank c = true := by
  unfold bracketSize? at h
  dsimp only at h
  split at h
  next hhead =>
    obtain rfl := Option.some.inj h
    obtain ⟨r, hr⟩ := List.head?_eq_some_iff.mp hhead
    refine ⟨s.takeWhile isBlank, ?_, fun c hc => List.mem_takeWhile_imp hc⟩
    have hs : s.takeWhile isBlank ++ '>' :: r = s := by
      rw [← hr, drop_length_takeWhile, List.takeWhile_append_dropWhile]
    calc s.take ((s.takeWhile isBlank).length + 1)
        = (s.takeWhile isBlank ++ '>' :: r).take ((s.takeWhile isBlank).length + 1) := by rw [hs]
      _ = s.takeWhile isBlank ++ ['>'] := by rw [List.take_length_add_append]; rfl
  next => cases h

theorem bracketSize_blanks {blanks : List Char} (h : ∀ c ∈ blanks, isBlank c = true)
    (r : List Char) : bracketSize? (blanks ++ '>' :: r) = some (blanks.length + 1) := by
  have hrun : (blanks ++ '>' :: r).takeWhile isBlank = blanks :=
    takeWhile_append_stop h (by decide) r
  simp [bracketSize?, hrun]

/-- What is taken for an end tag is one. -/
theorem isEndTag_of_rawEnd (h : rawEnd? (name.map Char.toLower) s = some n) :
    IsEndTag name (s.take n) := by
  unfold rawEnd? at h
  split at h
  next r =>
    dsimp only at h
    split at h
    next hfound =>
      obtain ⟨m, hm, rfl⟩ := Option.map_eq_some_iff.mp h
      obtain ⟨after, hend, hafter⟩ := take_bracketSize hm
      rw [List.length_map] at hfound hend ⊢
      have hsize : m + ((r.takeWhile isBlank).length + name.length + 2) =
          (r.takeWhile isBlank).length + (name.length + m) + 1 + 1 := by omega
      rw [hsize, List.take_succ_cons, List.take_succ_cons, List.take_add, List.take_add,
        List.drop_drop, hend]
      have hbefore : r.take (r.takeWhile isBlank).length = r.takeWhile isBlank :=
        (List.prefix_iff_eq_take.mp (List.takeWhile_prefix isBlank)).symm
      rw [hbefore]
      exact .mk (fun c hc => List.mem_takeWhile_imp hc) hfound hafter
    next => cases h
  next => cases h

/-! ## The name of an element with raw content -/

/-- The name of a script or style, in any letter case. -/
def IsRawName (name : List Char) : Prop := name.map Char.toLower ∈ rawElements

theorem isBlank_of_isAlpha {c : Char} (h : c.isAlpha = true) : isBlank c = false :=
  of_ascii (P := fun c => c.isAlpha = true → isBlank c = false) (by decide +kernel)
    (toNat_of_isAlpha h).2 h

/-- The name is a word of letters. -/
theorem IsRawName.letters (h : IsRawName name) : name ≠ [] ∧ ∀ c ∈ name, c.isAlpha = true := by
  have hraw : ∀ w ∈ rawElements, w ≠ [] ∧ ∀ c ∈ w, c.isAlpha = true := by decide
  obtain ⟨hne, hletters⟩ := hraw _ h
  refine ⟨fun hnil => hne (by rw [hnil]; rfl), fun c hc => ?_⟩
  exact Number.isAlpha_of_toLower (hletters _ (List.mem_map_of_mem hc))

/-- The name of an end tag is a word of letters as well. -/
theorem IsRawName.of_map_toLower {found : List Char} (h : IsRawName name)
    (hfound : found.map Char.toLower = name.map Char.toLower) : IsRawName found := by
  unfold IsRawName
  rw [hfound]
  exact h

/-- An end tag is taken for one, whatever comes behind it. -/
theorem IsEndTag.rawEnd (h : IsEndTag name tag) (hname : IsRawName name) (r : List Char) :
    rawEnd? (name.map Char.toLower) (tag ++ r) = some tag.length := by
  obtain @⟨before, found, after, hbefore, hfound, hafter⟩ := h
  obtain ⟨hne, hletters⟩ := (hname.of_map_toLower hfound).letters
  obtain ⟨c, word, rfl⟩ := List.exists_cons_of_ne_nil hne
  have hsize : (name.map Char.toLower).length = (c :: word).length := by
    rw [← hfound, List.length_map]
  have htag : '<' :: '/' :: (before ++ ((c :: word) ++ (after ++ ['>']))) ++ r =
      '<' :: '/' :: (before ++ c :: (word ++ (after ++ '>' :: r))) := by simp
  have hrun : (before ++ c :: (word ++ (after ++ '>' :: r))).takeWhile isBlank = before :=
    takeWhile_append_stop hbefore (isBlank_of_isAlpha (hletters c (.head _))) _
  have htake : (c :: (word ++ (after ++ '>' :: r))).take (c :: word).length = c :: word :=
    List.take_left
  have hrest : (before ++ c :: (word ++ (after ++ '>' :: r))).drop
      (before.length + (c :: word).length) = after ++ '>' :: r := by
    rw [List.drop_length_add_append]
    exact List.drop_left
  rw [htag, rawEnd?]
  simp only [hrun, hsize, List.drop_left, htake, hfound, if_true, hrest,
    bracketSize_blanks hafter, Option.map_some]
  simp only [List.length_cons, List.length_append, List.length_nil]
  congr 1
  omega

/-- An end tag has one opening bracket, which it begins with. -/
theorem IsEndTag.eq_cons (h : IsEndTag name tag) (hname : IsRawName name) :
    ∃ body, tag = '<' :: body ∧ '<' ∉ body := by
  obtain @⟨before, found, after, hbefore, hfound, hafter⟩ := h
  refine ⟨_, rfl, ?_⟩
  have hblank : isBlank '<' ≠ true := by decide
  have hletter : '<'.isAlpha ≠ true := by decide
  simp only [List.mem_cons, List.mem_append, List.not_mem_nil, or_false]
  rintro (heq | hmem | hmem | hmem | heq)
  · exact absurd heq (by decide)
  · exact hblank (hbefore _ hmem)
  · exact hletter ((hname.of_map_toLower hfound).letters.2 _ hmem)
  · exact hblank (hafter _ hmem)
  · exact absurd heq (by decide)

/-- **Raw content goes up to its end tag.** If no end tag stands in it, the first one that is
found is the one behind it. -/
theorem search_rawEnd (hname : IsRawName name) (htag : IsEndTag name tag)
    (hs : ¬ HasEndTag name s) (r : List Char) :
    search (rawEnd? (name.map Char.toLower)) (s ++ (tag ++ r)) = some (s.length, tag.length) := by
  obtain ⟨body, rfl, -⟩ := htag.eq_cons hname
  induction s with
  | nil =>
      have hfound := htag.rawEnd hname r
      rw [List.cons_append] at hfound
      rw [List.nil_append, List.cons_append, search, hfound]
      rfl
  | cons c s ih =>
      have hrest : ¬ HasEndTag name s := fun ⟨tag, h, hinfix⟩ =>
        hs ⟨tag, h, hinfix.trans (List.suffix_cons c s).isInfix⟩
      -- an end tag that begins in the content would end in it, or have a second bracket
      have hnone : rawEnd? (name.map Char.toLower) (c :: (s ++ ('<' :: body ++ r))) = none := by
        rw [Option.eq_none_iff_forall_ne_some]
        intro n hn
        have hend := isEndTag_of_rawEnd hn
        have hbegins : (c :: s) <+: c :: (s ++ ('<' :: body ++ r)) := ⟨_, rfl⟩
        obtain ⟨after, hwhole⟩ := List.take_prefix n (c :: (s ++ ('<' :: body ++ r)))
        rcases List.prefix_or_prefix_of_prefix (List.take_prefix n _) hbegins with hin | ⟨t, ht⟩
        · exact hs ⟨_, hend, hin.isInfix⟩
        · rw [← ht] at hend hwhole
          obtain ⟨body', hbody, hbracket⟩ := hend.eq_cons hname
          cases t with
          | nil =>
              rw [List.append_nil] at hend
              exact hs ⟨_, hend, List.infix_rfl⟩
          | cons d t =>
              rw [List.append_assoc, List.cons_append, List.cons_append, List.cons_inj_right,
                List.append_cancel_left_eq] at hwhole
              obtain rfl : d = '<' := (List.cons.inj hwhole).1
              rw [List.cons_append, List.cons.injEq] at hbody
              exact hbracket (hbody.2 ▸ List.mem_append_right s (.head t))
      rw [List.cons_append, search, hnone, ih hrest]
      rfl

/-- Where an end tag stands, one is found. -/
theorem isSome_search_of_hasEndTag (hname : IsRawName name) (h : HasEndTag name s) :
    (search (rawEnd? (name.map Char.toLower)) s).isSome = true := by
  obtain ⟨tag, htag, before, after, rfl⟩ := h
  induction before with
  | nil =>
      have hfound := htag.rawEnd hname after
      obtain ⟨body, rfl, -⟩ := htag.eq_cons hname
      rw [List.nil_append, List.cons_append, search, ← List.cons_append, hfound]
      rfl
  | cons c before ih =>
      rw [List.cons_append, List.cons_append, search]
      cases rawEnd? (name.map Char.toLower) (c :: (before ++ tag ++ after)) with
      | some n => rfl
      | none => rw [Option.isSome_map, ih]

/-! ## The start tag -/

/-- In ASCII, a text is lowered letter by letter. -/
theorem lower_eq_map_toLower (h : ∀ c ∈ s, c.isAlpha = true) : lower s = s.map Char.toLower := by
  suffices hfrom : ∀ before, lowerFrom before s = s.map Char.toLower from hfrom []
  induction s with
  | nil => exact fun _ => rfl
  | cons c s ih =>
      obtain ⟨hc, hs⟩ := List.forall_mem_cons.mp h
      intro before
      rw [lowerFrom, lowerChar, if_pos (toNat_of_isAlpha hc).2, ih hs]
      rfl

/-- A start tag without attributes is read in lower case. -/
theorem construct_rawName (h : IsRawName name) (r : List Char) :
    construct (name ++ '>' :: r) =
      .token (.openTag (name.map Char.toLower) []) (name.length + 1) := by
  obtain ⟨hne, hletters⟩ := h.letters
  obtain ⟨c, word, rfl⟩ := List.exists_cons_of_ne_nil hne
  obtain ⟨hc, hword⟩ := List.forall_mem_cons.mp hletters
  have hrun : (word ++ '>' :: r).takeWhile isTagNameChar = word :=
    takeWhile_append_stop (fun d hd => isTagNameChar_of_isAlpha (hword d hd)) (by decide) r
  have hgap : gapSize ('>' :: r) = 0 := rfl
  have hnone (last : Char) : attributes last ('>' :: r) = ([], 0) :=
    attributes_stop (by simp)
  have htag : startTag c (word ++ '>' :: r) =
      .complete ((c :: word).map Char.toLower) [] false (word.length + 2) := by
    unfold startTag
    simp only [hrun, List.drop_left, hgap, Nat.add_zero, hnone, lower_eq_map_toLower hletters]
  rw [List.cons_append, construct, if_pos hc, startConstruct, htag]
  rfl

/-! ## Both cleanings -/

variable {depth : Nat} {final : Bool} {a b c : List Char}

/-- A script or style vanishes with its content. -/
theorem vanishes_rawName (hname : IsRawName name) (htag : IsEndTag name tag)
    (hc : ¬ HasEndTag name c) (r : List Char) :
    Vanishes depth (name ++ '>' :: (c ++ (tag ++ r))) depth r := by
  have hcontent : (name ++ '>' :: (c ++ (tag ++ r))).drop (name.length + 1) = c ++ (tag ++ r) := by
    rw [List.drop_length_add_append]
    rfl
  have hend := search_rawEnd hname htag hc r
  rw [← hcontent] at hend
  have hvanish : Vanishes depth _ depth _ := .raw (construct_rawName hname _) hname hend
  rwa [hcontent, ← List.drop_drop, List.drop_left, List.drop_left] at hvanish

/-- Plain data is kept as it is. -/
theorem keptOf_plain (hbracket : '<' ∉ a) (hamp : '&' ∉ a) (s : List Char) :
    keptOf depth final (a ++ s) =
      (keptOf depth final s).map (outside depth (textPieces a) ++ ·) := by
  have hdata : Data s (a ++ []) (a ++ []) := .plain hamp .nil
  rw [List.append_nil] at hdata
  exact keptOf_data hdata hbracket

/-- Plain data is visible as it is. -/
theorem shownOf_plain (hbracket : '<' ∉ a) (hamp : '&' ∉ a) {s : List Char}
    (hs : ∀ c ∈ s.head?, c = '<') :
    shownOf depth final (a ++ s) = (shownOf depth final s).map (outside depth a ++ ·) := by
  have hread : Readable a := by
    have := readable_append_of_notMem hamp []
    rw [List.append_nil] at this
    exact this.mpr readable_nil
  have hdecode : decode a = a := by
    have := decode_append_of_notMem hamp []
    rwa [List.append_nil, decode_nil, List.append_nil] at this
  rw [shownOf_readable hbracket hs hread, hdecode]

theorem toRich_of_keptOf {s : String} {ps : List Piece} (h : keptOf 0 false s.toList = .ok ps) :
    toRich s = .ok (strip (String.ofList (render ps))) := by
  obtain ⟨ts, hts, rfl⟩ := Traversal.map_eq_ok_iff.mp h
  rw [render_keptPieces]
  exact Traversal.map_eq_ok_iff.mpr ⟨ts, hts, rfl⟩

theorem toPlain_of_shownOf {s : String} {v : List Char} (h : shownOf 0 false s.toList = .ok v) :
    toPlain s = .ok (squeeze (String.ofList v)) := by
  obtain ⟨ts, hts, rfl⟩ := Traversal.map_eq_ok_iff.mp h
  exact Traversal.map_eq_ok_iff.mpr ⟨ts, hts, rfl⟩

/-- What both cleanings make of a script or style between plain data. -/
theorem clean_vanishes {s : List Char} (ha : '<' ∉ a ∧ '&' ∉ a) (hb : '<' ∉ b ∧ '&' ∉ b)
    (h : ∀ depth, Vanishes depth s depth b) :
    keptOf 0 false (a ++ '<' :: s) = .ok (textPieces (a ++ b)) ∧
      shownOf 0 false (a ++ '<' :: s) = .ok (a ++ b) := by
  constructor
  · have hkept : keptOf 0 false (b ++ []) = _ := keptOf_plain hb.1 hb.2 []
    rw [keptOf_nil, List.append_nil] at hkept
    rw [keptOf_plain ha.1 ha.2, (h 0).keptOf_eq, hkept, textPieces_append]
    simp [outside, Except.map]
  · have hshown : shownOf 0 false (b ++ []) = _ := shownOf_plain hb.1 hb.2 (by simp)
    rw [shownOf_nil, List.append_nil] at hshown
    rw [shownOf_plain ha.1 ha.2 (by simp), (h 0).shownOf_eq, hshown]
    simp [outside, Except.map]

/-- **Nothing of a script or style is kept.** Both cleanings make of a text with a script or style
in it, up to the first end tag of its name, what they would make of the text around it. -/
theorem clean_rawContent {a b c name : String} (ha : '<' ∉ a.toList ∧ '&' ∉ a.toList)
    (hb : '<' ∉ b.toList ∧ '&' ∉ b.toList)
    (hname : lowerAscii name = "script" ∨ lowerAscii name = "style")
    (hc : ¬ HasEndTag name.toList c.toList) :
    toRich (a ++ "<" ++ name ++ ">" ++ c ++ "</" ++ name ++ ">" ++ b) = .ok (strip (a ++ b)) ∧
      toPlain (a ++ "<" ++ name ++ ">" ++ c ++ "</" ++ name ++ ">" ++ b) =
        .ok (squeeze (a ++ b)) := by
  have hraw : IsRawName name.toList := by
    rcases hname with hname | hname
    · have hlower := congrArg String.toList hname
      rw [lowerAscii, String.toList_ofList] at hlower
      rw [IsRawName, hlower]
      exact .head _
    · have hlower := congrArg String.toList hname
      rw [lowerAscii, String.toList_ofList] at hlower
      rw [IsRawName, hlower]
      exact .tail _ (.head _)
  have htag : IsEndTag name.toList ('<' :: '/' :: (name.toList ++ ['>'])) :=
    @IsEndTag.mk _ [] _ [] nofun rfl nofun
  have htext : (a ++ "<" ++ name ++ ">" ++ c ++ "</" ++ name ++ ">" ++ b).toList =
      a.toList ++ '<' :: (name.toList ++ '>' ::
        (c.toList ++ ('<' :: '/' :: (name.toList ++ ['>']) ++ b.toList))) := by
    simp
  have haround : String.ofList (a.toList ++ b.toList) = a ++ b := by
    rw [← String.toList_append, String.ofList_toList]
  obtain ⟨hkept, hshown⟩ := clean_vanishes ha hb fun _ => vanishes_rawName hraw htag hc b.toList
  rw [← htext] at hkept hshown
  constructor
  · rw [toRich_of_keptOf hkept, render_textPieces, haround]
  · rw [toPlain_of_shownOf hshown, haround]

/-- A script with tags, a reference, a comment and nearly an end tag. -/
def trickyScript : String := "if (a<b) write('<p>&amp;</scrip>'); //<!-- </style> </script"

/-- It is dropped as a whole. -/
theorem clean_rawContent_tricky :
    toRich ("One " ++ "<" ++ "sCript" ++ ">" ++ trickyScript ++ "</" ++ "sCript" ++ ">" ++ " two") =
        .ok "One  two" ∧
      toPlain ("One " ++ "<" ++ "sCript" ++ ">" ++ trickyScript ++ "</" ++ "sCript" ++ ">" ++
        " two") = .ok "One two" := by
  have hnone : search (rawEnd? ("sCript".toList.map Char.toLower)) trickyScript.toList = none := by
    decide +kernel
  have hraw : IsRawName "sCript".toList := by unfold IsRawName; decide
  have hc : ¬ HasEndTag "sCript".toList trickyScript.toList := by
    intro h
    have hfound := isSome_search_of_hasEndTag hraw h
    rw [hnone] at hfound
    cases hfound
  have hname : lowerAscii "sCript" = "script" := by decide
  have h := clean_rawContent (a := "One ") (b := " two") ⟨by decide, by decide⟩
    ⟨by decide, by decide⟩ (.inl hname) hc
  have hrich : strip ("One " ++ " two") = "One  two" := by decide +kernel
  have hplain : squeeze ("One " ++ " two") = "One two" := by decide +kernel
  rwa [hrich, hplain] at h

end QuestionBank.Markup
