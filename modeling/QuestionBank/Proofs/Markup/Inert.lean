import QuestionBank.Proofs.Markup.Cleaned

/-!
# Active content in cleaned markup

Cleaned markup is read again. Only at two kinds of places can a reader find active
content in it: at an opening bracket of text, which may meet what stood far behind it
before comments and dropped elements vanished, and at a tag with a loose equals sign,
which may take the next name for a value. It does find active content exactly if it comes
to such a place and something active opens there.
-/

namespace QuestionBank.Markup

open QuestionBank.Text

/-- Tells whether something else may be read at a piece than what is meant. -/
def Piece.isSuspicious : Piece → Bool
  | char c => c == '<'
  | tag _ attrs _ => isLoose attrs
  | endTag _ => false

/-- Active content is read after an opening bracket. -/
def OpensActive (s : List Char) : Prop := ∃ t size, construct s = .token t size ∧ ¬ t.Inert

/-- A reader comes, outside of raw content, to an opening bracket with this text after
it. The flag tells whether it knows that no more text will come. -/
inductive Meets : Bool → List Char → List Char → Prop where
  | here {final : Bool} {r : List Char} : Meets final ('<' :: r) r
  | token {final : Bool} {r x : List Char} {t : Token} {size : Nat}
      (h : construct r = .token t size) (hraw : rawAfter t = none)
      (rest : Meets final (r.drop size) x) : Meets final ('<' :: r) x
  | skipped {final : Bool} {r x : List Char} {size : Nat} (h : construct r = .skipped size)
      (rest : Meets final (r.drop size) x) : Meets final ('<' :: r) x
  | unfinished {final : Bool} {r x : List Char} (h : construct r = .unfinished)
      (rest : Meets true (r.drop (looseSize r)) x) : Meets final ('<' :: r) x
  | reference {final : Bool} {r x : List Char} {t : Token} {size : Nat}
      (h : ampersand r = .reference t size) (rest : Meets final (r.drop size) x) :
      Meets final ('&' :: r) x
  | numberSign {r x : List Char} (h : ampersand r = .numberSign)
      (rest : Meets true (r.drop 1) x) : Meets false ('&' :: r) x
  | alone {final : Bool} {r x : List Char} (h : ampersand r = .alone) (rest : Meets final r x) :
      Meets final ('&' :: r) x
  | data {final : Bool} {c : Char} {r x : List Char} (hc : c ≠ '<') (hamp : c ≠ '&')
      (rest : Meets final (r.drop (r.takeWhile fun c => c != '<' && c != '&').length) x) :
      Meets final (c :: r) x

/-- A reader of pieces comes to a place where something else may be read than what is
meant, and active content opens there. -/
def Slips (final : Bool) (ps : List Piece) : Prop :=
  ∃ p qs r, p :: qs <:+ ps ∧ p.isSuspicious = true ∧ render (p :: qs) = '<' :: r ∧
    Meets final (render ps) r ∧ OpensActive r

/-- Where all is read as it is meant, a reader does not slip. -/
theorem not_slips {final : Bool} {ps : List Piece} (h : ∀ p ∈ ps, p.isSuspicious = false) :
    ¬ Slips final ps := by
  rintro ⟨p, qs, r, hsuffix, hsuspicious, -⟩
  rw [h p (hsuffix.mem (.head _))] at hsuspicious
  cases hsuspicious

/-! ## Reading written tags -/

/-- A tag that is written is read back as a token, and the reader goes on behind it. -/
theorem startConstruct_written {c : Char} {r : List Char} {attrs : List Attribute}
    (hname : TagName (c :: r)) (hattrs : ∀ a ∈ attrs, AttributeName a.name)
    (hloose : isLoose attrs = false) (closesItself : Bool) (s : List Char) :
    ∃ size, startConstruct c (r ++ written attrs (closing closesItself ++ s)) =
        .token (if closesItself then .emptyTag (c :: r) attrs else .openTag (c :: r) attrs) size ∧
      (c :: (r ++ written attrs (closing closesItself ++ s))).drop size = s := by
  obtain ⟨size, hstart, hdrop⟩ := startTag_written (t := s) hname hattrs hloose
  have hdecoded : (attrs.map Attribute.raw).mapM Attribute.decoded = .ok attrs := by
    rw [Traversal.mapM_eq_ok_iff, List.forall₂_map_left_iff]
    exact List.forall₂_same.mpr fun a _ => decoded_raw a
  refine ⟨size, ?_, hdrop⟩
  rw [startConstruct, hstart]
  dsimp only
  rw [hdecoded]

/-- What a reader finds at a piece is no active content, unless it may be read as something
else. -/
theorem inert_of_construct {p : Piece} {ps : List Piece} (hp : p.Regular ∧ p.Inert)
    (hsuspicious : p.isSuspicious = false) {r : List Char} (hr : render (p :: ps) = '<' :: r)
    {t : Token} {size : Nat} (h : construct r = .token t size) : t.Inert := by
  obtain ⟨hregular, hinert⟩ := hp
  rw [render_cons] at hr
  cases p with
  | char c =>
      cases hr
      cases hsuspicious
  | tag name attrs closesItself =>
      obtain ⟨c, name', rfl, hc⟩ := hregular.1.letter
      obtain ⟨size', hread, -⟩ :=
        startConstruct_written hregular.1 hregular.2 hsuspicious closesItself (render ps)
      have hr : c :: (name' ++ written attrs (closing closesItself ++ render ps)) = r := by
        rw [written_append, ← List.append_assoc]
        exact (List.cons.inj hr).2
      rw [← hr, construct, if_pos hc, hread] at h
      cases h
      cases closesItself with
      | true => exact hinert
      | false => exact hinert
  | endTag name =>
      have hr : '/' :: (name ++ ['>'] ++ render ps) = r := (List.cons.inj hr).2
      rw [← hr, construct, if_neg (by decide), if_pos rfl] at h
      obtain ⟨name', n, -, -, rfl, -⟩ := endConstruct_eq_token h
      trivial

theorem rawAfter_of_inert {t : Token} (h : t.Inert) : rawAfter t = none := by
  unfold rawAfter
  split
  next name attrs =>
    rw [if_neg]
    have hraw : ∀ name ∈ rawElements, name ∈ activeElements := by decide
    exact fun hmem => h.1 (hraw _ (List.contains_iff_mem.mp hmem))
  next => rfl

/-! ## Reading references -/

theorem notMem_take_add {s : List Char} {k n : Nat} (hk : '<' ∉ s.take k)
    (hn : '<' ∉ (s.drop k).take n) : '<' ∉ s.take (k + n) := by
  rw [List.take_add, List.mem_append, not_or]
  exact ⟨hk, hn⟩

theorem notMem_take_takeWhile {p : Char → Bool} (hp : p '<' = false) (s : List Char) :
    '<' ∉ s.take (s.takeWhile p).length := by
  rw [← List.prefix_iff_eq_take.mp (List.takeWhile_prefix _)]
  intro hmem
  rw [List.mem_takeWhile_imp hmem] at hp
  cases hp

theorem notMem_take_semicolon (s : List Char) : '<' ∉ s.take (semicolonSize s) := by
  unfold semicolonSize
  split
  next h =>
    obtain ⟨r, rfl⟩ := List.head?_eq_some_iff.mp h
    simp
  next => exact List.not_mem_nil

theorem notMem_take_name {c : Char} (hc : c.isAlpha = true) {r : List Char} {n : Nat}
    (hn : n ≤ (r.takeWhile isEntityChar).length) : '<' ∉ (c :: r).take (n + 1) := by
  rw [List.take_succ_cons, List.mem_cons, not_or]
  constructor
  · rintro rfl
    cases hc
  · exact fun hmem =>
      notMem_take_takeWhile (p := isEntityChar) rfl r (List.take_subset_take_left _ hn hmem)

theorem notMem_take_numberedReference {s : List Char} {t : Token} {size : Nat}
    (h : numberedReference? s = some (t, size)) : '<' ∉ ('#' :: s).take size := by
  simp only [numberedReference?, Option.ite_none_left_eq_some, Option.some.injEq,
    Prod.mk.injEq] at h
  obtain ⟨-, -, rfl⟩ := h
  generalize hhead : (if s.head? = some 'x' || s.head? = some 'X' then s.take 1 else []) = head
  have hdrop (n : Nat) : ('#' :: s).drop (1 + n) = s.drop n := by rw [Nat.add_comm]; rfl
  refine notMem_take_add (notMem_take_add (notMem_take_add (by simp) ?_) ?_) ?_
  · show '<' ∉ s.take head.length
    split at hhead
    next hx =>
      subst hhead
      rw [Bool.or_eq_true, decide_eq_true_eq, decide_eq_true_eq] at hx
      rcases hx with hx | hx
      · obtain ⟨r, rfl⟩ := List.head?_eq_some_iff.mp hx
        simp
      · obtain ⟨r, rfl⟩ := List.head?_eq_some_iff.mp hx
        simp
    next =>
      subst hhead
      exact List.not_mem_nil
  · rw [hdrop]
    refine notMem_take_takeWhile ?_ _
    split <;> rfl
  · rw [Nat.add_assoc, hdrop, ← List.drop_drop]
    exact notMem_take_semicolon _

theorem closedNameSize_le {name : List Char} {n : Nat} (h : closedNameSize? name = some n) :
    n ≤ name.length := by
  unfold closedNameSize? at h
  dsimp only at h
  split at h
  · cases h
    omega
  · cases h

theorem inert_of_ampersand {s : List Char} {t : Token} {size : Nat}
    (h : ampersand s = .reference t size) : t.Inert := by
  rcases ampersand_eq_reference h with ⟨name, rfl⟩ | ⟨code, rfl⟩
  · trivial
  · trivial

/-- No opening bracket is in what a reader takes after an ampersand. -/
theorem notMem_take_ampersand {s : List Char} {t : Token} {size : Nat}
    (h : ampersand s = .reference t size) : '<' ∉ s.take size := by
  unfold ampersand at h
  split at h
  · cases h
  next r =>
    split at h
    next u size' hu =>
      cases h
      exact notMem_take_numberedReference hu
    next => split at h <;> cases h
  next c r _ =>
    split at h
    next hc =>
      dsimp only at h
      split at h
      · split at h
        next n hn =>
          cases h
          exact notMem_take_name hc (closedNameSize_le hn)
        next => cases h
      · cases h
        exact notMem_take_add (notMem_take_name hc le_rfl) (notMem_take_semicolon _)
    next => cases h

theorem notMem_take_numberSign {s : List Char} (h : ampersand s = .numberSign) :
    '<' ∉ s.take 1 := by
  unfold ampersand at h
  split at h
  · cases h
  · simp
  · split at h
    · dsimp only at h
      split at h
      · split at h <;> cases h
      · cases h
    · cases h

/-! ## Reading pieces -/

/-- Pieces with names in order, none of which is active content. -/
def Kept (ps : List Piece) : Prop := ∀ p ∈ ps, p.Regular ∧ p.Inert

theorem Kept.regular {ps : List Piece} (h : Kept ps) : ∀ p ∈ ps, p.Regular := fun p hp => (h p hp).1

/-- A reader slips if it goes on at the beginning of a piece and slips from there. -/
theorem Kept.slips {ps : List Piece} (hps : Kept ps) {c : Char} {r : List Char}
    (hs : render ps = c :: r) {n : Nat} (hlands : Lands ps (n + 1)) {final final' : Bool}
    (hmeets : ∀ x, Meets final' (r.drop n) x → Meets final (c :: r) x)
    (hrest : ∀ qs, Kept qs → render qs = r.drop n → Slips final' qs) : Slips final ps := by
  obtain ⟨qs, hqs, hdrop⟩ := hlands
  have hr : render qs = r.drop n := by rw [← hdrop, hs, List.drop_succ_cons]
  obtain ⟨p, rs, x, hrs, hsuspicious, hx, hmeets', hopens⟩ :=
    hrest qs (fun p hp => hps p (hqs.mem hp)) hr
  refine ⟨p, rs, x, hrs.trans hqs, hsuspicious, hx, ?_, hopens⟩
  rw [hs]
  rw [hr] at hmeets'
  exact hmeets x hmeets'

/-- A reader that finds active content at once slips at the first piece. -/
theorem Kept.slips_here {ps : List Piece} (hps : Kept ps) {r : List Char}
    (hs : render ps = '<' :: r) (hopens : OpensActive r) (final : Bool) : Slips final ps := by
  cases ps with
  | nil => cases hs
  | cons p ps =>
      obtain ⟨t, size, hconstruct, hactive⟩ := hopens
      refine ⟨p, ps, r, List.suffix_refl _, ?_, hs, hs ▸ .here, t, size, hconstruct, hactive⟩
      by_contra hsuspicious
      rw [Bool.not_eq_true] at hsuspicious
      exact hactive (inert_of_construct (hps p (.head _)) hsuspicious hs hconstruct)

/-- Behind text that opens no tag, a reader is at the beginning of a piece. -/
theorem Kept.lands_text {ps : List Piece} (hps : Kept ps) {c : Char} {r : List Char}
    (hs : render ps = c :: r) (hc : c ≠ '<') {n : Nat} (hn : '<' ∉ r.take n) :
    Lands ps (n + 1) := by
  refine Markup.lands_text hps.regular ?_
  rw [hs, List.take_succ_cons, List.mem_cons, not_or]
  exact ⟨Ne.symm hc, hn⟩

/-- A reader of kept pieces finds active content only where it slips. -/
theorem slips_of_mem_scan {final : Bool} {ps : List Piece} (hps : Kept ps) {t : Token}
    (ht : t ∈ (scan false final none (render ps)).tokens) (hactive : ¬ t.Inert) :
    Slips final ps := by
  have htext {s : List Char} : t ≠ .text s := by
    rintro rfl
    exact hactive trivial
  generalize hs : render ps = s at ht
  generalize hraw : none = raw at ht
  generalize hdecoding : false = decoding at ht
  fun_induction scan decoding final raw s generalizing ps with
  | case1 => cases ht
  | case2 => cases hraw
  | case3 => cases hraw
  | case4 => cases hraw
  | case5 final r u size hu ih =>
      by_cases hinert : u.Inert
      · have hraw := rawAfter_of_inert hinert
        have ht := (mem_tokens_cons.mp ht).resolve_left fun h => hactive (h ▸ hinert)
        exact hps.slips hs (lands_token hps.regular hs hu) (fun _ => .token hu hraw)
          fun qs hqs hr => ih hqs hr hraw.symm ht
      · exact hps.slips_here hs ⟨u, size, hu, hinert⟩ final
  | case6 final r size hskipped ih =>
      exact hps.slips hs (lands_skipped hps.regular hs hskipped) (fun _ => .skipped hskipped)
        fun qs hqs hr => ih hqs hr rfl ht
  | case7 final r hunfinished size =>
      rename_i ih
      have ht := (mem_withData ht).resolve_left fun h => htext h.choose_spec
      exact hps.slips hs (lands_unfinished hps.regular hs) (fun _ => .unfinished hunfinished)
        fun qs hqs hr => ih hqs hr rfl ht
  | case8 => cases ht
  | case9 final c r hc hamp u size hu ih =>
      have ht := (mem_tokens_cons.mp ht).resolve_left fun h =>
        hactive (h ▸ inert_of_ampersand hu)
      obtain rfl : c = '&' := by simpa [← hdecoding] using hamp
      exact hps.slips hs (hps.lands_text hs hc (notMem_take_ampersand hu))
        (fun _ => .reference hu) fun qs hqs hr => ih hqs hr rfl ht
  | case10 =>
      rcases List.mem_cons.mp ht with h | h
      · exact absurd h htext
      · exact absurd (List.mem_singleton.mp h) htext
  | case11 final c r hc hamp hsign hfinal ih =>
      have ht := (mem_tokens_cons.mp ht).resolve_left htext
      obtain rfl : c = '&' := by simpa [← hdecoding] using hamp
      obtain rfl := Bool.eq_false_iff.mpr hfinal
      exact hps.slips hs (hps.lands_text hs hc (notMem_take_numberSign hsign))
        (fun _ => .numberSign hsign) fun qs hqs hr => ih hqs hr rfl ht
  | case12 final c r hc hamp halone ih =>
      have ht := (mem_tokens_cons.mp ht).resolve_left htext
      obtain rfl : c = '&' := by simpa [← hdecoding] using hamp
      exact hps.slips hs (hps.lands_text hs hc (n := 0) List.not_mem_nil) (fun _ => .alone halone)
        fun qs hqs hr => ih hqs hr rfl ht
  | case13 => exact absurd (List.mem_singleton.mp ht) htext
  | case14 final c r hc hamp more =>
      rename_i ih
      subst hdecoding
      have ht := (mem_withData ht).resolve_left fun h => htext h.choose_spec
      have hmore : '<' ∉ r.take more.length := notMem_take_takeWhile rfl r
      exact hps.slips hs (hps.lands_text hs hc hmore)
        (fun _ => .data hc (by simpa using hamp)) fun qs hqs hr => ih hqs hr rfl ht

theorem exists_active_cons {report : Report} (u : Token) (h : ∃ t ∈ report.tokens, ¬ t.Inert) :
    ∃ t ∈ (report.cons u).tokens, ¬ t.Inert := by
  obtain ⟨t, ht, hactive⟩ := h
  exact ⟨t, .tail u ht, hactive⟩

/-- Where a reader comes to active content, it finds it. -/
theorem exists_active_of_meets {final : Bool} {s r : List Char} (h : Meets final s r)
    (hopens : OpensActive r) : ∃ t ∈ (scan false final none s).tokens, ¬ t.Inert := by
  induction h with
  | here =>
      obtain ⟨t, size, hconstruct, hactive⟩ := hopens
      refine ⟨t, ?_, hactive⟩
      rw [scan_token hconstruct]
      exact .head _
  | token h hraw rest ih =>
      rw [scan_token h, hraw]
      exact exists_active_cons _ (ih hopens)
  | skipped h rest ih =>
      rw [scan_skipped h]
      exact ih hopens
  | unfinished h rest ih =>
      rw [scan_unfinished h]
      exact exists_active_cons _ (ih hopens)
  | reference h rest ih =>
      rw [scan_ampersand, h]
      exact exists_active_cons _ (ih hopens)
  | numberSign h rest ih =>
      rw [scan_ampersand, h]
      exact exists_active_cons _ (ih hopens)
  | alone h rest ih =>
      rw [scan_ampersand, h]
      exact exists_active_cons _ (ih hopens)
  | data hc hamp rest ih =>
      rw [scan_data hc (absurd · hamp) rfl]
      exact exists_active_cons _ (ih hopens)

/-- **Cleaned markup holds active content exactly if a reader slips in it.** -/
theorem inert_toRich_iff {s : String} {ts : List Token} (hts : tokens false s.toList = .ok ts) :
    ∃ out, toRich s = .ok out ∧
      ((∀ t ∈ (report false out.toList).tokens, t.Inert) ↔ ¬ Slips false (cleanedPieces ts)) := by
  refine ⟨_, toRich_eq hts, ?_⟩
  rw [String.toList_ofList, report]
  constructor
  · rintro hinert ⟨p, qs, r, -, -, -, hmeets, hopens⟩
    obtain ⟨t, ht, hactive⟩ := exists_active_of_meets hmeets hopens
    exact hactive (hinert t ht)
  · intro hslips t ht
    by_contra hactive
    exact hslips (slips_of_mem_scan (kept_of_tokens hts) ht hactive)

/-- A paragraph is cleaned of what it would run. -/
theorem inert_toRich_paragraph :
    ∃ out, toRich "<p onclick=run()>a &amp; b</p>" = .ok out ∧
      ∀ t ∈ (report false out.toList).tokens, t.Inert := by
  have hreport : report false "<p onclick=run()>a &amp; b</p>".toList =
      { tokens := [.openTag ['p'] [⟨"onclick".toList, some "run()".toList⟩], .text "a ".toList,
          .named "amp".toList, .text " b".toList, .endTag ['p']] } := by
    decide +kernel
  have hts := congrArg Report.whole hreport
  obtain ⟨out, hout, hinert⟩ := inert_toRich_iff hts
  exact ⟨out, hout, hinert.mpr (not_slips (by decide))⟩

/-- A bracket of text meets a name when the comment between them vanishes. -/
theorem not_forall_inert_toRich :
    ¬ ∀ s out, toRich s = .ok out → ∀ t ∈ (report false out.toList).tokens, t.Inert := by
  intro h
  have hout : toRich "<<!---->script>x" = .ok "<script>x" := by decide +kernel
  have hreport : (report false "<script>x".toList).tokens = [.openTag "script".toList []] := by
    decide +kernel
  have hinert := h _ _ hout (.openTag "script".toList []) (by rw [hreport]; exact .head _)
  exact absurd hinert (by decide)

end QuestionBank.Markup
