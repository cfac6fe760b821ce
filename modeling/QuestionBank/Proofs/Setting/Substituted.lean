import QuestionBank.Setting.Template
import QuestionBank.Proofs.Text.Replaced
import Mathlib.Algebra.Order.BigOperators.Group.List
import Mathlib.Algebra.Order.Group.Nat
import Mathlib.Data.List.Nodup

/-!
# Variables in another order

Template variables of different lengths are replaced in an order that depends on the variables
alone. Equally long ones are replaced in the order in which they are given. That order makes no
difference to a text whose parts are clear: whichever variables are already replaced, a further
one begins only where it stands. Where a variable overlaps another one or its value, the order
tells which of them is replaced.
-/

namespace QuestionBank.Template

open QuestionBank.Text

/-! ## Places of variables -/

/-- A part of a text: a character, or a place where a variable stands. -/
inductive Part where
  | plain (c : Char)
  | place (entry : String × String)

/-- How a part reads where some variables are replaced. -/
def Part.shown (done : List (String × String)) : Part → List Char
  | .plain c => [c]
  | .place entry => (if entry ∈ done then entry.2 else entry.1).toList

/-- How parts read where some variables are replaced. -/
def shown (done : List (String × String)) (parts : List Part) : List Char :=
  parts.flatMap (Part.shown done)

/-- A variable that is not replaced yet begins only where it stands. -/
def StandsApart (done : List (String × String)) (entry : String × String)
    (parts : List Part) : Prop :=
  ∀ front part back, parts = front ++ part :: back → part ≠ .place entry →
    ∀ before rest, part.shown done = before ++ rest → rest ≠ [] →
      ¬ entry.1.toList <+: rest ++ shown done back

/-- Every variable of a group begins only where it stands, whichever of them are replaced. -/
def Clear (group : List (String × String)) (parts : List Part) : Prop :=
  ∀ done, done ⊆ group → ∀ entry ∈ group, entry ∉ done → StandsApart done entry parts

variable {done group entries entries' : List (String × String)} {entry : String × String}
  {part : Part} {parts : List Part}

theorem shown_cons (done : List (String × String)) (part : Part) (parts : List Part) :
    shown done (part :: parts) = part.shown done ++ shown done parts := rfl

/-- Only what is replaced makes a difference, and not the order. -/
theorem shown_congr {done' : List (String × String)} (h : ∀ entry, entry ∈ done ↔ entry ∈ done')
    (parts : List Part) : shown done parts = shown done' parts := by
  have hpart : Part.shown done = Part.shown done' := by
    funext part
    cases part with
    | plain c => rfl
    | place entry => simp only [Part.shown, h entry]
  rw [shown, shown, hpart]

/-- Replacing a variable changes only the places where it stands. -/
theorem Part.shown_cons_of_ne (h : part ≠ .place entry) :
    part.shown (entry :: done) = part.shown done := by
  cases part with
  | plain c => rfl
  | place other =>
      have hne : other ≠ entry := fun heq => h (congrArg Part.place heq)
      simp only [Part.shown, List.mem_cons, hne, false_or]

theorem StandsApart.tail (h : StandsApart done entry (part :: parts)) :
    StandsApart done entry parts :=
  fun front part' back hparts => h (part :: front) part' back (congrArg (part :: ·) hparts)

/-- One replacement: a variable that begins only where it stands is replaced there. -/
theorem replace_shown (hkey : entry.1.toList ≠ []) (hnew : entry ∉ done)
    (h : StandsApart done entry parts) :
    replace entry.1.toList entry.2.toList (shown done parts) = shown (entry :: done) parts := by
  induction parts with
  | nil => exact replace_nil _ _
  | cons part parts ih =>
      rw [shown_cons, shown_cons, ← ih h.tail]
      by_cases hpart : part = .place entry
      · rw [hpart]
        simp only [Part.shown, hnew, List.mem_cons_self, if_true, if_false]
        exact replace_append hkey _ _
      · rw [Part.shown_cons_of_ne hpart]
        exact replace_append_of_not_prefix _ (h [] part parts rfl hpart)

/-- A row of replacements. -/
def replaceAll (entries : List (String × String)) (s : List Char) : List Char :=
  entries.foldl (fun s entry => replace entry.1.toList entry.2.toList s) s

theorem replaceAll_append (entries entries' : List (String × String)) (s : List Char) :
    replaceAll (entries ++ entries') s = replaceAll entries' (replaceAll entries s) :=
  List.foldl_append

/-- A text in which none of the variables occurs stays as it is. -/
theorem replaceAll_of_not_infix {s : List Char}
    (h : ∀ entry ∈ entries, ¬ entry.1.toList <:+: s) : replaceAll entries s = s := by
  induction entries with
  | nil => rfl
  | cons entry entries ih =>
      obtain ⟨hentry, hentries⟩ := List.forall_mem_cons.mp h
      have hstep : replace entry.1.toList entry.2.toList s = s := replace_of_not_infix _ hentry
      calc replaceAll (entry :: entries) s = replaceAll entries s :=
            congrArg (replaceAll entries) hstep
        _ = s := ih hentries

/-- A row of replacements puts every variable of a clear text in its places. -/
theorem replaceAll_shown (hclear : Clear group parts) (hkeys : ∀ entry ∈ group, entry.1 ≠ "")
    (hentries : entries ⊆ group) (hdone : done ⊆ group) (hnodup : entries.Nodup)
    (hnew : ∀ entry ∈ entries, entry ∉ done) :
    replaceAll entries (shown done parts) = shown (entries ++ done) parts := by
  induction entries generalizing done with
  | nil => rfl
  | cons entry entries ih =>
      obtain ⟨hentry, hsubset⟩ := List.cons_subset.mp hentries
      obtain ⟨hnotmem, hrest⟩ := List.nodup_cons.mp hnodup
      have hstep : replace entry.1.toList entry.2.toList (shown done parts) =
          shown (entry :: done) parts := by
        have hapart := hclear done hdone entry hentry (hnew entry (List.mem_cons_self ..))
        exact replace_shown (by simpa using hkeys entry hentry)
          (hnew entry (List.mem_cons_self ..)) hapart
      have hnew' : ∀ other ∈ entries, other ∉ entry :: done := by
        intro other hother hmem
        rcases List.mem_cons.mp hmem with rfl | hmem
        · exact hnotmem hother
        · exact hnew other (List.mem_cons_of_mem _ hother) hmem
      calc replaceAll (entry :: entries) (shown done parts)
          = replaceAll entries (shown (entry :: done) parts) :=
            congrArg (replaceAll entries) hstep
        _ = shown (entries ++ entry :: done) parts :=
            ih hsubset (List.cons_subset.mpr ⟨hentry, hdone⟩) hrest hnew'
        _ = shown (entry :: entries ++ done) parts :=
            shown_congr (fun other => by simp [or_left_comm]) parts

/-- In a clear text, all orders of replacement come to the same. -/
theorem replaceAll_perm (hclear : Clear group parts) (hkeys : ∀ entry ∈ group, entry.1 ≠ "")
    (hnodup : group.Nodup) (h : entries.Perm group) :
    replaceAll entries (shown [] parts) = shown group parts := by
  rw [replaceAll_shown hclear hkeys h.subset (List.nil_subset _) (h.nodup_iff.mpr hnodup)
    fun _ _ => List.not_mem_nil]
  exact shown_congr (fun entry => by simp [h.mem_iff]) parts

/-! ## The order of replacement -/

/-- The variables of a length, as they are given. -/
def ofLength (t : Template) (n : Nat) : List (String × String) :=
  t.entries.filter fun entry => entry.1.length = n

/-- The variables longer than a length, as they are replaced. -/
def longer (t : Template) (n : Nat) : List (String × String) :=
  t.ordered.filter fun entry => n < entry.1.length

/-- A text with the variables replaced that are longer than a length. -/
def replacedAbove (t : Template) (n : Nat) (text : String) : List Char :=
  replaceAll (t.longer n) text.toList

variable {t t' : Template} {text : String} {n : Nat}

theorem ordered_perm (t : Template) : t.ordered.Perm t.entries :=
  List.mergeSort_perm _ _

/-- Sorting by length keeps the order of equally long variables. -/
theorem filter_ordered (t : Template) (n : Nat) :
    (t.ordered.filter fun entry => entry.1.length = n) = t.ofLength n := by
  have hsame : (t.ofLength n).Pairwise fun a b => decide (b.1.length ≤ a.1.length) = true := by
    refine List.pairwise_of_forall_mem_list fun a ha b hb => ?_
    have ha := (List.mem_filter.mp ha).2
    have hb := (List.mem_filter.mp hb).2
    simp only [decide_eq_true_eq] at ha hb ⊢
    omega
  have hsublist : (t.ofLength n).Sublist t.ordered :=
    List.sublist_mergeSort (fun a b c => by simp only [decide_eq_true_eq]; omega)
      (fun a b => by simp only [Bool.or_eq_true, decide_eq_true_eq]; omega) hsame
      List.filter_sublist
  have hfilter := hsublist.filter fun entry => decide (entry.1.length = n)
  simp only [ofLength, List.filter_filter, Bool.and_self] at hfilter
  exact (hfilter.eq_of_length (((ordered_perm t).filter _).length_eq).symm).symm

/-- The variables longer than a length are those longer than the next one, then those of the
next length. -/
theorem longer_eq_append (t : Template) (n : Nat) :
    t.longer n = t.longer (n + 1) ++ t.ofLength (n + 1) := by
  have hsorted : t.ordered.Pairwise fun a b => b.1.length ≤ a.1.length := by
    refine (List.pairwise_mergeSort ?_ ?_ t.entries).imp ?_
    · intro a b c
      simp only [decide_eq_true_eq]
      omega
    · intro a b
      simp only [Bool.or_eq_true, decide_eq_true_eq]
      omega
    · intro a b h
      exact of_decide_eq_true h
  rw [← filter_ordered, longer, longer]
  generalize t.ordered = entries at hsorted
  induction entries with
  | nil => rfl
  | cons entry entries ih =>
      obtain ⟨hhead, htail⟩ := List.pairwise_cons.mp hsorted
      have ih := ih htail
      rcases Nat.lt_trichotomy entry.1.length (n + 1) with hlt | heq | hgt
      · simp only [List.filter_cons, ih, decide_eq_true_eq]
        rw [if_neg (by omega), if_neg (by omega), if_neg (by omega)]
      · -- what follows is not longer
        have hnone : (entries.filter fun entry => decide (n + 1 < entry.1.length)) = [] := by
          refine List.filter_eq_nil_iff.mpr fun other hother => ?_
          have := hhead other hother
          simp only [decide_eq_true_eq]
          omega
        rw [hnone] at ih
        simp only [List.filter_cons, ih, hnone, decide_eq_true_eq]
        rw [if_pos (by omega), if_neg (by omega), if_pos heq]
        rfl
      · simp only [List.filter_cons, ih, decide_eq_true_eq]
        rw [if_pos (by omega), if_pos hgt, if_neg (by omega)]
        rfl

theorem replacedAbove_succ (t : Template) (n : Nat) (text : String) :
    t.replacedAbove n text = replaceAll (t.ofLength (n + 1)) (t.replacedAbove (n + 1) text) := by
  rw [replacedAbove, longer_eq_append, replaceAll_append]
  rfl

theorem replacedAbove_of_le (h : ∀ entry ∈ t.entries, entry.1.length ≤ n) (text : String) :
    t.replacedAbove n text = text.toList := by
  have hnone : t.longer n = [] := by
    refine List.filter_eq_nil_iff.mpr fun entry hentry => ?_
    have := h entry ((ordered_perm t).mem_iff.mp hentry)
    simp only [decide_eq_true_eq]
    omega
  rw [replacedAbove, hnone]
  rfl

theorem apply_eq_replaceAll (t : Template) (text : String) :
    t.apply text = String.ofList (replaceAll t.ordered text.toList) := rfl

theorem apply_of_not_infix (h : ∀ entry ∈ t.entries, ¬ entry.1.toList <:+: text.toList) :
    t.apply text = text := by
  rw [apply_eq_replaceAll, replaceAll_of_not_infix, String.ofList_toList]
  exact fun entry hentry => h entry ((ordered_perm t).mem_iff.mp hentry)

theorem apply_eq_replacedAbove (hkeys : ∀ entry ∈ t.entries, entry.1 ≠ "") (text : String) :
    t.apply text = String.ofList (t.replacedAbove 0 text) := by
  have hall : t.longer 0 = t.ordered := by
    refine List.filter_eq_self.mpr fun entry hentry => ?_
    have := hkeys entry ((ordered_perm t).mem_iff.mp hentry)
    simpa [Nat.pos_iff_ne_zero] using this
  rw [apply_eq_replaceAll, replacedAbove, hall]

/-! ## Reordered variables -/

/-- The order of equally long variables makes no difference to a text: they are given in the same
order, or the text is clear for them when it comes to replacing them. -/
def Settled (t t' : Template) (text : String) : Prop :=
  ∀ n, t'.ofLength n = t.ofLength n ∨
    ∃ parts, t.replacedAbove n text = shown [] parts ∧ Clear (t.ofLength n) parts

theorem ofLength_perm (h : t'.entries.Perm t.entries) (n : Nat) :
    (t'.ofLength n).Perm (t.ofLength n) :=
  h.filter _

/-- Length by length, from the longest variables on, both orders come to the same. -/
theorem Settled.replacedAbove_eq (h : Settled t t' text) (hperm : t'.entries.Perm t.entries)
    (hkeys : ∀ entry ∈ t.entries, entry.1 ≠ "") (hnodup : t.entries.Nodup) (k : Nat)
    (hbound : ∀ entry ∈ t.entries, entry.1.length ≤ n + k) :
    t'.replacedAbove n text = t.replacedAbove n text := by
  induction k generalizing n with
  | zero =>
      have hbound : ∀ entry ∈ t.entries, entry.1.length ≤ n := hbound
      rw [replacedAbove_of_le hbound, replacedAbove_of_le]
      exact fun entry hentry => hbound entry (hperm.mem_iff.mp hentry)
  | succ k ih =>
      have hnext : t'.replacedAbove (n + 1) text = t.replacedAbove (n + 1) text := by
        refine ih fun entry hentry => ?_
        have := hbound entry hentry
        omega
      rw [replacedAbove_succ, replacedAbove_succ t, hnext]
      rcases h (n + 1) with hsame | ⟨parts, hparts, hclear⟩
      · rw [hsame]
      · have hkeys' : ∀ entry ∈ t.ofLength (n + 1), entry.1 ≠ "" :=
          fun entry hentry => hkeys entry (List.mem_filter.mp hentry).1
        rw [hparts, replaceAll_perm hclear hkeys' (hnodup.filter _) (ofLength_perm hperm _),
          replaceAll_perm hclear hkeys' (hnodup.filter _) (.refl _)]

/-- Variables of different lengths have but one order. -/
theorem settled_of_lengths (hperm : t'.entries.Perm t.entries)
    (h : (t.entries.map fun entry => entry.1.length).Nodup) (text : String) :
    Settled t t' text := by
  refine fun n => .inl ?_
  have hperm' := ofLength_perm hperm n
  have hnodup : ((t.ofLength n).map fun entry => entry.1.length).Nodup :=
    h.sublist (List.filter_sublist.map _)
  have hlength : ∀ entry ∈ t.ofLength n, entry.1.length = n := fun entry hentry => by
    simpa using (List.mem_filter.mp hentry).2
  match hgroup : t.ofLength n with
  | [] => exact List.perm_nil.mp (hgroup ▸ hperm')
  | [entry] => exact List.perm_singleton.mp (hgroup ▸ hperm')
  | first :: second :: rest =>
      rw [hgroup] at hnodup hlength
      have hfirst := hlength first (by simp)
      have hsecond := hlength second (by simp)
      simp [hfirst, hsecond] at hnodup

/-- Variables that begin with a sign of their own are clear for each other in a text without other
such signs. -/
theorem clear_of_sign {sign : Char} {n : Nat}
    (hkeys : ∀ entry ∈ group, entry.1.toList.head? = some sign ∧ sign ∉ entry.1.toList.tail)
    (hlength : ∀ entry ∈ group, entry.1.length = n)
    (hvalues : ∀ entry ∈ group, sign ∉ entry.2.toList)
    (hunique : ∀ a ∈ group, ∀ b ∈ group, a.1 = b.1 → a = b)
    (hplain : ∀ c, .plain c ∈ parts → c ≠ sign) (hplaces : ∀ e, .place e ∈ parts → e ∈ group) :
    Clear group parts := by
  rintro done - entry hentry - front part back rfl hpart before rest hshown hrest hbegins
  obtain ⟨name, hname⟩ := List.head?_eq_some_iff.mp (hkeys entry hentry).1
  have hmem : part ∈ front ++ part :: back := by simp
  -- what is left of the part begins with the sign
  obtain ⟨rest, rfl⟩ : ∃ r, rest = sign :: r := by
    obtain ⟨c, r, rfl⟩ := List.exists_cons_of_ne_nil hrest
    rw [hname, List.cons_append, List.cons_prefix_cons] at hbegins
    exact ⟨r, by rw [hbegins.1]⟩
  cases part with
  | plain c =>
      have hsign : sign ∈ Part.shown done (.plain c) := hshown ▸ by simp
      exact hplain c hmem (List.mem_singleton.mp hsign).symm
  | place other =>
      have hother := hplaces other hmem
      by_cases hdone : other ∈ done
      · simp only [Part.shown, hdone, if_true] at hshown
        exact hvalues other hother (hshown ▸ by simp)
      · -- it begins the whole key, and keys of that length that begin alike are the same
        simp only [Part.shown, hdone, if_false] at hshown
        have hbefore : before = [] := by
          cases before with
          | nil => rfl
          | cons c before => exact absurd (by simp [hshown]) (hkeys other hother).2
        rw [hbefore, List.nil_append] at hshown
        rw [← hshown] at hbegins
        have hlengths : entry.1.toList.length = other.1.toList.length := by
          rw [String.length_toList, String.length_toList, hlength entry hentry,
            hlength other hother]
        have hsame : entry.1.toList = other.1.toList :=
          (List.prefix_of_prefix_length_le hbegins (List.prefix_append _ _)
            hlengths.le).eq_of_length hlengths
        exact hpart (congrArg Part.place
          (hunique other hother entry hentry (String.toList_inj.mp hsame.symm)))

/-- What is read for the members of an object. -/
theorem ofMembers_eq_ok_iff {members : List (String × Json)} :
    ofMembers members = .ok t ↔
      (∀ m ∈ members, m.1 ≠ "") ∧ t.entries = members.map fun m => (m.1, valueText m.2) := by
  have hany : (members.any fun m => m.1.isEmpty) = true ↔ ¬ ∀ m ∈ members, m.1 ≠ "" := by
    simp [List.any_eq_true]
  obtain ⟨entries⟩ := t
  unfold ofMembers
  split
  next h => exact ⟨fun hread => (nomatch hread), fun hread => absurd hread.1 (hany.mp h)⟩
  next h =>
    have hnonempty := not_not.mp (mt hany.mpr h)
    simp only [Except.ok.injEq, mk.injEq, eq_comm, and_iff_right hnonempty]

/-- **The order of template variables.** The same variables can be given in any order. Their order
makes no difference to a text that is settled for them, nor to any text if their lengths differ.
A clear text has each of them replaced where it stands. -/
theorem apply_reordered {members members' : List (String × Json)}
    (hperm : members'.Perm members) (hnames : (members.map Prod.fst).Nodup)
    (hread : ofMembers members = .ok t) :
    ∃ t', ofMembers members' = .ok t' ∧
      (∀ text, Settled t t' text → t'.apply text = t.apply text) ∧
      (∀ parts, Clear t.entries parts →
        t.apply (String.ofList (shown [] parts)) = String.ofList (shown t.entries parts) ∧
          t'.apply (String.ofList (shown [] parts)) = String.ofList (shown t.entries parts)) ∧
      ((members.map fun m => m.1.length).Nodup → ∀ text, t'.apply text = t.apply text) := by
  obtain ⟨hnonempty, hentries⟩ := ofMembers_eq_ok_iff.mp hread
  obtain ⟨t', hread', hperm'⟩ : ∃ t', ofMembers members' = .ok t' ∧
      t'.entries.Perm t.entries := by
    refine ⟨⟨members'.map fun m => (m.1, valueText m.2)⟩, ofMembers_eq_ok_iff.mpr ⟨?_, rfl⟩, ?_⟩
    · exact fun m hm => hnonempty m (hperm.mem_iff.mp hm)
    · exact hentries ▸ hperm.map _
  have hkeys : ∀ entry ∈ t.entries, entry.1 ≠ "" := by
    intro entry hentry
    rw [hentries] at hentry
    obtain ⟨m, hm, rfl⟩ := List.mem_map.mp hentry
    exact hnonempty m hm
  have hkeys' : ∀ entry ∈ t'.entries, entry.1 ≠ "" :=
    fun entry hentry => hkeys entry (hperm'.mem_iff.mp hentry)
  have hnodup : t.entries.Nodup := by
    refine List.Nodup.of_map Prod.fst ?_
    rwa [hentries, List.map_map]
  have hsettled {text : String} (h : Settled t t' text) : t'.apply text = t.apply text := by
    have hbound : ∀ entry ∈ t.entries,
        entry.1.length ≤ 0 + (t.entries.map fun entry => entry.1.length).sum := by
      intro entry hentry
      rw [Nat.zero_add]
      exact List.le_sum_of_mem (List.mem_map_of_mem hentry)
    rw [apply_eq_replacedAbove hkeys', apply_eq_replacedAbove hkeys,
      h.replacedAbove_eq hperm' hkeys hnodup _ hbound]
  refine ⟨t', hread', fun _ => hsettled, fun parts hclear => ?_, fun hlengths text => ?_⟩
  · rw [apply_eq_replaceAll, apply_eq_replaceAll, String.toList_ofList,
      replaceAll_perm hclear hkeys hnodup (ordered_perm t),
      replaceAll_perm hclear hkeys hnodup ((ordered_perm t').trans hperm')]
    exact ⟨rfl, rfl⟩
  · refine hsettled (settled_of_lengths hperm' ?_ text)
    rwa [hentries, List.map_map]

/-- Variables in which one begins like another. -/
def shortVariables : List (String × Json) :=
  [("$AB", .str "z"), ("$A", .str "x"), ("$B", .str "y")]

/-- A text in which they stand side by side. -/
theorem apply_reordered_short :
    ∃ t', ofMembers shortVariables.reverse = .ok t' ∧ t'.apply "$B$AB$A" = "yzx" := by
  let t : Template := ⟨[("$AB", "z"), ("$A", "x"), ("$B", "y")]⟩
  have hread : ofMembers shortVariables = .ok t := rfl
  obtain ⟨t', hread', hsettled, -⟩ :=
    apply_reordered (List.reverse_perm shortVariables) (by decide) hread
  have hordered : t.ordered = t.entries := List.mergeSort_of_pairwise (by decide)
  have happly : t.apply "$B$AB$A" = "yzx" := by
    rw [apply_eq_replaceAll, hordered]
    decide +kernel
  refine ⟨t', hread', (hsettled _ fun n => ?_).trans happly⟩
  obtain rfl : t' = ⟨[("$B", "y"), ("$A", "x"), ("$AB", "z")]⟩ := by
    cases hread'
    rfl
  by_cases hn : n = 2
  · -- of the two equally long variables, each one begins with its own sign
    subst hn
    have hsigns : ∀ entry ∈ t.ofLength 2,
        entry.1.toList.head? = some '$' ∧ '$' ∉ entry.1.toList.tail := by decide
    refine .inr ⟨[.place ("$B", "y"), .plain 'z', .place ("$A", "x")], ?_,
      clear_of_sign hsigns (n := 2) (by decide) (by decide) (by decide) ?_ ?_⟩
    · rw [replacedAbove, longer, hordered]
      decide +kernel
    · simp
    · have hlength : "$A".length = 2 ∧ "$B".length = 2 := by decide
      simp [ofLength, t, hlength]
  · have hlength : ¬ "$A".length = n ∧ ¬ "$B".length = n := ⟨Ne.symm hn, Ne.symm hn⟩
    exact .inl (by simp [ofLength, t, List.filter_cons, hlength])

/-- Two variables that overlap. -/
def overlappingVariables : List (String × Json) := [("%A%", .str "x"), ("%B%", .str "y")]

/-- The order of equally long variables does make a difference. -/
theorem not_forall_apply_reordered :
    ¬ ∀ (members members' : List (String × Json)) (t t' : Template) (text : String),
      members'.Perm members → (members.map Prod.fst).Nodup → ofMembers members = .ok t →
        ofMembers members' = .ok t' → t'.apply text = t.apply text := by
  intro h
  have happly := h overlappingVariables overlappingVariables.reverse
    ⟨[("%A%", "x"), ("%B%", "y")]⟩ ⟨[("%B%", "y"), ("%A%", "x")]⟩ "%A%B%"
    (List.reverse_perm _) (by decide) rfl rfl
  rw [apply_eq_replaceAll, apply_eq_replaceAll, ordered, ordered,
    List.mergeSort_of_pairwise (by decide), List.mergeSort_of_pairwise (by decide)] at happly
  exact absurd happly (by decide +kernel)

end QuestionBank.Template
