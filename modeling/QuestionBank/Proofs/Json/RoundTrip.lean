import QuestionBank.Proofs.Json.Numeral
import QuestionBank.Proofs.Json.Text

/-!
# JSON text is read back

The text of a value is read as the value, if its objects name each member once, its integers
are short enough to be written and the text of each of its floating-point numbers reads back
as the number. The text stands on one line.
-/

namespace QuestionBank.Json

open QuestionBank.Number

/-! ## Values that text keeps -/

mutual

/-- The floating-point numbers in a value. -/
def floats : Json → List Binary64
  | float x => [x]
  | arr items => itemsFloats items
  | obj members => membersFloats members
  | _ => []

/-- The floating-point numbers in the items of a list. -/
def itemsFloats : List Json → List Binary64
  | [] => []
  | item :: items => floats item ++ itemsFloats items

/-- The floating-point numbers in the members of an object. -/
def membersFloats : List (String × Json) → List Binary64
  | [] => []
  | (_, value) :: members => floats value ++ membersFloats members

end

mutual

/-- Each object in a value names its members once. -/
def NamesOnce : Json → Prop
  | arr items => ItemsNamesOnce items
  | obj members => (members.map Prod.fst).Nodup ∧ MembersNamesOnce members
  | _ => True

/-- Each object in the items of a list names its members once. -/
def ItemsNamesOnce : List Json → Prop
  | [] => True
  | item :: items => NamesOnce item ∧ ItemsNamesOnce items

/-- Each object in the members of an object names its members once. -/
def MembersNamesOnce : List (String × Json) → Prop
  | [] => True
  | (_, value) :: members => NamesOnce value ∧ MembersNamesOnce members

end

/-- What the text of a value does not keep: a name that stands twice, an integer of too many
digits, or a number whose text reads back as another. -/
structure Kept (j : Json) : Prop where
  names : NamesOnce j
  writable : isWritable j = true
  floats : ∀ x ∈ floats j, ReadsBack x

/-- The items of a list are kept. -/
structure KeptItems (items : List Json) : Prop where
  names : ItemsNamesOnce items
  writable : itemsWritable items = true
  floats : ∀ x ∈ itemsFloats items, ReadsBack x

/-- The values of members are kept. -/
structure KeptMembers (members : List (String × Json)) : Prop where
  names : MembersNamesOnce members
  writable : membersWritable members = true
  floats : ∀ x ∈ membersFloats members, ReadsBack x

theorem Kept.items {items : List Json} (h : Kept (arr items)) : KeptItems items :=
  ⟨h.names, h.writable, h.floats⟩

theorem Kept.members {members : List (String × Json)} (h : Kept (obj members)) :
    KeptMembers members :=
  ⟨h.names.2, h.writable, h.floats⟩

theorem keptItems_cons {item : Json} {items : List Json} :
    KeptItems (item :: items) ↔ Kept item ∧ KeptItems items := by
  constructor
  · rintro ⟨hnames, hwritable, hfloats⟩
    obtain ⟨hitem, hitems⟩ := (Bool.and_eq_true _ _).mp hwritable
    refine ⟨⟨hnames.1, hitem, fun x hx => hfloats x ?_⟩,
      ⟨hnames.2, hitems, fun x hx => hfloats x ?_⟩⟩
    · exact List.mem_append_left _ hx
    · exact List.mem_append_right _ hx
  · rintro ⟨hitem, hitems⟩
    refine ⟨⟨hitem.names, hitems.names⟩, ?_, ?_⟩
    · exact (Bool.and_eq_true _ _).mpr ⟨hitem.writable, hitems.writable⟩
    · intro x hx
      exact (List.mem_append.mp hx).elim (hitem.floats x) (hitems.floats x)

theorem keptMembers_cons {name : String} {j : Json} {members : List (String × Json)} :
    KeptMembers ((name, j) :: members) ↔ Kept j ∧ KeptMembers members := by
  constructor
  · rintro ⟨hnames, hwritable, hfloats⟩
    obtain ⟨hj, hmembers⟩ := (Bool.and_eq_true _ _).mp hwritable
    refine ⟨⟨hnames.1, hj, fun x hx => hfloats x ?_⟩,
      ⟨hnames.2, hmembers, fun x hx => hfloats x ?_⟩⟩
    · exact List.mem_append_left _ hx
    · exact List.mem_append_right _ hx
  · rintro ⟨hj, hmembers⟩
    refine ⟨⟨hj.names, hmembers.names⟩, ?_, ?_⟩
    · exact (Bool.and_eq_true _ _).mpr ⟨hj.writable, hmembers.writable⟩
    · intro x hx
      exact (List.mem_append.mp hx).elim (hj.floats x) (hmembers.floats x)

/-! ## What the text begins with -/

/-- A text begins as a value can: with no white space, no closing bracket and no byte order
mark. -/
def OpensValue (s : List Char) : Prop :=
  ∃ c r, s = c :: r ∧ isSpace c = false ∧ c ≠ ']' ∧ c ≠ '\ufeff'

theorem opensValue_of_isDigit {c : Char} (h : c.isDigit = true) (r : List Char) :
    OpensValue (c :: r) := by
  have hne {d : Char} (hd : d.isDigit = false) : c ≠ d := by
    rintro rfl
    rw [hd] at h
    cases h
  refine ⟨c, r, rfl, ?_, hne rfl, hne rfl⟩
  simp [isSpace, hne (d := ' ') rfl, hne (d := '\t') rfl, hne (d := '\n') rfl,
    hne (d := '\r') rfl]

theorem opensValue_signed (n : Spelling) (negative : Bool) : OpensValue (n.signed negative) := by
  obtain ⟨c, r, hchars, hc⟩ := n.chars_eq_cons
  cases negative with
  | true => exact ⟨'-', n.chars, rfl, rfl, by decide⟩
  | false =>
      rw [show n.signed false = n.chars from rfl, hchars]
      exact opensValue_of_isDigit hc r

theorem opensValue_chars (j : Json) : OpensValue j.chars := by
  cases j with
  | null => exact ⟨'n', _, rfl, rfl, by decide⟩
  | bool b => cases b <;> exact ⟨_, _, rfl, rfl, by decide⟩
  | int i =>
      rw [chars, showInt_signed]
      exact opensValue_signed _ _
  | float x =>
      cases x with
      | nan => exact ⟨'N', _, rfl, rfl, by decide⟩
      | infinite negative => cases negative <;> exact ⟨_, _, rfl, rfl, by decide⟩
      | finite negative e f =>
          obtain ⟨n, htext, -⟩ := render_signed numberLayout negative e f
          rw [chars, htext]
          exact opensValue_signed n negative
  | str s => exact ⟨'"', _, rfl, rfl, by decide⟩
  | arr items => cases items <;> exact ⟨'[', _, rfl, rfl, by decide⟩
  | obj members =>
      cases members with
      | nil => exact ⟨'\x7b', _, rfl, rfl, by decide⟩
      | cons entry members => exact ⟨'\x7b', _, rfl, rfl, by decide⟩

theorem skipSpace_opens {s : List Char} (h : OpensValue s) (rest : List Char) :
    skipSpace (s ++ rest) = s ++ rest := by
  obtain ⟨c, r, rfl, hc, -, -⟩ := h
  exact List.dropWhile_cons_of_neg (by simp [hc])

theorem skipSpace_blank_opens {s : List Char} (h : OpensValue s) (rest : List Char) :
    skipSpace (' ' :: (s ++ rest)) = s ++ rest := skipSpace_opens h rest

/-! ## Values by their first character -/

theorem value_digit (n : Nat) {c : Char} (hc : c.isDigit = true) (r : List Char) :
    value (n + 1) (c :: r) = number (c :: r) := by
  unfold value
  split <;> simp_all

theorem value_minus (n : Nat) {c : Char} (hc : c.isDigit = true) (r : List Char) :
    value (n + 1) ('-' :: c :: r) = number ('-' :: c :: r) := by
  unfold value
  split <;> simp_all

theorem value_signed (n : Nat) (text : Spelling) (negative : Bool) (rest : List Char) :
    value (n + 1) (text.signed negative ++ rest) = number (text.signed negative ++ rest) := by
  obtain ⟨c, r, hchars, hc⟩ := text.chars_eq_cons
  cases negative with
  | true =>
      rw [show text.signed true = '-' :: text.chars from rfl, hchars]
      exact value_minus n hc _
  | false =>
      rw [show text.signed false = text.chars from rfl, hchars]
      exact value_digit n hc _

theorem value_quote (n : Nat) (r : List Char) : value (n + 1) ('"' :: r) =
    (stringBody ('"' :: r) [] r).map fun (text, rest) => (.str text, rest) := by
  unfold value
  rfl

theorem value_string (n : Nat) (s : String) (rest : List Char) :
    value (n + 1) (stringChars s ++ rest) = .ok (.str s, rest) := by
  have htext : stringChars s ++ rest = '"' :: (s.toList.flatMap escapedChar ++ '"' :: rest) := by
    simp [stringChars]
  rw [htext, value_quote, stringBody_stringChars, List.reverse_nil, List.nil_append,
    String.ofList_toList]
  rfl

theorem value_bracket (n : Nat) (r : List Char) :
    value (n + 1) ('[' :: r) =
      match skipSpace r with
      | ']' :: rest => .ok (.arr [], rest)
      | rest => items n [] rest := by
  unfold value
  rfl

theorem value_list (n : Nat) {s rest : List Char} (h : OpensValue s) :
    value (n + 1) ('[' :: (s ++ rest)) = items n [] (s ++ rest) := by
  rw [value_bracket, skipSpace_opens h rest]
  obtain ⟨c, r, rfl, -, hc, -⟩ := h
  split
  next he => exact absurd (List.cons.inj he).1 hc
  next => rfl

theorem value_object (n : Nat) (s rest : List Char) :
    value (n + 1) ('\x7b' :: '"' :: (s ++ rest)) = members n [] ('"' :: (s ++ rest)) := by
  unfold value
  rfl

/-! ## Items and members one by one -/

/-- A value is read from its text, whatever else stands behind it. Twice the length of the
text is depth enough. -/
def Reads (j : Json) : Prop :=
  ∀ n rest, 2 * j.chars.length ≤ n → EndsNumber rest → value n (j.chars ++ rest) = .ok (j, rest)

theorem endsNumber_itemsChars (items : List Json) (rest : List Char) :
    EndsNumber (itemsChars items ++ rest) := by
  intro c hc
  cases items with
  | nil =>
      cases hc
      decide
  | cons item items =>
      cases hc
      decide

theorem endsNumber_membersChars (members : List (String × Json)) (rest : List Char) :
    EndsNumber (membersChars members ++ rest) := by
  intro c hc
  cases members with
  | nil =>
      cases hc
      decide
  | cons entry members =>
      cases hc
      decide

theorem length_chars_pos (j : Json) : 0 < j.chars.length := by
  obtain ⟨c, r, hchars, -⟩ := opensValue_chars j
  rw [hchars]
  exact Nat.succ_pos _

theorem items_last {n : Nat} {item : Json} {read : List Json} {s rest : List Char}
    (h : value n s = .ok (item, ']' :: rest)) :
    items (n + 1) read s = .ok (.arr (item :: read).reverse, rest) := by
  rw [items, h]
  rfl

theorem items_cons {n : Nat} {item : Json} {read : List Json} {s t rest : List Char}
    (ht : OpensValue t) (h : value n s = .ok (item, ',' :: ' ' :: (t ++ rest))) :
    items (n + 1) read s = items n (item :: read) (t ++ rest) := by
  rw [items, h]
  exact congrArg (items n (item :: read)) (skipSpace_blank_opens ht rest)

/-- The text of a member up to its value. -/
def nameChars (name : String) : List Char := stringChars name ++ [':', ' ']

theorem members_name (n : Nat) (name : String) (read : List (String × Json)) (rest : List Char) :
    members (n + 1) read (nameChars name ++ rest) =
      match value n (skipSpace (' ' :: rest)) with
      | .error e => .error e
      | .ok (item, rest) =>
        match skipSpace rest with
        | '\x7d' :: rest => .ok (.obj (setMember name item read), rest)
        | ',' :: rest => members n (setMember name item read) (skipSpace rest)
        | rest => .error ⟨.expectingComma, rest⟩ := by
  have htext : nameChars name ++ rest =
      '"' :: (name.toList.flatMap escapedChar ++ '"' :: ':' :: ' ' :: rest) := by
    simp [nameChars, stringChars]
  rw [htext, members, stringBody_stringChars, List.reverse_nil, List.nil_append,
    String.ofList_toList]
  rfl

theorem members_last {n : Nat} {name : String} {j : Json} {read : List (String × Json)}
    {t rest : List Char} (ht : OpensValue t)
    (h : value n (t ++ '\x7d' :: rest) = .ok (j, '\x7d' :: rest)) :
    members (n + 1) read (nameChars name ++ (t ++ '\x7d' :: rest)) =
      .ok (.obj (setMember name j read), rest) := by
  rw [members_name, skipSpace_blank_opens ht, h]
  rfl

theorem members_cons {n : Nat} {name : String} {j : Json} {read : List (String × Json)}
    {t u rest : List Char} (ht : OpensValue t) (hu : OpensValue u)
    (h : value n (t ++ ',' :: ' ' :: (u ++ rest)) = .ok (j, ',' :: ' ' :: (u ++ rest))) :
    members (n + 1) read (nameChars name ++ (t ++ ',' :: ' ' :: (u ++ rest))) =
      members n (setMember name j read) (u ++ rest) := by
  rw [members_name, skipSpace_blank_opens ht, h]
  exact congrArg (members n (setMember name j read)) (skipSpace_blank_opens hu rest)

/-- A name that is new is put at the end. -/
theorem setMember_new {name : String} {j : Json} {read : List (String × Json)}
    (h : name ∉ read.map Prod.fst) : setMember name j read = read ++ [(name, j)] := by
  induction read with
  | nil => rfl
  | cons entry read ih =>
      obtain ⟨n, v⟩ := entry
      rw [List.map_cons, List.mem_cons, not_or] at h
      rw [setMember, if_neg (Ne.symm h.1), ih h.2, List.cons_append]

/-! ## Values -/

theorem chars_arr (item : Json) (items : List Json) (rest : List Char) :
    (arr (item :: items)).chars ++ rest = '[' :: (item.chars ++ (itemsChars items ++ rest)) := by
  simp [chars]

theorem itemsChars_cons (item : Json) (items : List Json) (rest : List Char) :
    itemsChars (item :: items) ++ rest =
      ',' :: ' ' :: (item.chars ++ (itemsChars items ++ rest)) := by
  simp [itemsChars]

theorem chars_obj (name : String) (j : Json) (members : List (String × Json))
    (rest : List Char) :
    (obj ((name, j) :: members)).chars ++ rest =
      '\x7b' :: (nameChars name ++ (j.chars ++ (membersChars members ++ rest))) := by
  simp [chars, nameChars]

theorem membersChars_cons (name : String) (j : Json) (members : List (String × Json))
    (rest : List Char) :
    membersChars ((name, j) :: members) ++ rest =
      ',' :: ' ' :: (nameChars name ++ (j.chars ++ (membersChars members ++ rest))) := by
  simp [membersChars, nameChars]

theorem opensValue_nameChars (name : String) : OpensValue (nameChars name) :=
  ⟨'"', _, rfl, rfl, by decide⟩

theorem length_chars_arr (item : Json) (items : List Json) :
    (arr (item :: items)).chars.length = item.chars.length + (itemsChars items).length + 1 := by
  simp [chars]

theorem length_itemsChars_cons (item : Json) (items : List Json) :
    (itemsChars (item :: items)).length = item.chars.length + (itemsChars items).length + 2 := by
  simp [itemsChars]

theorem length_chars_obj (name : String) (j : Json) (members : List (String × Json)) :
    (obj ((name, j) :: members)).chars.length =
      (nameChars name).length + j.chars.length + (membersChars members).length + 1 := by
  simp [chars, nameChars]
  omega

theorem length_membersChars_cons (name : String) (j : Json) (members : List (String × Json)) :
    (membersChars ((name, j) :: members)).length =
      (nameChars name).length + j.chars.length + (membersChars members).length + 2 := by
  simp [membersChars, nameChars]
  omega

/-- A text of a value is not empty, so that its length leaves depth to read it. -/
theorem exists_succ (j : Json) (n : Nat) (h : j.chars.length ≤ n) : ∃ m, n = m + 1 :=
  Nat.exists_eq_add_one.mpr ((length_chars_pos j).trans_le h)

/-- The names of members that are read are not among those read before. -/
theorem notMem_of_nodup {read : List (String × Json)} {name : String} {names : List String}
    (h : (read.map Prod.fst ++ name :: names).Nodup) : name ∉ read.map Prod.fst :=
  fun hmem => (List.nodup_append.mp h).2.2 name hmem name (.head _) rfl

theorem reads_int {i : Int} (h : Kept (int i)) : Reads (int i) := by
  intro n rest hn hrest
  obtain ⟨m, rfl⟩ := exists_succ (int i) n (by omega)
  have hlimit : (decimalDigits i.natAbs).length ≤ digitLimit := by
    simpa [isWritable] using h.writable
  have hread := number_showInt hlimit hrest
  rw [chars, showInt_signed, value_signed, ← showInt_signed]
  exact hread

theorem reads_float {x : Binary64} (h : Kept (float x)) : Reads (float x) := by
  intro n rest hn hrest
  obtain ⟨m, rfl⟩ := exists_succ (float x) n (by omega)
  have hback : ReadsBack x := h.floats x (.head _)
  cases x with
  | nan =>
      unfold value
      rfl
  | infinite negative =>
      cases negative <;>
      · unfold value
        rfl
  | finite negative e f =>
      have hread := number_render hback hrest
      obtain ⟨text, htext, -⟩ := render_signed numberLayout negative e f
      rw [htext] at hread
      rw [chars, htext, value_signed]
      exact hread

-- By structural recursion on the value. Each item that is read uses up one step of depth and
-- at least one character, which twice the length pays for.
mutual

theorem reads_chars : ∀ j : Json, Kept j → Reads j
  | .null, _ => by
      intro n rest hn _
      obtain ⟨m, rfl⟩ := exists_succ .null n (by omega)
      unfold value
      rfl
  | .bool b, _ => by
      intro n rest hn _
      obtain ⟨m, rfl⟩ := exists_succ (.bool b) n (by omega)
      cases b <;>
      · unfold value
        rfl
  | .int i, h => reads_int h
  | .float x, h => reads_float h
  | .str s, _ => by
      intro n rest hn _
      obtain ⟨m, rfl⟩ := exists_succ (.str s) n (by omega)
      exact value_string m s rest
  | .arr [], _ => by
      intro n rest hn _
      obtain ⟨m, rfl⟩ := exists_succ (.arr []) n (by omega)
      unfold value
      rfl
  | .arr (item :: items), h => by
      intro n rest hn _
      obtain ⟨hitem, hitems⟩ := keptItems_cons.mp h.items
      obtain ⟨m, rfl⟩ := exists_succ (.arr (item :: items)) n (by omega)
      rw [length_chars_arr] at hn
      rw [chars_arr, value_list m (opensValue_chars item)]
      exact items_chars items hitems item (reads_chars item hitem) m [] rest (by omega)
  | .obj [], _ => by
      intro n rest hn _
      obtain ⟨m, rfl⟩ := exists_succ (.obj []) n (by omega)
      unfold value
      rfl
  | .obj ((name, j) :: members), h => by
      intro n rest hn _
      obtain ⟨hj, hmembers⟩ := keptMembers_cons.mp h.members
      obtain ⟨m, rfl⟩ := exists_succ (.obj ((name, j) :: members)) n (by omega)
      rw [length_chars_obj] at hn
      rw [chars_obj, nameChars, stringChars, List.cons_append, List.cons_append, value_object m]
      exact members_chars members hmembers name j (reads_chars j hj) m [] rest (by omega)
        (by simpa using h.names.1)

/-- The items of a list are read up to the closing bracket. -/
theorem items_chars : ∀ rest' : List Json, KeptItems rest' → ∀ item, Reads item →
    ∀ n read rest, 2 * (item.chars.length + (itemsChars rest').length) ≤ n →
      items n read (item.chars ++ (itemsChars rest' ++ rest)) =
        .ok (.arr (read.reverse ++ item :: rest'), rest)
  | [], _ => by
      intro item hitem n read rest hn
      obtain ⟨m, rfl⟩ := exists_succ item n (by omega)
      have hread := hitem m (']' :: rest) (by simp [itemsChars] at hn; omega)
        (endsNumber_itemsChars [] rest)
      rw [show itemsChars [] ++ rest = ']' :: rest from rfl, items_last hread, List.reverse_cons]
  | next :: rest', h => by
      intro item hitem n read rest hn
      obtain ⟨hnext, hrest'⟩ := keptItems_cons.mp h
      obtain ⟨m, rfl⟩ := exists_succ item n (by omega)
      rw [length_itemsChars_cons] at hn
      have hread := hitem m _ (by omega) (endsNumber_itemsChars (next :: rest') rest)
      rw [itemsChars_cons] at hread ⊢
      rw [items_cons (opensValue_chars next) hread,
        items_chars rest' hrest' next (reads_chars next hnext) m (item :: read) rest (by omega),
        List.reverse_cons, List.append_assoc]
      rfl

/-- The members of an object are read up to the closing bracket. -/
theorem members_chars : ∀ rest' : List (String × Json), KeptMembers rest' → ∀ name j, Reads j →
    ∀ n read rest,
      2 * ((nameChars name).length + j.chars.length + (membersChars rest').length) ≤ n →
      (read.map Prod.fst ++ name :: rest'.map Prod.fst).Nodup →
      members n read (nameChars name ++ (j.chars ++ (membersChars rest' ++ rest))) =
        .ok (.obj (read ++ (name, j) :: rest'), rest)
  | [], _ => by
      intro name j hj n read rest hn hnames
      obtain ⟨m, rfl⟩ := exists_succ j n (by omega)
      have hread := hj m ('\x7d' :: rest) (by simp [membersChars] at hn; omega)
        (endsNumber_membersChars [] rest)
      rw [show membersChars [] ++ rest = '\x7d' :: rest from rfl,
        members_last (opensValue_chars j) hread, setMember_new (notMem_of_nodup hnames)]
  | (name', j') :: rest', h => by
      intro name j hj n read rest hn hnames
      obtain ⟨hj', hrest'⟩ := keptMembers_cons.mp h
      obtain ⟨m, rfl⟩ := exists_succ j n (by omega)
      rw [length_membersChars_cons] at hn
      have hread := hj m _ (by omega) (endsNumber_membersChars ((name', j') :: rest') rest)
      have hnames' : ((read ++ [(name, j)]).map Prod.fst ++ name' :: rest'.map Prod.fst).Nodup := by
        simpa using hnames
      rw [membersChars_cons] at hread ⊢
      rw [members_cons (opensValue_chars j) (opensValue_nameChars name') hread,
        setMember_new (notMem_of_nodup hnames),
        members_chars rest' hrest' name' j' (reads_chars j' hj') m (read ++ [(name, j)]) rest
          (by omega) hnames', List.append_assoc]
      rfl

end

/-- **The text of a value is read as the value.** -/
theorem read_render {j : Json} (h : Kept j) : read j.render = .ok j := by
  have hread := reads_chars j h (2 * j.chars.length + 1) [] (Nat.le_succ _) (by simp [EndsNumber])
  have hskip := skipSpace_opens (opensValue_chars j) []
  rw [List.append_nil] at hread hskip
  rw [read, render, String.toList_ofList]
  unfold ofChars
  split
  next r he =>
    obtain ⟨c, t, hchars, -, -, hmark⟩ := opensValue_chars j
    rw [he] at hchars
    exact absurd (List.cons.inj hchars).1.symm hmark
  next =>
    rw [hskip, hread]
    rfl

/-! ## The text stands on one line -/

theorem noLineEnd_of_isNumeralSign {c : Char} (h : isNumeralSign c = true) :
    isLineEnd c = false := by
  have hne {d : Char} (hd : isNumeralSign d = false) : c ≠ d := by
    rintro rfl
    rw [hd] at h
    cases h
  simp [isLineEnd, hne (d := '\n') rfl, hne (d := '\r') rfl]

theorem signed_noLineEnd (n : Spelling) (negative : Bool) :
    ∀ c ∈ n.signed negative, isLineEnd c = false := by
  intro c hc
  cases negative with
  | false => exact noLineEnd_of_isNumeralSign (n.isNumeralSign_of_mem c hc)
  | true =>
      rcases List.mem_cons.mp hc with rfl | hc
      · rfl
      · exact noLineEnd_of_isNumeralSign (n.isNumeralSign_of_mem c hc)

theorem float_noLineEnd (x : Binary64) : ∀ c ∈ (float x).chars, isLineEnd c = false := by
  cases x with
  | nan => decide
  | infinite negative => cases negative <;> decide
  | finite negative e f =>
      obtain ⟨n, htext, -⟩ := render_signed numberLayout negative e f
      rw [chars, htext]
      exact signed_noLineEnd n negative

mutual

theorem chars_noLineEnd : ∀ j : Json, ∀ c ∈ j.chars, isLineEnd c = false
  | .null => by decide
  | .bool b => by cases b <;> decide
  | .int i => by
      rw [chars, showInt_signed]
      exact signed_noLineEnd _ _
  | .float x => float_noLineEnd x
  | .str s => stringChars_noLineEnd s
  | .arr [] => by decide
  | .arr (item :: items) => by
      have hitem := chars_noLineEnd item
      have hitems := itemsChars_noLineEnd items
      simp only [chars, List.forall_mem_cons, List.forall_mem_append]
      exact ⟨rfl, hitem, hitems⟩
  | .obj [] => by decide
  | .obj ((name, j) :: members) => by
      have hj := chars_noLineEnd j
      have hmembers := membersChars_noLineEnd members
      simp only [chars, List.forall_mem_cons, List.forall_mem_append]
      exact ⟨rfl, stringChars_noLineEnd name, rfl, rfl, hj, hmembers⟩

theorem itemsChars_noLineEnd : ∀ items : List Json, ∀ c ∈ itemsChars items, isLineEnd c = false
  | [] => by decide
  | item :: items => by
      have hitem := chars_noLineEnd item
      have hitems := itemsChars_noLineEnd items
      simp only [itemsChars, List.forall_mem_cons, List.forall_mem_append]
      exact ⟨rfl, rfl, hitem, hitems⟩

theorem membersChars_noLineEnd : ∀ members : List (String × Json),
    ∀ c ∈ membersChars members, isLineEnd c = false
  | [] => by decide
  | (name, j) :: members => by
      have hj := chars_noLineEnd j
      have hmembers := membersChars_noLineEnd members
      simp only [membersChars, List.forall_mem_cons, List.forall_mem_append]
      exact ⟨rfl, rfl, stringChars_noLineEnd name, rfl, rfl, hj, hmembers⟩

end

/-- The text of an object stands between braces. -/
theorem exists_chars_obj (members : List (String × Json)) :
    ∃ s, (obj members).chars = '\x7b' :: (s ++ ['\x7d']) := by
  have hclosed (members : List (String × Json)) :
      ∃ s, membersChars members = s ++ ['\x7d'] := by
    induction members with
    | nil => exact ⟨[], rfl⟩
    | cons entry members ih =>
        obtain ⟨name, j⟩ := entry
        obtain ⟨s, hs⟩ := ih
        exact ⟨',' :: ' ' :: (stringChars name ++ ':' :: ' ' :: (j.chars ++ s)), by
          simp [membersChars, hs]⟩
  cases members with
  | nil => exact ⟨[], rfl⟩
  | cons entry members =>
      obtain ⟨name, j⟩ := entry
      obtain ⟨s, hs⟩ := hclosed members
      exact ⟨stringChars name ++ ':' :: ' ' :: (j.chars ++ s), by simp [chars, hs]⟩

end QuestionBank.Json
