import QuestionBank.Bank.Sink
import QuestionBank.Proofs.Bank.RoundTrip

/-!
# Records that are added to a bank

A bank in a file takes a record as a whole line at the end of the file, or refuses it and
stays as it was. Whatever is offered to it, the bank is loaded as what it held before and the
records that were taken, in order. A bank that takes nothing is not made a file.
-/

namespace QuestionBank

open QuestionBank.Json

/-! ## Lines at the end of a text -/

namespace Text

/-- A text is empty or its last line is ended. -/
def EndsLine (text : String) : Prop := text = "" ∨ ∃ t, text = t ++ "\n"

/-- The line ends in front of a line feed do not depend on what follows. -/
theorem withLineFeeds_append_lineFeed (s : List Char) :
    ∃ t, ∀ r, withLineFeeds (s ++ '\n' :: r) = t ++ '\n' :: withLineFeeds r := by
  induction s using withLineFeeds.induct with
  | case1 => exact ⟨[], fun r => by simp [withLineFeeds]⟩
  | case2 s ih =>
      obtain ⟨t, ht⟩ := ih
      exact ⟨'\n' :: t, fun r => by simp [withLineFeeds, ht]⟩
  | case3 s hfeed ih =>
      cases s with
      | nil => exact ⟨[], fun r => by simp [withLineFeeds]⟩
      | cons c s =>
          obtain ⟨t, ht⟩ := ih
          refine ⟨'\n' :: t, fun r => ?_⟩
          have hnext : ∀ r', (c :: s) ++ '\n' :: r = '\n' :: r' → False := by
            intro r' he
            obtain ⟨rfl, -⟩ := List.cons.inj he
            exact hfeed s rfl
          rw [List.cons_append, withLineFeeds.eq_3 _ hnext, ht, List.cons_append]
  | case4 c s hboth hreturn ih =>
      obtain ⟨t, ht⟩ := ih
      refine ⟨c :: t, fun r => ?_⟩
      have hc : c ≠ '\r' := by
        rintro rfl
        exact hreturn rfl
      rw [List.cons_append, withLineFeeds.eq_4 _ _ (fun _ h => absurd h hc) hc, ht,
        List.cons_append]

theorem linesFrom_append_lineFeed (line s r : List Char) :
    linesFrom line (s ++ '\n' :: r) = linesFrom line (s ++ ['\n']) ++ linesFrom [] r := by
  induction s generalizing line with
  | nil => simp [linesFrom]
  | cons c s ih =>
      by_cases hc : c = '\n'
      · simp [linesFrom, hc, ih]
      · simp [linesFrom, hc, ih]

/-- What is written behind the last line is read behind the lines. -/
theorem lines_append {text : String} (h : EndsLine text) (added : String) :
    lines (text ++ added) = lines text ++ lines added := by
  rcases h with rfl | ⟨t, rfl⟩
  · have hnil : lines "" = [] := rfl
    rw [hnil, String.empty_append, List.nil_append]
  · obtain ⟨s, hs⟩ := withLineFeeds_append_lineFeed t.toList
    have htext (r : List Char) : (t ++ "\n").toList ++ r = t.toList ++ '\n' :: r := by simp
    have hended : withLineFeeds (t ++ "\n").toList = s ++ ['\n'] := by
      rw [← List.append_nil (t ++ "\n").toList, htext, hs]
      rfl
    rw [lines, lines, lines, String.toList_append, htext, hs, hended, linesFrom_append_lineFeed,
      List.map_append]

end Text

/-- Objects that are written behind the last line of a bank are read behind its values. -/
theorem valuesOfLines_append {text : String} {old : List Json} (h : Text.EndsLine text)
    (hold : valuesOfLines text = .ok old) {objects : List (List (String × Json))}
    (hkept : ∀ members ∈ objects, Kept (.obj members)) :
    valuesOfLines (text ++ String.ofList (Text.joinLines (objects.map fun m => (obj m).chars))) =
      .ok (old ++ objects.map .obj) := by
  have honeLine : ∀ s ∈ objects.map fun m => (obj m).chars, Text.OneLine s := by
    intro s hs
    obtain ⟨members, -, rfl⟩ := List.mem_map.mp hs
    exact chars_noLineEnd _
  have hread : List.Forall₂ (fun l v => Text.strip l = l ∧ l.isEmpty = false ∧
      ∀ number, valueOfLine number l = .ok v)
      (Text.lines (String.ofList (Text.joinLines (objects.map fun m => (obj m).chars))))
      (objects.map .obj) := by
    rw [Text.lines_joinLines honeLine, List.map_map, List.forall₂_map_left_iff,
      List.forall₂_map_right_iff, List.forall₂_same]
    intro members hmembers
    exact ⟨render_obj_strip members, render_obj_isEmpty members,
      valueOfLine_render (hkept members hmembers)⟩
  -- The lines that are added have the numbers behind those of the bank.
  have hadded := mapM_numbered hread (Text.lines text).length
  rw [valuesOfLines, Text.lines_append h, List.zipIdx_append, List.map_append, List.filter_append,
    Traversal.mapM_eq_ok_iff]
  rw [valuesOfLines, Traversal.mapM_eq_ok_iff] at hold
  rw [Traversal.mapM_eq_ok_iff] at hadded
  rw [Nat.zero_add]
  exact List.rel_append hold hadded

/-! ## Files -/

/-- What is written to a file is not read from another one. -/
theorem read?_write_of_ne (files : Files) {path other : String} (text : String)
    (h : other ≠ path) : (files.write path text).read? other = files.read? other := by
  obtain ⟨entries⟩ := files
  show (Files.put path text entries).lookup other = entries.lookup other
  induction entries with
  | nil =>
      rw [Files.put, List.lookup_cons, beq_eq_false_iff_ne.mpr h]
  | cons entry entries ih =>
      obtain ⟨p, t⟩ := entry
      rw [Files.put]
      split
      next hp =>
        have hother : other ≠ p := hp ▸ h
        rw [List.lookup_cons, List.lookup_cons, beq_eq_false_iff_ne.mpr hother]
      next =>
        rw [List.lookup_cons, List.lookup_cons, ih]

/-! ## One record -/

variable {path : String} {strict : Bool} {bank bank' bank'' : FileBank} {r : Record}

/-- A record passes the check of a bank, and its integers can be written. -/
def Record.Storable (strict : Bool) (r : Record) : Prop :=
  violation? strict r.storedMembers = none ∧ r.toJson.isWritable = true

instance (strict : Bool) (r : Record) : Decidable (r.Storable strict) :=
  inferInstanceAs (Decidable (_ ∧ _))

/-- A bank refuses a record that is not valid. -/
theorem file_add_of_violation {violation : Violation}
    (h : violation? strict r.storedMembers = some violation) :
    (Sink.file path strict).add bank r = .error (.invalid violation) := by
  have hobj : r.toJson = .obj r.storedMembers := rfl
  simp only [Sink.file, hobj, h]

theorem appendValues_singleton (files : Files) (path : String) (j : Json) :
    files.appendValues path [j] =
      if j.isWritable then .ok (files.append path (j.render ++ "\n"))
      else .error .integerTooLong := by
  by_cases hj : j.isWritable = true
  · have hline : bankLine j = .ok (j.render ++ "\n") := if_pos hj
    have hlines : [j].mapM bankLine = .ok [j.render ++ "\n"] := by
      rw [Traversal.mapM_eq_ok_iff]
      exact .cons hline .nil
    rw [Files.appendValues, hlines, if_pos hj]
    simp [Except.map, String.join]
  · have hline : bankLine j = .error .integerTooLong := if_neg hj
    have hlines : [j].mapM bankLine = .error .integerTooLong := Traversal.mapM_cons_error [] hline
    rw [Files.appendValues, hlines, if_neg hj]
    rfl

/-- A bank takes a record that can be stored as one line at the end of its file. -/
theorem file_add_of_storable (h : r.Storable strict) :
    (Sink.file path strict).add bank r =
      .ok ⟨bank.files.append path (r.toJson.render ++ "\n"), bank.written + 1⟩ := by
  have hobj : r.toJson = .obj r.storedMembers := rfl
  obtain ⟨hvalid, hwritable⟩ := h
  have happend := appendValues_singleton bank.files path r.toJson
  rw [if_pos hwritable] at happend
  simp only [Sink.file, hobj, hvalid] at happend ⊢
  rw [happend]

/-- A bank refuses a valid record with an integer that is too long to be written. -/
theorem file_add_of_not_writable (hvalid : violation? strict r.storedMembers = none)
    (h : r.toJson.isWritable = false) :
    (Sink.file path strict).add bank r = .error (.broken .integerTooLong) := by
  have hobj : r.toJson = .obj r.storedMembers := rfl
  have happend := appendValues_singleton bank.files path r.toJson
  rw [if_neg (by simp [h])] at happend
  simp only [Sink.file, hobj, hvalid] at happend ⊢
  rw [happend]

/-- What is not storable is refused. -/
theorem file_add_of_not_storable (h : ¬ r.Storable strict) :
    (∃ violation, (Sink.file path strict).add bank r = .error (.invalid violation)) ∨
      (r.toJson.isWritable = false ∧
        (Sink.file path strict).add bank r = .error (.broken .integerTooLong)) := by
  cases hvalid : violation? strict r.storedMembers with
  | some violation => exact .inl ⟨violation, file_add_of_violation hvalid⟩
  | none =>
      have hwritable : r.toJson.isWritable = false := by
        rw [Bool.eq_false_iff]
        exact fun hwritable => h ⟨hvalid, hwritable⟩
      exact .inr ⟨hwritable, file_add_of_not_writable hvalid hwritable⟩

/-! ## Records one after the other -/

/-- Offers records to a sink, one after the other. A record that is refused is passed over. The
last state of the sink is given, with the records that it took. -/
def Sink.addEach {σ : Type} (s : Sink σ) : σ → List Record → σ × List Record
  | held, [] => (held, [])
  | held, r :: records =>
    match s.add held r with
    | .error _ => s.addEach held records
    | .ok held' =>
      let (last, taken) := s.addEach held' records
      (last, r :: taken)

/-- A bank after records were added to it: each stands on a line of its own at the end of the
file, and is counted. A bank to which none is added is as it was, and no other file changes. -/
structure Added (path : String) (bank : FileBank) (taken : List Record) (bank' : FileBank) :
    Prop where
  written : bank'.written = bank.written + taken.length
  unchanged : taken = [] → bank' = bank
  text : taken ≠ [] → bank'.files.read? path = some ((bank.files.read? path).getD "" ++
    String.ofList (Text.joinLines (taken.map fun r => r.toJson.chars)))
  others : ∀ other, other ≠ path → bank'.files.read? other = bank.files.read? other

theorem Added.refl (path : String) (bank : FileBank) : Added path bank [] bank :=
  ⟨rfl, fun _ => rfl, fun h => absurd rfl h, fun _ _ => rfl⟩

theorem added_append (path : String) (bank : FileBank) (r : Record) :
    Added path bank [r]
      ⟨bank.files.append path (r.toJson.render ++ "\n"), bank.written + 1⟩ := by
  refine ⟨rfl, ?_, ?_, ?_⟩
  · intro hnil
    cases hnil
  · intro _
    rw [Files.append, read?_write, List.map_singleton, Text.joinLines_cons, render]
    apply congrArg some
    apply String.toList_inj.mp
    simp [Text.joinLines]
  · intro other hother
    exact read?_write_of_ne _ _ hother

/-- The text of a file that records are added to; a file that does not exist has none. -/
theorem Added.text_eq {taken : List Record} (h : Added path bank taken bank') :
    (bank'.files.read? path).getD "" = (bank.files.read? path).getD "" ++
      String.ofList (Text.joinLines (taken.map fun r => r.toJson.chars)) := by
  by_cases htaken : taken = []
  · rw [h.unchanged htaken, htaken]
    apply String.toList_inj.mp
    simp [Text.joinLines]
  · rw [h.text htaken]
    rfl

theorem Added.trans {taken taken' : List Record} (h : Added path bank taken bank')
    (h' : Added path bank' taken' bank'') : Added path bank (taken ++ taken') bank'' := by
  refine ⟨?_, ?_, ?_, ?_⟩
  · rw [h'.written, h.written, List.length_append, Nat.add_assoc]
  · intro hnil
    obtain ⟨rfl, rfl⟩ := List.append_eq_nil_iff.mp hnil
    rw [h'.unchanged rfl, h.unchanged rfl]
  · intro hne
    by_cases htaken' : taken' = []
    · subst htaken'
      rw [List.append_nil] at hne ⊢
      rw [h'.unchanged rfl]
      exact h.text hne
    · rw [h'.text htaken', h.text_eq, List.map_append, Text.joinLines, Text.joinLines,
        Text.joinLines, List.flatMap_append, String.ofList_append, String.append_assoc]
  · intro other hother
    rw [h'.others other hother, h.others other hother]

/-- Records that are offered one after the other are taken if they are storable. -/
theorem added_addEach (path : String) (strict : Bool) (bank : FileBank) (records : List Record) :
    ((Sink.file path strict).addEach bank records).2 = records.filter (Record.Storable strict) ∧
    Added path bank ((Sink.file path strict).addEach bank records).2
      ((Sink.file path strict).addEach bank records).1 := by
  induction records generalizing bank with
  | nil => exact ⟨rfl, .refl path bank⟩
  | cons r records ih =>
      by_cases hr : r.Storable strict
      · obtain ⟨htaken, hadded⟩ := ih
          ⟨bank.files.append path (r.toJson.render ++ "\n"), bank.written + 1⟩
        have hadd : (Sink.file path strict).add bank r =
            .ok ⟨bank.files.append path (r.toJson.render ++ "\n"), bank.written + 1⟩ :=
          file_add_of_storable hr
        rw [Sink.addEach, hadd]
        dsimp only
        constructor
        · rw [htaken, List.filter_cons_of_pos (by simpa using hr)]
        · exact (added_append path bank r).trans hadded
      · have hpassed : (Sink.file path strict).addEach bank (r :: records) =
            (Sink.file path strict).addEach bank records := by
          rcases file_add_of_not_storable hr with ⟨violation, hadd⟩ | ⟨-, hadd⟩
          · rw [Sink.addEach, hadd]
          · rw [Sink.addEach, hadd]
        rw [hpassed, List.filter_cons_of_neg (by simpa using hr)]
        exact ih bank

/-- A bank is absent, or its last line is ended and it is loaded as values. -/
inductive HoldsValues (files : Files) (path : String) : List Json → Prop
  | absent (h : files.read? path = none) : HoldsValues files path []
  | present {text : String} {old : List Json} (h : files.read? path = some text)
      (hends : Text.EndsLine text) (hvalues : valuesOfLines text = .ok old) :
      HoldsValues files path old

/-- A bank is loaded as what it held and what was added to it, unless it is still absent. -/
theorem loadValues_of_added {taken : List Record} {old : List Json}
    (h : Added path bank taken bank') (hold : HoldsValues bank.files path old)
    (hkept : ∀ r ∈ taken, Kept r.toJson) :
    ((bank.files.read? path).isSome ∨ taken ≠ [] →
      bank'.files.loadValues path = .ok (old ++ taken.map Record.toJson)) ∧
    (bank.files.read? path = none → taken = [] →
      bank'.files.loadValues path = .error (.missingFile path)) := by
  constructor
  · intro hfile
    obtain ⟨text, hends, hvalues, htext⟩ : ∃ text, Text.EndsLine text ∧
        valuesOfLines text = .ok old ∧ (bank.files.read? path).getD "" = text := by
      cases hold with
      | absent hnone => exact ⟨"", .inl rfl, rfl, by rw [hnone]; rfl⟩
      | @present text _ hsome hends hvalues =>
          exact ⟨text, hends, hvalues, by rw [hsome]; rfl⟩
    have hread : bank'.files.read? path = some (text ++
        String.ofList (Text.joinLines (taken.map fun r => r.toJson.chars))) := by
      by_cases htaken : taken = []
      · -- Nothing is added, so that there was a file before.
        obtain ⟨text', htext'⟩ :=
          Option.isSome_iff_exists.mp (hfile.resolve_right (not_not.mpr htaken))
        rw [htext'] at htext
        obtain rfl : text' = text := htext
        rw [h.unchanged htaken, htext', htaken]
        exact congrArg some (String.append_empty).symm
      · rw [h.text htaken, htext]
    have hkept' : ∀ members ∈ taken.map Record.storedMembers, Kept (.obj members) := by
      intro members hmembers
      obtain ⟨r, hr, rfl⟩ := List.mem_map.mp hmembers
      exact hkept r hr
    have hloaded := valuesOfLines_append hends hvalues hkept'
    rw [List.map_map, List.map_map] at hloaded
    rw [Files.loadValues, hread]
    exact hloaded
  · intro hnone htaken
    rw [h.unchanged htaken, Files.loadValues, hnone]

/-- A bank after records were offered to it, with those that it took: it took the ones that are
storable, and is loaded as what it held before and these, unless it is still absent. -/
structure BankAfter (path : String) (strict : Bool) (bank : FileBank) (old : List Json)
    (records : List Record) (bank' : FileBank) (taken : List Record) : Prop where
  taken_eq : taken = records.filter (Record.Storable strict)
  added : Added path bank taken bank'
  loads : (bank.files.read? path).isSome ∨ taken ≠ [] →
    bank'.files.loadValues path = .ok (old ++ taken.map Record.toJson)
  missing : bank.files.read? path = none → taken = [] →
    bank'.files.loadValues path = .error (.missingFile path)

theorem bankAfter_addEach {old : List Json} {records : List Record}
    (hold : HoldsValues bank.files path old) (hnames : ∀ r ∈ records, NamesOnce r.toJson)
    (hfloats : ∀ r ∈ records, ∀ x ∈ floats r.toJson, ReadsBack x) :
    BankAfter path strict bank old records ((Sink.file path strict).addEach bank records).1
      ((Sink.file path strict).addEach bank records).2 := by
  obtain ⟨htaken, hadded⟩ := added_addEach path strict bank records
  have hkept : ∀ r ∈ ((Sink.file path strict).addEach bank records).2, Kept r.toJson := by
    intro r hr
    rw [htaken, List.mem_filter, decide_eq_true_eq] at hr
    obtain ⟨hr, hstorable⟩ := hr
    exact ⟨hnames r hr, hstorable.2, hfloats r hr⟩
  obtain ⟨hloads, hmissing⟩ := loadValues_of_added hadded hold hkept
  exact ⟨htaken, hadded, hloads, hmissing⟩

/-- **A bank in a file takes a record as a whole or not at all.** Each record is refused as not
valid, or, if one of its integers is too long, cannot be written, or it becomes one line at the
end of the file and is counted. So a bank that was absent, or was loaded as values and ended its
last line, is loaded afterwards as what it held and the records that it took, in order; but it
stays absent if it took none. The records of questions are among them. -/
theorem file_bank_added (path : String) (strict : Bool) :
    (∀ bank r, (∃ violation, (Sink.file path strict).add bank r = .error (.invalid violation)) ∨
      (r.toJson.isWritable = false ∧
        (Sink.file path strict).add bank r = .error (.broken .integerTooLong)) ∨
      ∃ bank', (Sink.file path strict).add bank r = .ok bank' ∧
        bank'.written = bank.written + 1 ∧
        bank'.files.read? path =
          some ((bank.files.read? path).getD "" ++ (r.toJson.render ++ "\n")) ∧
        Text.OneLine r.toJson.render.toList ∧
        ∀ other, other ≠ path → bank'.files.read? other = bank.files.read? other) ∧
    (∀ bank old records, HoldsValues bank.files path old →
      (∀ r ∈ records, NamesOnce r.toJson) →
      (∀ r ∈ records, ∀ x ∈ floats r.toJson, ReadsBack x) →
        BankAfter path strict bank old records ((Sink.file path strict).addEach bank records).1
          ((Sink.file path strict).addEach bank records).2) ∧
    ∀ bank old (questions : List Question), HoldsValues bank.files path old →
      (∀ q ∈ questions, ∀ x ∈ floats q.toRecord.toJson, ReadsBack x) →
        BankAfter path strict bank old (questions.map Question.toRecord)
          ((Sink.file path strict).addEach bank (questions.map Question.toRecord)).1
          ((Sink.file path strict).addEach bank (questions.map Question.toRecord)).2 := by
  refine ⟨?_, ?_, ?_⟩
  · intro bank r
    by_cases hr : r.Storable strict
    · have honeLine : Text.OneLine r.toJson.render.toList := by
        rw [render, String.toList_ofList]
        exact chars_noLineEnd r.toJson
      exact .inr (.inr ⟨_, file_add_of_storable hr, rfl, read?_write _ _ _, honeLine,
        (added_append path bank r).others⟩)
    · rcases file_add_of_not_storable hr with hinvalid | hlong
      · exact .inl hinvalid
      · exact .inr (.inl hlong)
  · intro bank old records hold hnames hfloats
    exact bankAfter_addEach hold hnames hfloats
  · intro bank old questions hold hfloats
    apply bankAfter_addEach hold
    · exact List.forall_mem_map.mpr fun q _ => (shaped_toRecord q).namesOnce
    · exact List.forall_mem_map.mpr hfloats

/-- A marker, a question of an unknown kind and one without a name. -/
def offeredQuestions : List Question :=
  [.categoryMarker "Trees", ⟨{ name := "spot" }, .unknown "HOTSPOT"⟩,
    ⟨{ name := "" }, .essay "editor" 15 ""⟩]

/-- A strict bank with one value takes the marker only and is loaded with it. -/
theorem file_bank_added_offered :
    BankAfter "bank" true ⟨⟨[("bank", "{}\n")]⟩, 0⟩ [.obj []]
        (offeredQuestions.map Question.toRecord)
        ((Sink.file "bank" true).addEach ⟨⟨[("bank", "{}\n")]⟩, 0⟩
          (offeredQuestions.map Question.toRecord)).1
        ((Sink.file "bank" true).addEach ⟨⟨[("bank", "{}\n")]⟩, 0⟩
          (offeredQuestions.map Question.toRecord)).2 ∧
      (offeredQuestions.map Question.toRecord).filter (Record.Storable true) =
        [(Question.categoryMarker "Trees").toRecord] := by
  constructor
  · have hold : HoldsValues ⟨[("bank", "{}\n")]⟩ "bank" [.obj []] :=
      .present rfl (.inr ⟨"{}", rfl⟩) rfl
    exact (file_bank_added "bank" true).2.2 _ _ offeredQuestions hold (by decide +kernel)
  · have hmarker : Record.Storable true (Question.categoryMarker "Trees").toRecord := by
      decide +kernel
    have hspot : ¬ Record.Storable true
        (⟨{ name := "spot" }, .unknown "HOTSPOT"⟩ : Question).toRecord := by decide +kernel
    have hnameless : ¬ Record.Storable true
        (⟨{ name := "" }, .essay "editor" 15 ""⟩ : Question).toRecord := by decide +kernel
    simp [offeredQuestions, hmarker, hspot, hnameless]

/-- A bank that is absent and takes nothing cannot be loaded. -/
theorem not_forall_file_bank_loads :
    ¬ ∀ (path : String) (strict : Bool) (bank : FileBank) (old : List Json)
        (questions : List Question), HoldsValues bank.files path old →
      (∀ q ∈ questions, ∀ x ∈ floats q.toRecord.toJson, ReadsBack x) →
        ((Sink.file path strict).addEach bank
            (questions.map Question.toRecord)).1.files.loadValues path =
          .ok (old ++ ((Sink.file path strict).addEach bank
            (questions.map Question.toRecord)).2.map Record.toJson) := by
  intro h
  let spot : Question := ⟨{ name := "spot" }, .unknown "HOTSPOT"⟩
  have hloaded := h "bank" true ⟨⟨[]⟩, 0⟩ [] [spot] (.absent rfl) (by decide +kernel)
  have hrefused : (Sink.file "bank" true).add ⟨⟨[]⟩, 0⟩ spot.toRecord =
      .error (.invalid .unstorable) := file_add_of_violation rfl
  rw [List.map_singleton, Sink.addEach, hrefused] at hloaded
  cases hloaded

end QuestionBank
