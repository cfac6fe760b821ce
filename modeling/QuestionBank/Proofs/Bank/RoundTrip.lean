import QuestionBank.Bank.Records
import QuestionBank.Proofs.Json.RoundTrip
import QuestionBank.Proofs.Question.Record
import QuestionBank.Proofs.Text.Strip

/-!
# Banks are loaded as they were saved

Records that are saved to a bank are loaded from it again, one for one and in order: each
stands on a line of its own, whatever its texts hold, and its line is read as the record. Only
an integer of too many digits stops the saving, and what stands behind it is not saved.
-/

namespace QuestionBank

open QuestionBank.Json

/-! ## Lines -/

namespace Text

/-- A text without line ends. -/
def OneLine (s : List Char) : Prop := ∀ c ∈ s, isLineEnd c = false

theorem withLineFeeds_cons {c : Char} (h : isLineEnd c = false) (r : List Char) :
    withLineFeeds (c :: r) = c :: withLineFeeds r := by
  have hreturn : c ≠ '\r' := by
    rintro rfl
    cases h
  conv_lhs => unfold withLineFeeds
  split <;> simp_all

theorem withLineFeeds_line {s : List Char} (h : OneLine s) (r : List Char) :
    withLineFeeds (s ++ '\n' :: r) = s ++ '\n' :: withLineFeeds r := by
  induction s with
  | nil =>
      rw [List.nil_append, List.nil_append]
      conv_lhs => unfold withLineFeeds
      rfl
  | cons c s ih =>
      obtain ⟨hc, hs⟩ := List.forall_mem_cons.mp h
      rw [List.cons_append, withLineFeeds_cons hc, ih hs, List.cons_append]

theorem linesFrom_line {s : List Char} (h : OneLine s) (line r : List Char) :
    linesFrom line (s ++ '\n' :: r) = (line.reverse ++ s) :: linesFrom [] r := by
  induction s generalizing line with
  | nil => rw [List.nil_append, linesFrom, if_pos rfl, List.append_nil]
  | cons c s ih =>
      obtain ⟨hc, hs⟩ := List.forall_mem_cons.mp h
      have hfeed : c ≠ '\n' := by
        rintro rfl
        cases hc
      rw [List.cons_append, linesFrom, if_neg hfeed, ih hs, List.reverse_cons, List.append_assoc]
      rfl

/-- Lines one after the other, each with its end. -/
def joinLines (ls : List (List Char)) : List Char := ls.flatMap fun s => s ++ ['\n']

theorem joinLines_cons (s : List Char) (ls : List (List Char)) :
    joinLines (s :: ls) = s ++ '\n' :: joinLines ls := by
  simp [joinLines]

theorem withLineFeeds_joinLines {ls : List (List Char)} (h : ∀ s ∈ ls, OneLine s) :
    withLineFeeds (joinLines ls) = joinLines ls := by
  induction ls with
  | nil => rfl
  | cons s ls ih =>
      obtain ⟨hs, hls⟩ := List.forall_mem_cons.mp h
      rw [joinLines_cons, withLineFeeds_line hs, ih hls]

theorem linesFrom_joinLines {ls : List (List Char)} (h : ∀ s ∈ ls, OneLine s) :
    linesFrom [] (joinLines ls) = ls := by
  induction ls with
  | nil => rfl
  | cons s ls ih =>
      obtain ⟨hs, hls⟩ := List.forall_mem_cons.mp h
      rw [joinLines_cons, linesFrom_line hs, ih hls]
      rfl

/-- Lines that are written one after the other are the lines of the text. -/
theorem lines_joinLines {ls : List (List Char)} (h : ∀ s ∈ ls, OneLine s) :
    lines (String.ofList (joinLines ls)) = ls.map String.ofList := by
  rw [lines, String.toList_ofList, withLineFeeds_joinLines h, linesFrom_joinLines h]

end Text

/-! ## Values on lines -/

theorem render_obj_strip (members : List (String × Json)) :
    Text.strip (obj members).render = (obj members).render := by
  obtain ⟨s, hs⟩ := exists_chars_obj members
  rw [render, hs]
  exact Text.strip_between (by decide) (by decide) s

theorem render_obj_isEmpty (members : List (String × Json)) :
    (obj members).render.isEmpty = false := by
  obtain ⟨s, hs⟩ := exists_chars_obj members
  rw [render, hs]
  simp

theorem valueOfLine_render {members : List (String × Json)} (h : Kept (.obj members))
    (number : Nat) : valueOfLine number (obj members).render = .ok (.obj members) := by
  rw [valueOfLine, read_render h]

/-- Lines without blanks around them are read one by one, whatever numbers they have. -/
theorem mapM_numbered {ε α : Type} {read : Nat → String → Except ε α} {ls : List String}
    {values : List α} (h : List.Forall₂ (fun l v => Text.strip l = l ∧ l.isEmpty = false ∧
      ∀ number, read number l = .ok v) ls values) (k : Nat) :
    (((ls.zipIdx k).map fun (line, i) => (i + 1, Text.strip line)).filter
      fun entry => !entry.2.isEmpty).mapM (fun (number, line) => read number line) =
        .ok values := by
  induction h generalizing k with
  | nil => rfl
  | @cons l v ls values hl _ ih =>
      obtain ⟨hstrip, hnonempty, hread⟩ := hl
      have hkept : (!(Text.strip l).isEmpty) = true := by
        rw [hstrip, hnonempty]
        rfl
      have hline : read (k + 1) (Text.strip l) = .ok v := by
        rw [hstrip]
        exact hread (k + 1)
      rw [List.zipIdx_cons, List.map_cons, List.filter_cons, if_pos hkept]
      let readEntry : Nat × String → Except ε α := fun (number, line) => read number line
      have hentry : readEntry (k + 1, Text.strip l) = .ok v := hline
      exact (Traversal.mapM_cons_ok _ hentry).trans (congrArg (Except.map _) (ih (k + 1)))

/-- The lines of objects are read as the objects. -/
theorem valuesOfLines_objects {objects : List (List (String × Json))}
    (h : ∀ members ∈ objects, Kept (.obj members)) :
    valuesOfLines (String.ofList (Text.joinLines (objects.map fun m => (obj m).chars))) =
      .ok (objects.map .obj) := by
  have honeLine : ∀ s ∈ objects.map fun m => (obj m).chars, Text.OneLine s := by
    intro s hs
    obtain ⟨members, -, rfl⟩ := List.mem_map.mp hs
    exact chars_noLineEnd _
  rw [valuesOfLines, Text.lines_joinLines honeLine, List.map_map]
  apply mapM_numbered
  rw [List.forall₂_map_left_iff, List.forall₂_map_right_iff, List.forall₂_same]
  intro members hmembers
  exact ⟨render_obj_strip members, render_obj_isEmpty members,
    valueOfLine_render (h members hmembers)⟩

/-! ## Files -/

/-- What is written to a file is read from it. -/
theorem read?_write (files : Files) (path text : String) :
    (files.write path text).read? path = some text := by
  obtain ⟨entries⟩ := files
  show (Files.put path text entries).lookup path = some text
  induction entries with
  | nil => rw [Files.put, List.lookup_cons_self]
  | cons entry entries ih =>
      obtain ⟨p, t⟩ := entry
      rw [Files.put]
      split
      next hp => rw [hp, List.lookup_cons_self]
      next hp =>
        rw [List.lookup_cons, beq_eq_false_iff_ne.mpr (Ne.symm hp)]
        exact ih

/-- Values are written up to the first that cannot be. -/
theorem writtenLines_result (js : List Json) :
    (writtenLines js).2 =
      if ∀ j ∈ js, j.isWritable = true then .ok () else .error .integerTooLong := by
  induction js with
  | nil => simp [writtenLines]
  | cons j js ih =>
      by_cases hj : j.isWritable = true
      · simp [writtenLines, bankLine, hj, ih]
      · simp [writtenLines, bankLine, hj]

theorem writtenLines_text {js : List Json} (h : ∀ j ∈ js, j.isWritable = true) :
    (writtenLines js).1 = String.ofList (Text.joinLines (js.map chars)) := by
  induction js with
  | nil => rfl
  | cons j js ih =>
      obtain ⟨hj, hjs⟩ := List.forall_mem_cons.mp h
      have hline : bankLine j = .ok (j.render ++ "\n") := if_pos hj
      rw [List.map_cons, Text.joinLines_cons, writtenLines, hline]
      dsimp only
      rw [ih hjs, render]
      apply String.toList_inj.mp
      simp

/-! ## Records -/

/-- Saving fails for the length of an integer, if one is too long. -/
theorem saveRecords_result (files : Files) (path : String) (records : List Record) :
    (files.saveRecords path records).2 =
      if ∀ r ∈ records, r.toJson.isWritable = true then .ok () else .error .integerTooLong := by
  show (writtenLines (records.map Record.toJson)).2 = _
  simp only [writtenLines_result, List.forall_mem_map]

/-- Saving ends well just when every integer can be written. -/
theorem saveRecords_ok_iff (files : Files) (path : String) (records : List Record) :
    (files.saveRecords path records).2 = .ok () ↔ ∀ r ∈ records, r.toJson.isWritable = true := by
  rw [saveRecords_result]
  split
  next hall => exact iff_of_true rfl hall
  next hnot => exact iff_of_false (by simp) hnot

/-- Saved records are loaded again. -/
theorem loadRecords_saveRecords (files : Files) (path : String) {records : List Record}
    (hshaped : ∀ r ∈ records, r.Shaped)
    (hfloats : ∀ r ∈ records, ∀ x ∈ floats r.toJson, ReadsBack x)
    (hsaved : (files.saveRecords path records).2 = .ok ()) :
    (files.saveRecords path records).1.loadRecords path false = .ok records := by
  have hwritable := (saveRecords_ok_iff files path records).mp hsaved
  have htext : (writtenLines (records.map Record.toJson)).1 =
      String.ofList (Text.joinLines
        ((records.map Record.storedMembers).map fun m => (obj m).chars)) := by
    rw [writtenLines_text (List.forall_mem_map.mpr hwritable), List.map_map, List.map_map]
    rfl
  have hkept : ∀ members ∈ records.map Record.storedMembers, Kept (.obj members) := by
    intro members hmembers
    obtain ⟨r, hr, rfl⟩ := List.mem_map.mp hmembers
    exact ⟨(hshaped r hr).namesOnce, hwritable r hr, hfloats r hr⟩
  have hvalues : (files.saveRecords path records).1.loadValues path =
      .ok ((records.map Record.storedMembers).map .obj) := by
    have hread : (files.saveRecords path records).1.read? path =
        some (writtenLines (records.map Record.toJson)).1 := read?_write files path _
    rw [Files.loadValues, hread, htext]
    exact valuesOfLines_objects hkept
  rw [Files.loadRecords, hvalues]
  show (((records.map Record.storedMembers).map Json.obj).mapM _ : Except LoadFault _) = .ok records
  rw [Traversal.mapM_eq_ok_iff, List.forall₂_map_left_iff, List.forall₂_map_left_iff,
    List.forall₂_same]
  intro r hr
  have hread : Record.ofStored false (.obj r.storedMembers) = .ok r :=
    Record.ofJson_toJson (hshaped r hr)
  rw [hread]

/-! ## Questions -/

/-- **Saved banks are loaded as they were.** Saving ends well just when every integer of the
records can be written, and then the same records are loaded, in order; otherwise it fails for
the length of an integer. The records of questions are among them, and tell the questions apart.
The text of each floating-point number is taken to read back as the number. -/
theorem saved_bank_loads (files : Files) (path : String) :
    (∀ records : List Record, (∀ r ∈ records, r.Shaped) →
      (∀ r ∈ records, ∀ x ∈ floats r.toJson, ReadsBack x) →
      (∀ r ∈ records, r.toJson.isWritable = true) →
      (files.saveRecords path records).2 = .ok () ∧
        (files.saveRecords path records).1.loadRecords path false = .ok records) ∧
    (∀ questions : List Question,
      (∀ q ∈ questions, ∀ x ∈ floats q.toRecord.toJson, ReadsBack x) →
      (∀ q ∈ questions, q.toRecord.toJson.isWritable = true) →
      (files.saveRecords path (questions.map Question.toRecord)).2 = .ok () ∧
        (files.saveRecords path (questions.map Question.toRecord)).1.loadRecords path false =
          .ok (questions.map Question.toRecord)) ∧
    (∀ records : List Record, (∃ r ∈ records, r.toJson.isWritable = false) →
      (files.saveRecords path records).2 = .error .integerTooLong) ∧
    Function.Injective Question.toRecord := by
  have hrecords : ∀ records : List Record, (∀ r ∈ records, r.Shaped) →
      (∀ r ∈ records, ∀ x ∈ floats r.toJson, ReadsBack x) →
      (∀ r ∈ records, r.toJson.isWritable = true) →
      (files.saveRecords path records).2 = .ok () ∧
        (files.saveRecords path records).1.loadRecords path false = .ok records := by
    intro records hshaped hfloats hwritable
    have hsaved := (saveRecords_ok_iff files path records).mpr hwritable
    exact ⟨hsaved, loadRecords_saveRecords files path hshaped hfloats hsaved⟩
  refine ⟨hrecords, ?_, ?_, toRecord_injective⟩
  · intro questions hfloats hwritable
    apply hrecords
    · exact List.forall_mem_map.mpr fun q _ => shaped_toRecord q
    · exact List.forall_mem_map.mpr hfloats
    · exact List.forall_mem_map.mpr hwritable
  · rintro records ⟨r, hr, hlong⟩
    have hnot : ¬ ∀ r ∈ records, r.toJson.isWritable = true := fun hall =>
      Bool.false_ne_true (hlong.symm.trans (hall r hr))
    rw [saveRecords_result, if_neg hnot]

/-- The number nearest to a third. -/
def third : Binary64 := .finite false ⟨1021, by decide⟩ 0x5555555555555#52

/-- Questions whose texts hold quotes, control characters and line separators. -/
def separatorQuestions : List Question :=
  [⟨{ name := "a \"b\" \\ c", text := "\u0085 and \u2028" },
      .multichoice [⟨"one\ntwo", .one, "\r"⟩, ⟨"\x00", third, ""⟩] true false "abc" "" "" ""⟩,
    ⟨{ name := "gap" }, .multianswer ⟨"{#1}",
      [⟨1, .numerical, 1, [⟨"0.1", true, "", some third⟩, ⟨"*", false, "no", none⟩]⟩]⟩⟩,
    ⟨{ name := "pairs" }, .matching [⟨"\u2029", "\x1c"⟩, ⟨"", "left"⟩] true "" ""⟩]

/-- They are loaded from the bank that they are saved to. -/
theorem saved_bank_loads_separators :
    ((⟨[]⟩ : Files).saveRecords "bank" (separatorQuestions.map Question.toRecord)).1.loadRecords
      "bank" false = .ok (separatorQuestions.map Question.toRecord) :=
  ((saved_bank_loads ⟨[]⟩ "bank").2.1 separatorQuestions
    (by decide +kernel) (by decide +kernel)).2

/-- An essay whose number of lines has too many digits cannot be written. -/
theorem isWritable_essay {header : Header} {responseFormat graderInfo : String} {fieldLines : Int}
    (h : 10 ^ Number.digitLimit ≤ fieldLines.natAbs) :
    (⟨header, .essay responseFormat fieldLines graderInfo⟩ : Question).toRecord.toJson.isWritable =
      false := by
  have hdigits : ¬ (Number.decimalDigits fieldLines.natAbs).length ≤ Number.digitLimit := by
    rw [Number.length_decimalDigits_le (by decide)]
    exact Nat.not_lt.mpr h
  simp [Question.toRecord, Record.toJson, Header.members, Body.members, isWritable,
    membersWritable, hdigits]

/-- An essay with a number of lines that is too long by one digit. -/
def longEssay : Question :=
  ⟨{ name := "essay" }, .essay "editor" (10 ^ Number.digitLimit : Nat) ""⟩

/-- An integer that is too long cannot be saved, and the bank is left empty. -/
theorem not_forall_saved_bank_loads :
    ¬ ∀ (files : Files) (path : String) (questions : List Question),
      (∀ q ∈ questions, ∀ x ∈ floats q.toRecord.toJson, ReadsBack x) →
      (files.saveRecords path (questions.map Question.toRecord)).1.loadRecords path false =
        .ok (questions.map Question.toRecord) := by
  intro h
  have hfloats : floats longEssay.toRecord.toJson = [] := rfl
  have hloaded := h ⟨[]⟩ "bank" [longEssay] (by simp [hfloats])
  have hline : bankLine longEssay.toRecord.toJson = .error .integerTooLong := by
    have hlong : longEssay.toRecord.toJson.isWritable = false := isWritable_essay le_rfl
    rw [bankLine, hlong, if_neg Bool.false_ne_true]
  have hsaved : ((⟨[]⟩ : Files).saveRecords "bank" [longEssay.toRecord]).1 =
      ⟨[("bank", "")]⟩ := by
    rw [Files.saveRecords, List.map_singleton, writtenLines, hline]
    rfl
  rw [List.map_singleton, hsaved] at hloaded
  cases hloaded

end QuestionBank
