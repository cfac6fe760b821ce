import QuestionBank.Command.Run
import QuestionBank.Proofs.Bank.Adding
import QuestionBank.Proofs.Import.Stored
import QuestionBank.Proofs.Json.Float

/-!
# Runs that ask for the strict check

A run writes one line for each question that it stores, and the line is read back as the record
of the question. A run with a bank checks each record before it adds the line, so that all lines
are valid. A run that writes to the standard output checks nothing: its lines are valid just
when the questions are sound and no pair is without an answer.
-/

namespace QuestionBank.Command

open QuestionBank.Document

variable {arguments : List String} {bytesOf : String → Option (List UInt8)} {files : Files}
  {time : String} {o : Options} {out : Outcome} {c : Config} {d : Diagnostics} {root : Node}
  {path : String} {strict : Bool}

/-! ## Runs that end well -/

theorem configOf_eq_ok (h : configOf files o = .ok c) :
    c.checked = .ok c ∧ c.strict = o.strict := by
  unfold configOf at h
  dsimp only at h
  split at h
  · cases h
  next template _ =>
    split at h
    next c' hchecked =>
      cases h
      have hsame {c c' : Config} (h : c.checked = .ok c') : c' = c := by
        unfold Config.checked at h
        split at h
        · cases h
        split at h
        · cases h
        split at h
        · cases h
        · cases h
          rfl
      obtain rfl := hsame hchecked
      exact ⟨hchecked, rfl⟩
    · cases h

/-- A run with exit code 0 imports its document. -/
theorem run_exit_zero (ho : Options.ofArguments arguments = .ok o)
    (hrun : run arguments bytesOf files time = .ok out) (hexit : out.exit = 0) :
    ∃ bytes c, bytesOf (o.input.getD "") = some bytes ∧ configOf files o = .ok c ∧
      (∀ path, o.output = some path →
        runToFile c o path time files ⟨fileName (o.input.getD ""), bytes⟩ = .ok out) ∧
      (o.output = none →
        runToOutput c o time files ⟨fileName (o.input.getD ""), bytes⟩ = .ok out) := by
  unfold run at hrun
  rw [ho] at hrun
  dsimp only at hrun
  split at hrun
  · cases hrun
    cases hexit
  next bytes hbytes =>
    split at hrun
    · cases hrun
      cases hexit
    next c hc =>
      refine ⟨bytes, c, hbytes, hc, ?_⟩
      split at hrun
      · cases hrun
        cases hexit
      · constructor
        · intro path hpath
          rw [hpath] at hrun
          exact hrun
        · intro hnone
          rw [hnone] at hrun
          exact hrun

/-- A run comes to its document: its arguments are options, its input is there, and its settings
are in order. -/
structure Started (arguments : List String) (bytesOf : String → Option (List UInt8))
    (files : Files) (o : Options) (bytes : List UInt8) (c : Config) : Prop where
  options : Options.ofArguments arguments = .ok o
  input : bytesOf (o.input.getD "") = some bytes
  config : configOf files o = .ok c

theorem Started.run_eq {bytes : List UInt8} (h : Started arguments bytesOf files o bytes c)
    (hnone : o.output = none)
    (hout : runToOutput c o time files ⟨fileName (o.input.getD ""), bytes⟩ = .ok out) :
    run arguments bytesOf files time = .ok out := by
  unfold run
  rw [h.options]
  dsimp only
  rw [h.input]
  dsimp only
  rw [h.config]
  dsimp only
  rw [hnone]
  dsimp only
  rw [hout]

theorem importSource_eq_ok {σ : Type} {s : Sink σ} {held : σ} {source : Source} {p : Progress σ}
    (h : importSource c s held none source = .ok p) :
    ∃ root, Document.read source.bytes = .ok (.ok root) ∧
      importDocument c s held { sourceName := source.name } root = .ok p := by
  unfold importSource at h
  split at h
  · cases h
  · cases h
  next root hroot => exact ⟨root, hroot, h⟩

/-! ## Lines and records -/

/-- The lines of the records of questions are read as the records. -/
theorem valuesOfLines_questions {questions : List Question}
    (h : ∀ q ∈ questions, q.toRecord.toJson.isWritable = true) :
    valuesOfLines (String.ofList (Text.joinLines
        (questions.map fun q => q.toRecord.toJson.chars))) =
      .ok (questions.map fun q => q.toRecord.toJson) := by
  have hkept : ∀ members ∈ questions.map (fun q => q.toRecord.storedMembers),
      Json.Kept (.obj members) := by
    intro members hmembers
    obtain ⟨q, hq, rfl⟩ := List.mem_map.mp hmembers
    exact ⟨(shaped_toRecord q).namesOnce, h q hq, fun x _ => Json.readsBack x⟩
  have hread := valuesOfLines_objects hkept
  rw [List.map_map, List.map_map] at hread
  exact hread

/-- A bank in a file holds what was stored of an import behind what it held before, and each
record passes its check. -/
theorem importDocument_file {bank : FileBank} {p : Progress FileBank}
    (h : importDocument c (Sink.file path strict) bank d root = .ok p) :
    Added path bank (p.questions.map Question.toRecord) p.sink ∧
      ∀ q ∈ p.questions, q.toRecord.Storable strict := by
  refine importDocument_keeps (P := fun held questions =>
    Added path bank (questions.map Question.toRecord) held ∧
      ∀ q ∈ questions, q.toRecord.Storable strict) ?_ h ⟨.refl path bank, List.forall_mem_nil _⟩
  rintro held held' questions question ⟨hadded, hstorable⟩ htaken
  by_cases hquestion : question.toRecord.Storable strict
  · rw [file_add_of_storable hquestion] at htaken
    cases htaken
    constructor
    · rw [List.map_append, List.map_singleton]
      exact hadded.trans (added_append path held question.toRecord)
    · rw [List.forall_mem_append]
      exact ⟨hstorable, List.forall_mem_singleton.mpr hquestion⟩
  · rcases file_add_of_not_storable hquestion with ⟨violation, hrefused⟩ | ⟨-, hrefused⟩
    · rw [hrefused] at htaken
      cases htaken
    · rw [hrefused] at htaken
      cases htaken

/-- Lines of a bank that are written one after the other are the text of their values. -/
theorem join_bankLines {values : List Json} {lines : List String}
    (h : values.mapM bankLine = .ok lines) :
    (∀ v ∈ values, v.isWritable = true) ∧
      String.join lines = String.ofList (Text.joinLines (values.map Json.chars)) := by
  have hlines := Traversal.mapM_eq_ok_iff.mp h
  suffices hboth : (∀ v ∈ values, v.isWritable = true) ∧
      lines.flatMap String.toList = Text.joinLines (values.map Json.chars) by
    refine ⟨hboth.1, String.toList_inj.mp ?_⟩
    rw [String.toList_join, String.toList_ofList]
    exact hboth.2
  clear h
  induction hlines with
  | nil => exact ⟨List.forall_mem_nil _, rfl⟩
  | @cons v line values lines hline _ ih =>
      obtain ⟨hwritable, htext⟩ := ih
      unfold bankLine at hline
      split at hline
      next hv =>
        cases hline
        constructor
        · exact List.forall_mem_cons.mpr ⟨hv, hwritable⟩
        · rw [List.flatMap_cons, htext, List.map_cons, Text.joinLines_cons, Json.render]
          simp
      next => cases hline

/-- The lines of a text are read as values that all pass the strict check. -/
def AllValid (text : String) : Prop :=
  ∃ values, valuesOfLines text = .ok values ∧ ∀ v ∈ values, validate true v = .ok ()

theorem allValid_iff {text : String} {values : List Json} (h : valuesOfLines text = .ok values) :
    AllValid text ↔ ∀ v ∈ values, validate true v = .ok () := by
  constructor
  · rintro ⟨values', h', hvalid⟩
    rw [h] at h'
    cases h'
    exact hvalid
  · intro hvalid
    exact ⟨values, h, hvalid⟩

/-! ## What a run writes -/

/-- What a run with a bank does: the lines that it adds stand behind what the bank held, and are
read as the records of the questions that it stored, all of them valid. -/
def AddsToBank (c : Config) (o : Options) (time path : String) (files : Files) (root : Node)
    (d : Diagnostics) (out : Outcome) : Prop :=
  ∃ p text, importDocument c (Sink.file path true) { files } d root = .ok p ∧
    out.files = withReport o time p.diagnostics p.sink.files ∧
    (p.sink.files.read? path).getD "" = (files.read? path).getD "" ++ text ∧
    valuesOfLines text = .ok (p.questions.map fun q => q.toRecord.toJson) ∧ AllValid text

/-- What a run without a bank does: the lines on the standard output are read as the records of
the questions that it stored. They are valid just when the questions are sound and no pair is
without an answer; in a quiet document only such a pair is not valid. -/
def WritesToOutput (c : Config) (root : Node) (d : Diagnostics) (out : Outcome) : Prop :=
  ∃ p, importDocument c Sink.memory [] d root = .ok p ∧
    valuesOfLines out.stdout = .ok (p.questions.map fun q => q.toRecord.toJson) ∧
    (AllValid out.stdout ↔ ∀ q ∈ p.questions, q.Sound ∧ ¬ q.HasEmptyAnswer) ∧
    (QuietDocument c root → (AllValid out.stdout ↔ ∀ q ∈ p.questions, ¬ q.HasEmptyAnswer))

theorem addsToBank (hstrict : c.strict = true) {source : Source}
    (h : runToFile c o path time files source = .ok out) :
    ∃ root, Document.read source.bytes = .ok (.ok root) ∧
      AddsToBank c o time path files root { sourceName := source.name } out := by
  rw [runToFile, Traversal.map_eq_ok_iff, hstrict] at h
  obtain ⟨p, himport, rfl⟩ := h
  obtain ⟨root, hroot, himport⟩ := importSource_eq_ok himport
  obtain ⟨hadded, hstorable⟩ := importDocument_file himport
  have hread := valuesOfLines_questions fun q hq => (hstorable q hq).2
  refine ⟨root, hroot, p, _, himport, rfl, ?_, hread, ?_⟩
  · have htext := hadded.text_eq
    rw [List.map_map] at htext
    exact htext
  · rw [allValid_iff hread, List.forall_mem_map]
    intro q hq
    exact (validate_obj true q.toRecord.storedMembers).1.mpr (hstorable q hq).1

/-- The lines of what an import holds in memory are read as the records of its questions. -/
theorem lines_of_memory {p : Progress (List Record)} {lines : List String}
    (himport : importDocument c Sink.memory [] d root = .ok p)
    (h : (p.sink.mapM fun r => bankLine r.toJson) = .ok lines) :
    valuesOfLines (String.join lines) = .ok (p.questions.map fun q => q.toRecord.toJson) ∧
      (AllValid (String.join lines) ↔ ∀ q ∈ p.questions, q.Sound ∧ ¬ q.HasEmptyAnswer) := by
  have hlines : (p.questions.map fun q => q.toRecord.toJson).mapM bankLine = .ok lines := by
    rw [Traversal.mapM_eq_ok_iff, (importDocument_memory himport).1,
      List.forall₂_map_left_iff] at h
    rw [Traversal.mapM_eq_ok_iff, List.forall₂_map_left_iff]
    exact h
  obtain ⟨hwritable, htext⟩ := join_bankLines hlines
  rw [List.map_map] at htext
  have hread : valuesOfLines (String.join lines) = _ :=
    htext ▸ valuesOfLines_questions (List.forall_mem_map.mp hwritable)
  refine ⟨hread, ?_⟩
  rw [allValid_iff hread, List.forall_mem_map]
  exact forall₂_congr fun q _ => (validate_toRecord_iff q).1

theorem writesToOutput (hc : c.checked = .ok c) {source : Source}
    (h : runToOutput c o time files source = .ok out) :
    ∃ root, Document.read source.bytes = .ok (.ok root) ∧
      WritesToOutput c root { sourceName := source.name } out := by
  rw [runToOutput, Traversal.bind_eq_ok_iff] at h
  obtain ⟨p, himport, hout⟩ := h
  obtain ⟨root, hroot, himport⟩ := importSource_eq_ok himport
  split at hout
  · cases hout
  next lines hlines =>
    cases hout
    obtain ⟨hread, hvalid⟩ := lines_of_memory himport hlines
    refine ⟨root, hroot, p, himport, hread, hvalid, ?_⟩
    intro hquiet
    rw [hvalid]
    refine forall₂_congr fun q hq => and_iff_right ?_
    exact sound_of_mem_questions hc hquiet himport hq ((importDocument_memory himport).2 q hq)

/-- Without a bank, a run whose import stores only questions that can be written ends well. -/
theorem run_of_import {bytes : List UInt8} {p : Progress (List Record)} (time : String)
    (h : Started arguments bytesOf files o bytes c) (hnone : o.output = none)
    (himport : importSource c Sink.memory [] none ⟨fileName (o.input.getD ""), bytes⟩ = .ok p)
    (hwritable : ∀ q ∈ p.questions, q.toRecord.toJson.isWritable = true) :
    ∃ out, run arguments bytesOf files time = .ok out ∧ out.exit = 0 ∧
      (AllValid out.stdout ↔ ∀ q ∈ p.questions, q.Sound ∧ ¬ q.HasEmptyAnswer) := by
  obtain ⟨root, -, hdocument⟩ := importSource_eq_ok himport
  obtain ⟨lines, hlines⟩ : ∃ lines, (p.sink.mapM fun r => bankLine r.toJson) = .ok lines := by
    rw [Traversal.mapM_isOk_iff, (importDocument_memory hdocument).1, List.forall_mem_map]
    exact fun q hq => ⟨_, if_pos (hwritable q hq)⟩
  obtain ⟨out, hout, hexit, hstdout⟩ : ∃ out,
      runToOutput c o time files ⟨fileName (o.input.getD ""), bytes⟩ = .ok out ∧
      out.exit = 0 ∧ out.stdout = String.join lines := by
    rw [runToOutput, himport]
    dsimp only [Except.bind]
    rw [hlines]
    exact ⟨_, rfl, rfl, rfl⟩
  exact ⟨out, h.run_eq hnone hout, hexit, hstdout ▸ (lines_of_memory hdocument hlines).2⟩

/-- **A strict run checks what it adds to a bank, and nothing that it writes to the standard
output.** -/
theorem strict_run (ho : Options.ofArguments arguments = .ok o) (hstrict : o.strict = true)
    (hrun : run arguments bytesOf files time = .ok out) (hexit : out.exit = 0) :
    ∃ bytes c root, bytesOf (o.input.getD "") = some bytes ∧ configOf files o = .ok c ∧
      Document.read bytes = .ok (.ok root) ∧
      (∀ path, o.output = some path →
        AddsToBank c o time path files root { sourceName := fileName (o.input.getD "") } out) ∧
      (o.output = none →
        WritesToOutput c root { sourceName := fileName (o.input.getD "") } out) := by
  obtain ⟨bytes, c, hbytes, hconfig, hfile, houtput⟩ := run_exit_zero ho hrun hexit
  obtain ⟨hchecked, hsame⟩ := configOf_eq_ok hconfig
  cases hpath : o.output with
  | some path =>
      obtain ⟨root, hroot, hadds⟩ := addsToBank (hsame.trans hstrict) (hfile path hpath)
      refine ⟨bytes, c, root, hbytes, hconfig, hroot, ?_, nofun⟩
      rintro path' ⟨⟩
      exact hadds
  | none =>
      obtain ⟨root, hroot, hwrites⟩ := writesToOutput hchecked (houtput hpath)
      exact ⟨bytes, c, root, hbytes, hconfig, hroot, nofun, fun _ => hwrites⟩

/-! ## One document, both ways -/

theorem toList_loop (bytes : ByteArray) (i : Nat) (found : List UInt8) :
    ByteArray.toList.loop bytes i found = found.reverse ++ bytes.data.toList.drop i := by
  induction i, found using ByteArray.toList.loop.induct bytes with
  | case1 i found hi ih =>
      have hbyte : bytes.get! i = bytes.data.toList[i] := getElem!_pos bytes.data i hi
      rw [ByteArray.toList.loop, if_pos hi, ih, List.reverse_cons, List.append_assoc,
        List.drop_eq_getElem_cons hi, hbyte]
      rfl
  | case2 i found hi =>
      rw [ByteArray.toList.loop, if_neg hi, List.drop_eq_nil_of_le (Nat.le_of_not_lt hi),
        List.append_nil]

/-- Bytes as they are held. A run on closed bytes is evaluated much faster on these. -/
theorem toList_bytes (bytes : ByteArray) : bytes.toList = bytes.data.toList :=
  toList_loop bytes 0 []

/-- A matching question with an option that holds no text. -/
def unpairedDocument : String :=
  "<QML><QUESTION ID=\"9\"><ANSWER QTYPE=\"MATCH\"><CHOICE><CONTENT>left</CONTENT>" ++
  "<OPTION>right</OPTION><OPTION/></CHOICE></ANSWER><OUTCOME ID=\"1\" SCORE=\"1\">" ++
  "<CONDITION>\"0\" MATCHES \"right\"</CONDITION></OUTCOME></QUESTION></QML>"

/-- The question of the document: the pair of the empty option has no answer. -/
def unpairedQuestion : Question :=
  ⟨{ name := "9", sourceId := "9" },
    .matching [⟨"left", "right"⟩, ⟨"", ""⟩] false "Correct" "Incorrect"⟩

/-- A run on a document that is the only file. -/
def runOn (document : String) (arguments : List String) : Except ImportStop Outcome :=
  run arguments (fun _ => some document.toUTF8.toList) ⟨[]⟩ "now"

theorem exists_of_toOption_map {ε α β : Type} {x : Except ε α} {f : α → β} {b : β}
    (h : x.toOption.map f = some b) : ∃ a, x = .ok a ∧ f a = b := by
  cases x with
  | error e => cases h
  | ok a => exact ⟨a, rfl, Option.some.inj h⟩

/-- A bank does not take the question, and is not made a file. -/
theorem strict_run_bank :
    ∃ out c root, runOn unpairedDocument ["--strict", "-o", "bank", "in"] = .ok out ∧
      AddsToBank c { input := some "in", output := some "bank", strict := true } "now" "bank"
        ⟨[]⟩ root { sourceName := "in" } out ∧
      out.files.read? "bank" = none := by
  have hends : (runOn unpairedDocument ["--strict", "-o", "bank", "in"]).toOption.map
      (fun out => (out.exit, out.files.read? "bank")) = some (0, none) := by
    rw [runOn, toList_bytes]
    decide +kernel
  obtain ⟨out, hrun, hout⟩ := exists_of_toOption_map hends
  obtain ⟨hexit, hbank⟩ := Prod.mk.inj hout
  have ho : Options.ofArguments ["--strict", "-o", "bank", "in"] =
      .ok { input := some "in", output := some "bank", strict := true } := by decide +kernel
  obtain ⟨-, c, root, -, -, -, hadds, -⟩ := strict_run ho rfl hrun hexit
  exact ⟨out, c, root, hrun, hadds "bank" rfl, hbank⟩

/-- Without a bank the question is written, and its line is not valid. -/
theorem not_forall_strict_run_valid :
    ¬ ∀ (arguments : List String) (bytesOf : String → Option (List UInt8)) (files : Files)
        (time : String) (o : Options) (out : Outcome),
      Options.ofArguments arguments = .ok o → o.strict = true → o.output = none →
      run arguments bytesOf files time = .ok out → out.exit = 0 → AllValid out.stdout := by
  intro h
  have hends : (importSource { strict := true } Sink.memory [] none
      ⟨"in", unpairedDocument.toUTF8.toList⟩).toOption.map (·.questions) =
        some [unpairedQuestion] := by
    rw [toList_bytes]
    decide +kernel
  obtain ⟨p, himport, hquestions⟩ := exists_of_toOption_map hends
  have hwritable : ∀ q ∈ p.questions, q.toRecord.toJson.isWritable = true := by
    rw [hquestions]
    decide +kernel
  have hstarted : Started ["--strict", "in"] (fun _ => some unpairedDocument.toUTF8.toList) ⟨[]⟩
      { input := some "in", strict := true } unpairedDocument.toUTF8.toList { strict := true } :=
    ⟨by decide +kernel, rfl, rfl⟩
  obtain ⟨out, hrun, hexit, hvalid⟩ := run_of_import "now" hstarted rfl himport hwritable
  rw [hquestions] at hvalid
  have hunpaired := hvalid.mp (h _ _ _ _ _ out hstarted.options rfl rfl hrun hexit)
    unpairedQuestion (List.mem_singleton_self _)
  exact hunpaired.2 ⟨⟨"", ""⟩, by simp, rfl⟩

end QuestionBank.Command
