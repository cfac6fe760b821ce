import QuestionBank.Conversion.Embedding
import QuestionBank.Proofs.Cloze.Encoded
import QuestionBank.Proofs.Cloze.Woven
import QuestionBank.Proofs.Conversion.Reading
import QuestionBank.Proofs.Scoring.FirstOfEach

/-!
# Questions put together from stems

A question with embedded answers has a block for each stem: first for the blanks of the
answer, then for the stems without a blank. If every blank and every stem is answered,
its text is read back as a text with a numbered place for each stem, in this order, and
with the question that the stem stands for. Otherwise it fails for what is missing.
-/

namespace QuestionBank

open QuestionBank.Scoring QuestionBank.Text QuestionBank.Number QuestionBank.Cloze

/-! ## Stems -/

/-- What the block of a stem is made of. -/
structure EmbeddedStem where
  found : List Match
  distractors : List String

/-- The stem of a blank. -/
def blankStem (kind : Cloze.Kind) (r : MatchResult) (choice : Choice) : EmbeddedStem :=
  { found := r.matchesFor choice.key
    distractors :=
      distractors choice.options (r.matchesFor choice.key) (sharedDistractors kind r) }

/-- A stem without a blank. -/
def looseStem (kind : Cloze.Kind) (r : MatchResult) (stem : String) : EmbeddedStem :=
  { found := r.matchesFor stem
    distractors := distractors [] (r.matchesFor stem) (sharedDistractors kind r) }

/-- The stems of a question in the order of their blocks. -/
def embeddedStems (q : SourceQuestion) (kind : Cloze.Kind) (r : MatchResult) : List EmbeddedStem :=
  q.choices.map (blankStem kind r) ++ (looseStems q r).map (looseStem kind r)

namespace EmbeddedStem

/-- A stem has a correct match. -/
def Answered (stem : EmbeddedStem) : Prop := ∃ m ∈ stem.found, 0 < m.score

/-- The weight of a stem may be written. -/
def Light (stem : EmbeddedStem) : Prop := credit stem.found < 10 ^ digitLimit

/-- The block of a stem. -/
def block (kind : Cloze.Kind) (residualFeedback : String) (stem : EmbeddedStem) : RawBlock :=
  encodedBlock kind stem.found stem.distractors residualFeedback

end EmbeddedStem

/-- A blank has no match, or a stem has no correct match. -/
def Unanswered (q : SourceQuestion) (r : MatchResult) : Prop :=
  (∃ choice ∈ q.choices, r.matchesFor choice.key = []) ∨
    ∃ stem ∈ r.stemIds, ∀ m ∈ r.matchesFor stem, m.score ≤ 0

/-- What a question with a blank or a stem that is not answered fails with. -/
inductive UnansweredFailure : Obstacle → Prop
  | blank (key name : String) (question : Option String) :
      UnansweredFailure (.failed ⟨.missing (.blankOutcome key name), question⟩)
  | stem (gap : CreditGap) (question : Option String) :
      UnansweredFailure (.failed ⟨.noCredit gap, question⟩)

variable {q : SourceQuestion} {kind : Cloze.Kind} {r : MatchResult}

theorem mem_stemIds_iff {stem : String} : stem ∈ r.stemIds ↔ r.matchesFor stem ≠ [] := by
  rw [MatchResult.stemIds_eq_firstOfEach, mem_firstOfEach_id]
  simp [MatchResult.matchesFor]

/-! ## The block of one stem -/

theorem encodeBlock_eq_noCredit {found : List Match} {residual : List String}
    {residualFeedback : String} (h : ∀ m ∈ found, m.score ≤ 0) :
    encodeBlock kind found residual residualFeedback =
      .error (.failed ⟨.noCredit (.blank ((found.head?.map Match.stem).getD "?")), none⟩) := by
  have hany : ¬ found.any Match.isCorrect = true := by
    rw [any_isCorrect_iff]
    rintro ⟨m, hm, hpos⟩
    exact (h m hm).not_gt hpos
  rw [encodeBlock, if_neg hany]

variable {stem : EmbeddedStem} {text s residualFeedback : String}

/-- A stem that is written has a block, in the place of its blank or at the end. -/
theorem encodeStem_eq_ok
    (h : encodeStem text kind stem.found stem.distractors residualFeedback = .ok s) :
    stem.Answered ∧ stem.Light ∧
      s = placeBlock text (String.ofList (stem.block kind residualFeedback).text) := by
  obtain ⟨block, hblock, rfl⟩ := Traversal.map_eq_ok_iff.mp h
  have hanswered : stem.Answered := by
    by_contra hno
    rw [encodeBlock_eq_noCredit fun m hm => not_lt.mp fun hpos => hno ⟨m, hm, hpos⟩] at hblock
    cases hblock
  have hlight : stem.Light := by
    by_contra hheavy
    rw [encodeBlock_eq_error hanswered (not_lt.mp hheavy)] at hblock
    cases hblock
  rw [encodeBlock_eq_ok hanswered hlight] at hblock
  cases hblock
  exact ⟨hanswered, hlight, rfl⟩

theorem encodeStem_eq_error {e : Obstacle}
    (h : encodeStem text kind stem.found stem.distractors residualFeedback = .error e) :
    ¬ stem.Answered ∧ UnansweredFailure e ∨ ¬ stem.Light ∧ e = .broken .integerTooLong := by
  have hblock := Traversal.map_eq_error_iff.mp h
  by_cases hanswered : stem.Answered
  · refine .inr ?_
    by_cases hlight : stem.Light
    · rw [encodeBlock_eq_ok hanswered hlight] at hblock
      cases hblock
    · rw [encodeBlock_eq_error hanswered (not_lt.mp hlight)] at hblock
      cases hblock
      exact ⟨hlight, rfl⟩
  · refine .inl ⟨hanswered, ?_⟩
    rw [encodeBlock_eq_noCredit fun m hm => not_lt.mp fun hpos => hanswered ⟨m, hm, hpos⟩] at hblock
    cases hblock
    exact .stem _ _

theorem woven_encodeStem
    (h : encodeStem text kind stem.found stem.distractors residualFeedback = .ok s)
    (htext : Quiet text.toList) : Woven s.toList [stem.block kind residualFeedback] := by
  obtain ⟨-, -, rfl⟩ := encodeStem_eq_ok h
  exact woven_placeBlock htext (wellFormed_encodedBlock _ _ _ _)

/-! ## Segments and loose stems -/

/-- The stem of the blank that a segment is, if it is one. -/
def segmentStem? (kind : Cloze.Kind) (r : MatchResult) (segment : Segment) : Option EmbeddedStem :=
  segment.choice?.map (blankStem kind r)

theorem encodeSegment_blank {choice : Choice} (h : r.matchesFor choice.key ≠ []) :
    encodeSegment q kind r (.blank choice) =
      encodeStem choice.content kind (blankStem kind r choice).found
        (blankStem kind r choice).distractors r.residualFeedback := by
  cases hfound : r.matchesFor choice.key with
  | nil => exact absurd hfound h
  | cons m found => simp [encodeSegment, blankStem, hfound]

/-- A blank that is written is its text with the block of its stem. -/
theorem encodeStem_of_encodeSegment {choice : Choice}
    (h : encodeSegment q kind r (.blank choice) = .ok s) :
    encodeStem choice.content kind (blankStem kind r choice).found
      (blankStem kind r choice).distractors r.residualFeedback = .ok s := by
  have hfound : r.matchesFor choice.key ≠ [] := by
    intro hnil
    simp [encodeSegment, hnil] at h
  rwa [encodeSegment_blank hfound] at h

/-- A segment that is written holds the block of its stem and no other. -/
theorem encodeSegment_eq_ok {segment : Segment}
    (h : encodeSegment q kind r segment = .ok s) (hquiet : Quiet segment.text.toList) :
    Woven s.toList ((segmentStem? kind r segment).map
        (EmbeddedStem.block kind r.residualFeedback)).toList ∧
      ∀ stem ∈ segmentStem? kind r segment, stem.Answered ∧ stem.Light := by
  cases segment with
  | fragment text =>
      cases h
      exact ⟨hquiet.woven, fun stem hstem => nomatch hstem⟩
  | blank choice =>
      replace h := encodeStem_of_encodeSegment h
      refine ⟨woven_encodeStem h hquiet, fun stem hstem => ?_⟩
      obtain rfl : blankStem kind r choice = stem := Option.some.inj hstem
      obtain ⟨hanswered, hlight, -⟩ := encodeStem_eq_ok h
      exact ⟨hanswered, hlight⟩

theorem encodeSegment_eq_error {segment : Segment} {e : Obstacle}
    (h : encodeSegment q kind r segment = .error e) :
    ∃ choice ∈ segment.choice?,
      (r.matchesFor choice.key = [] ∨ ¬ (blankStem kind r choice).Answered) ∧
          UnansweredFailure e ∨
        ¬ (blankStem kind r choice).Light ∧ e = .broken .integerTooLong := by
  cases segment with
  | fragment text => cases h
  | blank choice =>
      refine ⟨choice, rfl, ?_⟩
      by_cases hfound : r.matchesFor choice.key = []
      · refine .inl ⟨.inl hfound, ?_⟩
        simp only [encodeSegment, hfound, Except.error.injEq] at h
        subst h
        exact .blank _ _ _
      · rw [encodeSegment_blank hfound] at h
        rcases encodeStem_eq_error h with ⟨hno, he⟩ | ⟨hheavy, he⟩
        · exact .inl ⟨.inr hno, he⟩
        · exact .inr ⟨hheavy, he⟩

theorem encodeLoose_eq (stem : String) :
    encodeLoose kind r stem =
      encodeStem "" kind (looseStem kind r stem).found (looseStem kind r stem).distractors
        r.residualFeedback := rfl

theorem quiet_nil : Quiet [] := by
  intro before digits after _ _ h
  cases before <;> cases h

/-- A loose stem that is written is its block and nothing else. -/
theorem encodeLoose_eq_ok {stem : String} (h : encodeLoose kind r stem = .ok s) :
    Woven s.toList [(looseStem kind r stem).block kind r.residualFeedback] ∧
      (looseStem kind r stem).Answered ∧ (looseStem kind r stem).Light := by
  rw [encodeLoose_eq] at h
  obtain ⟨hanswered, hlight, -⟩ := encodeStem_eq_ok h
  exact ⟨woven_encodeStem h quiet_nil, hanswered, hlight⟩

/-! ## The answer of a question -/

theorem flatten_map_toList {α β : Type} (f : α → Option β) (l : List α) :
    (l.map fun a => (f a).toList).flatten = l.filterMap f := by
  induction l with
  | nil => rfl
  | cons a l ih =>
      rw [List.map_cons, List.flatten_cons, ih]
      cases h : f a with
      | none => rw [List.filterMap_cons_none h]; rfl
      | some b => rw [List.filterMap_cons_some h]; rfl

theorem filterMap_segmentStem? (hq : q.Coherent) :
    q.segments.filterMap (segmentStem? kind r) = q.choices.map (blankStem kind r) := by
  rw [hq, List.map_filterMap]
  rfl

/-- The blocks of all stems, segment by segment and then stem by stem. -/
theorem map_block_embeddedStems (hq : q.Coherent) :
    (embeddedStems q kind r).map (EmbeddedStem.block kind residualFeedback) =
      (q.segments.map (fun segment => ((segmentStem? kind r segment).map
          (EmbeddedStem.block kind residualFeedback)).toList) ++
        (looseStems q r).map fun stem =>
          [(looseStem kind r stem).block kind residualFeedback]).flatten := by
  rw [List.flatten_append, flatten_map_toList, ← List.map_filterMap, filterMap_segmentStem? hq,
    ← List.flatMap_def, ← List.map_eq_flatMap, embeddedStems, List.map_append]
  congr 1
  exact List.map_map

/-- A written answer has a part for each segment and for each stem without a blank. -/
theorem parts_of_encodeAnswer {parts : List String} (h : encodeAnswer q kind r = .ok parts) :
    ∃ placed loose, parts = placed ++ loose ∧
      List.Forall₂ (fun segment s => encodeSegment q kind r segment = .ok s) q.segments placed ∧
      List.Forall₂ (fun stem s => encodeLoose kind r stem = .ok s) (looseStems q r) loose := by
  unfold encodeAnswer at h
  split at h
  · cases h
  next placed hplaced =>
    obtain ⟨loose, hloose, rfl⟩ := Traversal.map_eq_ok_iff.mp h
    exact ⟨placed, loose, rfl, Traversal.mapM_eq_ok_iff.mp hplaced,
      Traversal.mapM_eq_ok_iff.mp hloose⟩

/-- A written answer holds the blocks of the stems in their order, and every stem is
answered. -/
theorem encodeAnswer_eq_ok (hq : q.Coherent) {parts : List String}
    (h : encodeAnswer q kind r = .ok parts)
    (hquiet : ∀ segment ∈ q.segments, Quiet segment.text.toList) :
    Woven (joinStripped parts).toList
        ((embeddedStems q kind r).map (EmbeddedStem.block kind r.residualFeedback)) ∧
      ∀ stem ∈ embeddedStems q kind r, stem.Answered ∧ stem.Light := by
  obtain ⟨placed, loose, rfl, hplaced, hloose⟩ := parts_of_encodeAnswer h
  have hsegments := ((List.forall₂_and_left _ _).mpr ⟨hquiet, hplaced⟩).imp fun _ _ hs =>
    (encodeSegment_eq_ok hs.2 hs.1).symm
  have hstems := hloose.imp fun _ _ hs => (encodeLoose_eq_ok hs).symm
  obtain ⟨hanswered, hplaced⟩ := (List.forall₂_and_left _ _).mp hsegments
  obtain ⟨hanswered', hloose⟩ := (List.forall₂_and_left _ _).mp hstems
  constructor
  · rw [map_block_embeddedStems hq]
    refine woven_joinStripped (List.rel_append ?_ ?_)
    · exact List.forall₂_map_right_iff.mpr hplaced.flip
    · exact List.forall₂_map_right_iff.mpr hloose.flip
  · intro stem hstem
    rcases List.mem_append.mp hstem with hstem | hstem
    · rw [← filterMap_segmentStem? hq] at hstem
      obtain ⟨segment, hsegment, he⟩ := List.mem_filterMap.mp hstem
      exact hanswered segment hsegment stem he
    · obtain ⟨id, hid, rfl⟩ := List.mem_map.mp hstem
      exact hanswered' id hid

theorem unanswered_of_blank {choice : Choice} (hchoice : choice ∈ q.choices)
    (h : r.matchesFor choice.key = [] ∨ ¬ (blankStem kind r choice).Answered) :
    Unanswered q r := by
  by_cases hfound : r.matchesFor choice.key = []
  · exact .inl ⟨choice, hchoice, hfound⟩
  · have hno := h.resolve_left hfound
    exact .inr ⟨choice.key, mem_stemIds_iff.mpr hfound,
      fun m hm => not_lt.mp fun hpos => hno ⟨m, hm, hpos⟩⟩

theorem unanswered_of_loose {stem : String} (hstem : stem ∈ looseStems q r)
    (h : ¬ (looseStem kind r stem).Answered) : Unanswered q r :=
  .inr ⟨stem, (List.mem_filter.mp hstem).1, fun m hm => not_lt.mp fun hpos => h ⟨m, hm, hpos⟩⟩

theorem not_unanswered (h : ∀ stem ∈ embeddedStems q kind r, stem.Answered) :
    ¬ Unanswered q r := by
  rintro (⟨choice, hchoice, hnil⟩ | ⟨stem, hstem, hscores⟩)
  · obtain ⟨m, hm, -⟩ := h _ (List.mem_append_left _ (List.mem_map_of_mem hchoice))
    simp [blankStem, hnil] at hm
  · obtain ⟨m, hm, hpos⟩ : ∃ m ∈ r.matchesFor stem, 0 < m.score := by
      by_cases hkey : stem ∈ q.choices.map Choice.key
      · obtain ⟨choice, hchoice, rfl⟩ := List.mem_map.mp hkey
        exact h _ (List.mem_append_left _ (List.mem_map_of_mem hchoice))
      · have hloose : stem ∈ looseStems q r :=
          List.mem_filter.mpr ⟨hstem, by simpa using hkey⟩
        exact h _ (List.mem_append_right _ (List.mem_map_of_mem hloose))
    exact (hscores m hm).not_gt hpos

/-- An answer that is not written is not complete, or the weight of a stem has too many
digits. -/
theorem encodeAnswer_eq_error (hq : q.Coherent) {e : Obstacle}
    (h : encodeAnswer q kind r = .error e) :
    Unanswered q r ∧ UnansweredFailure e ∨
      (∃ stem ∈ embeddedStems q kind r, ¬ stem.Light) ∧ e = .broken .integerTooLong := by
  unfold encodeAnswer at h
  split at h
  next e' hsegments =>
    cases h
    obtain ⟨before, segment, after, he, -, herror⟩ := Traversal.mapM_eq_error_iff.mp hsegments
    obtain ⟨choice, hsegment, hcases⟩ := encodeSegment_eq_error herror
    have hchoice : choice ∈ q.choices := by
      rw [hq]
      exact List.mem_filterMap.mpr ⟨segment, by simp [he], hsegment⟩
    rcases hcases with ⟨hno, hfailure⟩ | ⟨hheavy, hbroken⟩
    · exact .inl ⟨unanswered_of_blank hchoice hno, hfailure⟩
    · exact .inr ⟨⟨_, List.mem_append_left _ (List.mem_map_of_mem hchoice), hheavy⟩, hbroken⟩
  next placed _ =>
    obtain ⟨before, stem, after, he, -, herror⟩ :=
      Traversal.mapM_eq_error_iff.mp (Traversal.map_eq_error_iff.mp h)
    have hstem : stem ∈ looseStems q r := by simp [he]
    rw [encodeLoose_eq] at herror
    rcases encodeStem_eq_error herror with ⟨hno, hfailure⟩ | ⟨hheavy, hbroken⟩
    · exact .inl ⟨unanswered_of_loose hstem hno, hfailure⟩
    · exact .inr ⟨⟨_, List.mem_append_right _ (List.mem_map_of_mem hstem), hheavy⟩, hbroken⟩

/-! ## The question -/

/-- A question with embedded answers is put together from stems. Its text is made of
pieces, the blocks among which are those of the stems, and the embedded text has a
numbered place for each of them. -/
structure Assembled (kind : Cloze.Kind) (residualFeedback : String) (stems : List EmbeddedStem)
    (question : Question) : Prop where
  parts : ∃ ps embedded,
    question.body = .multianswer embedded ∧
    Legible ps ∧
    question.header.text = String.ofList (render ps) ∧
    embedded.text = String.ofList (places 1 ps) ∧
    List.Forall₂ (fun stem b => encodeBlock kind stem.found stem.distractors residualFeedback =
      .ok (String.ofList b.text)) stems (blocks ps) ∧
    List.Forall₂ (fun stem sub => Encodes kind stem.found stem.distractors residualFeedback sub)
      stems embedded.subquestions ∧
    embedded.subquestions.map Subquestion.position = List.range' 1 stems.length

/-- The answers of numeric stems are numbers. -/
def NumberAnswers (kind : Cloze.Kind) (found : List Match) : Prop :=
  kind = .numerical → ∀ m ∈ found, ∃ v x, NumberText m.answer v x

theorem numberAnswers_of_mem_embeddedStems (hnumber : NumberAnswers kind r.found)
    (hstem : stem ∈ embeddedStems q kind r) : NumberAnswers kind stem.found := by
  intro hkind m hm
  refine hnumber hkind m ?_
  rcases List.mem_append.mp hstem with hstem | hstem <;>
  · obtain ⟨_, -, rfl⟩ := List.mem_map.mp hstem
    exact (List.mem_filter.mp hm).1

/-- The block of a stem is decoded to what each stem with this block stands for. -/
theorem decodeBlock_block {stems : List EmbeddedStem}
    (hstems : ∀ stem ∈ stems, (stem.Answered ∧ stem.Light) ∧ NumberAnswers kind stem.found)
    {b : RawBlock} (hb : b ∈ stems.map (EmbeddedStem.block kind residualFeedback))
    (position : Nat) :
    ∃ sub, decodeBlock position b = .ok sub ∧ sub.position = position ∧
      ∀ stem ∈ stems, stem.block kind residualFeedback = b →
        Encodes kind stem.found stem.distractors residualFeedback sub := by
  have hdecode : ∀ stem ∈ stems, ∃ sub,
      decodeBlock position (stem.block kind residualFeedback) = .ok sub ∧
      sub.position = position ∧ Encodes kind stem.found stem.distractors residualFeedback sub := by
    intro stem hstem
    obtain ⟨⟨hanswered, hlight⟩, hnumber⟩ := hstems stem hstem
    exact decodeBlock_encodedBlock _ _ hanswered hnumber hlight position
  obtain ⟨stem, hstem, rfl⟩ := List.mem_map.mp hb
  obtain ⟨sub, hsub, hposition, -⟩ := hdecode stem hstem
  refine ⟨sub, hsub, hposition, fun stem' hstem' he => ?_⟩
  obtain ⟨sub', hsub', -, hencodes⟩ := hdecode stem' hstem'
  rw [he, hsub] at hsub'
  cases hsub'
  exact hencodes

/-- A text that holds the blocks of stems is read back as their questions. -/
theorem extract_woven {stems : List EmbeddedStem}
    (hstems : ∀ stem ∈ stems, (stem.Answered ∧ stem.Light) ∧ NumberAnswers kind stem.found)
    (htext : Woven text.toList (stems.map (EmbeddedStem.block kind residualFeedback)))
    (header : Header) :
    ∃ embedded, extract text = .ok embedded ∧
      Assembled kind residualFeedback stems
        ⟨{ header with text }, .multianswer embedded⟩ := by
  obtain ⟨ps, hps, hrender, hblocks⟩ := htext
  obtain ⟨subs, hscan, hsubs, hpositions⟩ := extractFrom_render hps
    (fun b hb position => decodeBlock_block hstems (hblocks ▸ hb) position) 0 1
  rw [hblocks] at hsubs hpositions
  refine ⟨⟨String.ofList (places 1 ps), subs⟩, ?_, ps, _, rfl, hps, ?_, rfl, ?_, ?_, ?_⟩
  · rw [extract, ← hrender, hscan]
    rfl
  · rw [hrender, String.ofList_toList]
  · rw [hblocks, List.forall₂_map_right_iff]
    refine List.forall₂_same.mpr fun stem hstem => ?_
    obtain ⟨⟨hanswered, hlight⟩, -⟩ := hstems stem hstem
    exact encodeBlock_eq_ok hanswered hlight
  · rw [List.forall₂_map_left_iff] at hsubs
    have hmem := (List.forall₂_and_left _ _).mpr ⟨fun stem hstem => hstem, hsubs⟩
    exact hmem.imp fun stem sub hs => hs.2 stem hs.1 rfl
  · rw [hpositions, List.length_map]

end QuestionBank
