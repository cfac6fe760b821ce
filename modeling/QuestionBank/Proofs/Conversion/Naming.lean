import QuestionBank.Conversion.Header
import QuestionBank.Proofs.Markup.Literal
import QuestionBank.Proofs.Setting.Substituted

/-!
# Questions named after their text

A question without a description is named after its text: by the whole text if it is short, by
its first characters if it is long, and as in the source if there is none. But the text is cleaned
once more for the name. So the name of a plain text is that of its second cleaning, which is the
text itself where neither a template variable nor anything like markup is left in it.
-/

namespace QuestionBank

open QuestionBank.Document QuestionBank.Markup QuestionBank.Text

/-- The names that a question has after a text. -/
inductive NamedAfter (q : SourceQuestion) (text : String) : String → Prop where
  | whole (hne : 1 ≤ text.length) (hshort : text.length ≤ 60) : NamedAfter q text text
  | start (hlong : 60 < text.length) :
      NamedAfter q text (trimEnd (String.ofList (text.toList.take 60)) ++ "...")
  | source (hempty : text.length = 0) (hid : q.id ≠ "") : NamedAfter q text q.id
  | numbered (hempty : text.length = 0) (hid : q.id = "") :
      NamedAfter q text ("Question " ++ Number.showInt q.position)

variable {c : Config} {q : SourceQuestion} {content : Node} {text : String} {header : Header}

theorem namedAfter_deriveName (q : SourceQuestion) (text : String) :
    NamedAfter q text (deriveName "" text q.fallbackName) := by
  unfold deriveName
  rw [if_neg (by decide)]
  split
  next hempty =>
    have hlength : text.length = 0 := by
      rw [String.isEmpty_iff] at hempty
      rw [hempty]
      rfl
    unfold SourceQuestion.fallbackName
    split
    next hid => exact .numbered hlength (String.isEmpty_iff.mp hid)
    next hid => exact .source hlength (by simpa using hid)
  next hne =>
    have hlength : 1 ≤ text.length := by
      rw [Nat.one_le_iff_ne_zero, ← String.length_toList, ne_eq, List.length_eq_zero_iff]
      simpa using hne
    split
    next hshort => exact .whole hlength hshort
    next hlong => exact .start (Nat.not_le.mp hlong)

/-- A short text is a name as it is. -/
theorem NamedAfter.eq_of_short {name : String} (h : NamedAfter q text name)
    (hne : 1 ≤ text.length) (hshort : text.length ≤ 60) : name = text := by
  cases h with
  | whole => rfl
  | start hlong => exact absurd hlong (Nat.not_lt.mpr hshort)
  | source hempty => exact absurd hempty (Nat.one_le_iff_ne_zero.mp hne)
  | numbered hempty => exact absurd hempty (Nat.one_le_iff_ne_zero.mp hne)

/-- A text that was cleaned as plain text has no blanks to strip or to squeeze. -/
theorem squeeze_of_clean_plain {raw : String} (h : c.clean .plain raw = .ok text) :
    squeeze text = text ∧ strip text = text := by
  obtain ⟨ts, -, rfl⟩ := Traversal.map_eq_ok_iff.mp h
  exact ⟨squeeze_squeeze _, strip_squeeze _⟩

/-- The text of a question with plain content is its content, cleaned once. -/
theorem shownText_plain (hcontent : q.content? = some content)
    (htype : lowerAscii (strip (content.get "TYPE")) = "text/plain")
    (hclean : c.clean .plain content.markup = .ok text) :
    q.shownText c = .ok (text, .plain) := by
  have hprofile : c.contentProfile content = (.plain, .plain) := by
    unfold Config.contentProfile
    rw [htype]
    rfl
  unfold SourceQuestion.shownText Config.contentOf
  simp only [hcontent, hprofile, hclean, Except.map, (squeeze_of_clean_plain hclean).2]

theorem header_eq_ok_iff {format : TextFormat} (h : q.shownText c = .ok (text, format))
    (hdescription : q.description = "") :
    q.header c = .ok header ↔ ∃ again, c.plain text = .ok again ∧
      header = { name := deriveName "" again q.fallbackName
                 text
                 format
                 generalFeedback :=
                  ((q.outcomes.find? Outcome.isAlways).map Outcome.feedback).getD ""
                 sourceId := q.id } := by
  unfold SourceQuestion.header
  simp only [h, hdescription]
  exact Traversal.map_eq_ok_iff.trans (exists_congr fun again => and_congr_right' eq_comm)

/-- A cleaned text without variables and markup stays as it is when it is cleaned again. -/
theorem plain_of_literal {raw : String} (hclean : c.clean .plain raw = .ok text)
    (hprofile : c.answerProfile = .plain)
    (hvariables : ∀ entry ∈ c.template.entries, ¬ entry.1.toList <:+: text.toList)
    (hliteral : Literal text.toList) : c.plain text = .ok text := by
  obtain ⟨hsqueeze, hstrip⟩ := squeeze_of_clean_plain hclean
  unfold Config.plain Config.clean
  rw [hprofile, Template.apply_of_not_infix hvariables, Markup.clean, toPlain_of_literal hliteral,
    hsqueeze]
  exact congrArg Except.ok hstrip

/-- **What a question with plain text is named after.** A question without a description whose
content is plain text keeps the cleaned content as its text. It is named after what cleaning makes
of that text again, and so after the text itself if no template variable occurs in it and nothing
in it is taken for markup. -/
theorem header_namedAfter (hcontent : q.content? = some content)
    (htype : lowerAscii (strip (content.get "TYPE")) = "text/plain")
    (hdescription : q.description = "") (hprofile : c.answerProfile = .plain)
    (hclean : c.clean .plain content.markup = .ok text) :
    (∀ header, q.header c = .ok header → header.text = text ∧ header.format = .plain ∧
      ∃ again, c.plain text = .ok again ∧ NamedAfter q again header.name) ∧
    ((∀ entry ∈ c.template.entries, ¬ entry.1.toList <:+: text.toList) → Literal text.toList →
      ∃ header, q.header c = .ok header ∧ header.text = text ∧ NamedAfter q text header.name) := by
  have hshown := shownText_plain hcontent htype hclean
  constructor
  · intro header hheader
    obtain ⟨again, hagain, rfl⟩ := (header_eq_ok_iff hshown hdescription).mp hheader
    exact ⟨rfl, rfl, again, hagain, namedAfter_deriveName q again⟩
  · intro hvariables hliteral
    have hagain := plain_of_literal hclean hprofile hvariables hliteral
    exact ⟨_, (header_eq_ok_iff hshown hdescription).mpr ⟨text, hagain, rfl⟩, rfl,
      namedAfter_deriveName q text⟩

/-- A content node with a plain text. -/
def plainContent (markup : String) : Node where
  name := "CONTENT"
  attributes := [("TYPE", "text/plain")]
  text := markup

/-- A question that holds nothing but a plain text. -/
def plainQuestion (markup : String) : SourceQuestion where
  node := { name := "QUESTION", attributes := [("ID", "7")], children := [plainContent markup] }
  position := 1
  tag := ""
  outcomes := []
  choices := []
  segments := []

theorem content?_plainQuestion (markup : String) :
    (plainQuestion markup).content? = some (plainContent markup) := rfl

/-- A text with a bracket and an ampersand names its question. -/
theorem header_namedAfter_comparison :
    ∃ header, (plainQuestion "Is %N% &lt; 6 &amp; 6 &gt; %N%?").header
        { template := ⟨[("%N%", "5")]⟩ } = .ok header ∧
      header.text = "Is 5 < 6 & 6 > 5?" ∧ header.name = "Is 5 < 6 & 6 > 5?" := by
  have happly : (⟨[("%N%", "5")]⟩ : Template).apply
      (plainContent "Is %N% &lt; 6 &amp; 6 &gt; %N%?").markup = "Is 5 &lt; 6 &amp; 6 &gt; 5?" := by
    rw [Template.apply_eq_replaceAll, Template.ordered, List.mergeSort_singleton]
    decide +kernel
  have hclean : Config.clean { template := ⟨[("%N%", "5")]⟩ } .plain
      (plainContent "Is %N% &lt; 6 &amp; 6 &gt; %N%?").markup = .ok "Is 5 < 6 & 6 > 5?" := by
    rw [Config.clean, happly]
    decide +kernel
  have hliteral : Literal "Is 5 < 6 & 6 > 5?".toList := by
    have hsplit : "Is 5 < 6 & 6 > 5?".toList =
        "Is 5 ".toList ++ '<' :: (" 6 ".toList ++ '&' :: (" 6 > 5?".toList ++ [])) := by decide
    have hnone : Markup.reference? (" 6 > 5?".toList ++ []) = none := by decide
    rw [hsplit]
    refine .plain (by decide) (.bracket (.inl ?_) (.plain (by decide) (.amp ?_ ?_)))
    · rintro c ⟨⟩
      decide
    · rw [hnone]
      exact fun p hp => absurd hp (Option.not_mem_none p)
    · exact .plain (by decide) .nil
  obtain ⟨header, hheader, htext, hname⟩ := (header_namedAfter (content?_plainQuestion _)
    (by decide) (by decide) rfl hclean).2 (by decide) hliteral
  exact ⟨header, hheader, htext, hname.eq_of_short (by decide) (by decide)⟩

/-- What is no markup in a plain text is taken for markup when it is named. -/
theorem not_forall_header_namedAfter :
    ¬ ∀ (c : Config) (q : SourceQuestion) (content : Node) (header : Header),
      q.content? = some content → lowerAscii (strip (content.get "TYPE")) = "text/plain" →
        q.description = "" → c.answerProfile = .plain → q.header c = .ok header →
          NamedAfter q header.text header.name := by
  intro h
  have hheader : (plainQuestion "What does &lt;b&gt; do?").header {} =
      .ok { name := "What does do?", text := "What does <b> do?", format := .plain,
            sourceId := "7" } := by
    decide +kernel
  have hnamed := h _ _ _ _ (content?_plainQuestion _) (by decide) (by decide) rfl hheader
  exact absurd (hnamed.eq_of_short (by decide) (by decide)) (by decide)

end QuestionBank
