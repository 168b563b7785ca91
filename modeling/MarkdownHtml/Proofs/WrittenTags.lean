import MarkdownHtml.Proofs.HtmlTokens

/-! What each call to a writer adds to the tokens of its output. Names of tags are free of everything that could
end them, and all that comes from elsewhere is escaped, so a call adds the one token that it means to add. -/

namespace MarkdownHtml.Html

/-- Text that is no part of a tag. -/
def PlainText (text : String) : Prop := ∀ c ∈ text.toList, Plain c

instance (text : String) : Decidable (PlainText text) := List.decidableBAll Plain text.toList

def PlainName (name : String) : Prop := ∀ c ∈ name.toList, c ≠ ' ' ∧ c ≠ '/' ∧ c ≠ '<' ∧ c ≠ '>'

instance (name : String) : Decidable (PlainName name) := List.decidableBAll _ name.toList

def assignmentText (entry : String × String) : List Char :=
  ' ' :: (escape entry.1).toList ++ '=' :: '"' :: (escape entry.2).toList ++ ['"']

/-- What an opening tag has between its brackets. -/
def opened (name : String) (attributes : AttributeSet) : List Char :=
  name.toList ++ attributes.entries.flatMap assignmentText

theorem plain_escape (text : String) : PlainText (escape text) := by
  have each : ∀ c d, d ∈ escapeChar c → Plain d := by
    intro c d member
    unfold escapeChar at member
    split at member
    · exact (by simp [Plain] : ∀ d ∈ ['&', 'a', 'm', 'p', ';'], Plain d) d member
    · exact (by simp [Plain] : ∀ d ∈ ['&', 'l', 't', ';'], Plain d) d member
    · exact (by simp [Plain] : ∀ d ∈ ['&', 'g', 't', ';'], Plain d) d member
    · exact (by simp [Plain] : ∀ d ∈ ['&', 'q', 'u', 'o', 't', ';'], Plain d) d member
    next notAnd notLess notGreater notQuote =>
      rw [List.mem_singleton.mp member]
      exact ⟨notLess, notGreater, notQuote⟩
  intro c member
  rw [escape, String.toList_ofList, List.mem_flatMap] at member
  obtain ⟨d, _, member⟩ := member
  exact each d c member

namespace Writer

theorem html_raw (writer : Writer) (text : String) : (writer.raw text).html.toList = writer.html.toList ++ text.toList := by
  unfold raw
  split
  next none_ => rw [List.getLast?_eq_none_iff.mp none_, List.append_nil]
  · rw [String.toList_append]

theorem html_openTag (writer : Writer) (name : String) (attributes : AttributeSet) :
    (writer.openTag name attributes).html.toList = writer.html.toList ++ '<' :: opened name attributes := by
  suffices each : ∀ start : Writer, (attributes.entries.foldl (fun writer entry => writer.assignment entry.1 entry.2)
      start).html.toList = start.html.toList ++ attributes.entries.flatMap assignmentText by
    simp [openTag, each, html_raw, opened]
  induction attributes.entries with
  | nil => simp
  | cons entry rest ih =>
    intro start
    rw [List.foldl_cons, ih]
    simp [assignment, Writer.text, html_raw, assignmentText]

end Writer

theorem sound_opened {name : String} (plain : PlainName name) (attributes : AttributeSet) :
    ∀ c ∈ opened name attributes, c ≠ '<' ∧ c ≠ '>' := by
  intro c member
  rcases List.mem_append.mp member with member | member
  · exact (plain c member).2.2
  · obtain ⟨entry, _, member⟩ := List.mem_flatMap.mp member
    simp only [assignmentText, List.mem_cons, List.mem_append, List.cons_append, List.not_mem_nil, or_false] at member
    rcases member with rfl | (member | rfl | rfl | member) | rfl
    · decide
    · exact ⟨(plain_escape _ c member).1, (plain_escape _ c member).2.1⟩
    · decide
    · decide
    · exact ⟨(plain_escape _ c member).1, (plain_escape _ c member).2.1⟩
    · decide

private theorem takeWhile_name {name : String} (plain : PlainName name) {rest : List Char}
    (begins : rest.head?.all (· = ' ')) : String.ofList ((name.toList ++ rest).takeWhile (· ≠ ' ')) = name := by
  have stop : rest.takeWhile (· ≠ ' ') = [] := by
    cases rest with
    | nil => rfl
    | cons c rest =>
      obtain rfl : c = ' ' := by simpa using begins
      rfl
  rw [List.takeWhile_append_of_pos fun c member => by simpa using (plain c member).1, stop, List.append_nil,
    String.ofList_toList]

private theorem closes_opening {name : String} (plain : PlainName name) {rest : List Char}
    (begins : rest.head?.all (· = ' ')) : closes (name.toList ++ rest) = false := by
  cases held : name.toList with
  | nil =>
    cases rest with
    | nil => rfl
    | cons c rest =>
      obtain rfl : c = ' ' := by simpa using begins
      rfl
  | cons c letters =>
    have letter := (plain c (by rw [held]; exact List.mem_cons_self ..)).2.1
    simpa [closes] using letter

private theorem tagName_opening {name : String} (plain : PlainName name) {rest : List Char}
    (begins : rest.head?.all (· = ' ')) : tagName (name.toList ++ rest) = name := by
  unfold tagName
  split
  next tail same =>
    have opens := closes_opening plain begins
    rw [same] at opens
    cases opens
  · exact takeWhile_name plain begins

private theorem tagName_closing {name : String} (plain : PlainName name) : tagName ('/' :: name.toList) = name := by
  have whole := takeWhile_name plain (show ([] : List Char).head?.all (· = ' ') from rfl)
  rwa [List.append_nil] at whole

private theorem head?_attributes (attributes : AttributeSet) :
    (attributes.entries.flatMap assignmentText).head?.all (· = ' ') := by
  cases attributes.entries <;> rfl

private theorem getLast?_opened {name : String} (plain : PlainName name) (attributes : AttributeSet) :
    (opened name attributes).getLast? ≠ some '/' := by
  -- What an opening tag ends with is no slash: either a letter of its name or a quote.
  rcases List.eq_nil_or_concat attributes.entries with none_ | ⟨before, last, some_⟩
  · rw [opened, none_, List.flatMap_nil, List.append_nil]
    intro ends
    exact (plain '/' (List.mem_of_getLast? ends)).2.1 rfl
  · rw [opened, some_, List.concat_eq_append, List.flatMap_append, List.flatMap_singleton, assignmentText,
      ← List.append_assoc, ← List.append_assoc, List.getLast?_concat]
    decide

private theorem isVoid_opened {name : String} (plain : PlainName name) (attributes : AttributeSet) :
    isVoid (opened name attributes) = (name == "input") := by
  have noSuffix : [' ', '/'].isSuffixOf (opened name attributes) = false := by
    rw [Bool.eq_false_iff, Ne, List.isSuffixOf_iff_suffix]
    rintro ⟨before, same⟩
    apply getLast?_opened plain attributes
    rw [← same, List.getLast?_append]
    rfl
  rw [isVoid, noSuffix, Bool.false_or, opened, tagName_opening plain (head?_attributes attributes)]

/-- The output so far, taken apart: the names of its tags are known, and some of them are still open. -/
def LeavesOpen (known : String → Prop) (html : String) (stack : List String) : Prop :=
  ∃ tokens, printAll tokens = html.toList ∧ (∀ token ∈ tokens, token.Sound) ∧
    (∀ inside ∈ insides tokens, known (tagName inside)) ∧ (insides tokens).foldlM nestTag [] = some stack

namespace LeavesOpen

variable {known : String → Prop} {writer : Writer} {before : List String}

theorem start : LeavesOpen known "" [] := ⟨[], rfl, nofun, nofun, rfl⟩

theorem append {html html' : String} {after : List String} (leaves : LeavesOpen known html before) {token : Token}
    (printed : html'.toList = html.toList ++ token.print) (sound : token.Sound)
    (named : ∀ inside ∈ insides [token], known (tagName inside))
    (shift : (insides [token]).foldlM nestTag before = some after) : LeavesOpen known html' after := by
  obtain ⟨tokens, printedTokens, soundTokens, namedTokens, nested⟩ := leaves
  refine ⟨tokens ++ [token], ?_, ?_, ?_, ?_⟩
  · rw [printAll_append, printedTokens, printed]
    simp [printAll]
  · simp only [List.forall_mem_append, List.forall_mem_singleton]
    exact ⟨soundTokens, sound⟩
  · rw [insides_append]
    exact List.forall_mem_append.mpr ⟨namedTokens, named⟩
  · rw [insides_append, List.foldlM_append, nested]
    exact shift

theorem raw (leaves : LeavesOpen known writer.html before) {text : String} (plain : PlainText text) :
    LeavesOpen known (writer.raw text).html before := by
  have sound : (Token.text text.toList).Sound := plain
  refine leaves.append ?_ sound nofun rfl
  exact writer.html_raw text

theorem text (leaves : LeavesOpen known writer.html before) (content : String) :
    LeavesOpen known (writer.text content).html before := leaves.raw (plain_escape content)

theorem line (leaves : LeavesOpen known writer.html before) : LeavesOpen known writer.line.html before := by
  unfold Writer.line
  split
  · exact leaves
  · split
    · exact leaves
    · exact leaves.raw (by decide)

theorem closeTag {name : String} (leaves : LeavesOpen known writer.html (name :: before)) (plain : PlainName name)
    (named : known name) : LeavesOpen known (writer.closeTag name).html before := by
  have same := tagName_closing plain
  have sound : (Token.tag ('/' :: name.toList)).Sound := by
    intro c member
    rcases List.mem_cons.mp member with rfl | member
    · decide
    · exact (plain c member).2.2
  refine leaves.append ?_ sound ?_ ?_
  · simp [Writer.closeTag, Writer.html_raw, Token.print]
  · intro inside member
    cases List.mem_singleton.mp member
    rwa [same]
  · simp [insides, nestTag, closes, same]

theorem tagWith (leaves : LeavesOpen known writer.html before) {name : String} (plain : PlainName name)
    (named : known name) (attributes : AttributeSet) :
    LeavesOpen known (writer.tagWith name attributes).html (if name = "input" then before else name :: before) := by
  have same := tagName_opening plain (head?_attributes attributes)
  have opens : closes (opened name attributes) = false := closes_opening plain (head?_attributes attributes)
  refine leaves.append ?_ (show (Token.tag (opened name attributes)).Sound from sound_opened plain attributes) ?_ ?_
  · simp [Writer.tagWith, Writer.html_raw, Writer.html_openTag, Token.print]
  · intro inside member
    cases List.mem_singleton.mp member
    rwa [opened, same]
  · have void := isVoid_opened plain attributes
    simp only [insides, List.filterMap_cons, List.filterMap_nil, List.foldlM_cons, List.foldlM_nil, nestTag, opens, void]
    by_cases input : name = "input"
    · simp [input]
    · simp [input, opened, same]

theorem voidTag (leaves : LeavesOpen known writer.html before) {name : String} (plain : PlainName name)
    (named : known name) (attributes : AttributeSet) :
    LeavesOpen known (writer.voidTag name attributes).html before := by
  have begins : (attributes.entries.flatMap assignmentText ++ [' ', '/']).head?.all (· = ' ') := by
    cases attributes.entries <;> rfl
  have same : tagName (opened name attributes ++ [' ', '/']) = name := by
    rw [opened, List.append_assoc]
    exact tagName_opening plain begins
  have opens : closes (opened name attributes ++ [' ', '/']) = false := by
    rw [opened, List.append_assoc]
    exact closes_opening plain begins
  have void : isVoid (opened name attributes ++ [' ', '/']) = true := by
    rw [isVoid, List.isSuffixOf_iff_suffix.mpr (List.suffix_append _ _), Bool.true_or]
  have sound : (Token.tag (opened name attributes ++ [' ', '/'])).Sound := by
    intro c member
    rcases List.mem_append.mp member with member | member
    · exact sound_opened plain attributes c member
    · exact (by simp : ∀ c ∈ [' ', '/'], c ≠ '<' ∧ c ≠ '>') c member
  refine leaves.append ?_ sound ?_ ?_
  · simp [Writer.voidTag, Writer.html_raw, Writer.html_openTag, Token.print]
  · intro inside member
    cases List.mem_singleton.mp member
    rwa [same]
  · simp [insides, nestTag, opens, void]

end LeavesOpen

end MarkdownHtml.Html
