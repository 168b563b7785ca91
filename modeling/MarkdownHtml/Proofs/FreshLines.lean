import MarkdownHtml.Proofs.WrittenTags
import Mathlib.Data.List.Induction

/-! Fresh lines. A writer asks only for the character that it keeps beside its output, and every call keeps this one in
step with the output, also a call that writes nothing. So a line is begun exactly where the output shows that none has
been, whatever has been written before. -/

namespace MarkdownHtml.Html

/-- The output is at the beginning of a line. -/
def AtLineStart (output : List Char) : Prop := output = [] ∨ output.getLast? = some '\n'

instance (output : List Char) : Decidable (AtLineStart output) := inferInstanceAs (Decidable (_ ∨ _))

/-- What a call adds to an output. -/
def Write.added (output : List Char) : Write → List Char
  | .raw html => html.toList
  | .text content => (escape content).toList
  | .tag name => '<' :: name.toList ++ ['>']
  | .tagWith name attributes => '<' :: opened name attributes ++ ['>']
  | .voidTag name attributes => '<' :: opened name attributes ++ [' ', '/', '>']
  | .closeTag name => '<' :: '/' :: name.toList ++ ['>']
  | .line => if AtLineStart output then [] else ['\n']

/-- How many lines have come to their end with nothing on them. -/
def emptyLines (output : List Char) : Nat := (output.splitOn '\n').dropLast.count []

private theorem getLast?_splitOn_concat {c : Char} (inside : c ≠ '\n') (front : List Char) :
    ((front ++ [c]).splitOn '\n').getLast? ≠ some [] := by
  induction front with
  | nil =>
    have alone : '\n' ∉ [c] := by simpa using inside.symm
    rw [List.nil_append, List.splitOn_eq_singleton alone]
    simp
  | cons d front ih =>
    obtain ⟨first, later, held⟩ := List.exists_cons_of_ne_nil (List.splitOn_ne_nil '\n' (front ++ [c]))
    rw [held] at ih
    -- One more character in front changes the last line only if there is no other.
    rw [List.cons_append, List.splitOn_cons_eq_if_modifyHead, held]
    split
    · rwa [List.getLast?_cons_cons]
    · rw [List.modifyHead_cons]
      cases later with
      | nil => simp
      | cons => rwa [List.getLast?_cons_cons] at ih ⊢

private theorem emptyLines_newline {output : List Char} (begun : ¬AtLineStart output) :
    emptyLines (output ++ ['\n']) = emptyLines output := by
  rcases List.eq_nil_or_concat output with rfl | ⟨front, c, rfl⟩
  · exact absurd (.inl rfl) begun
  rw [List.concat_eq_append] at begun ⊢
  have inside : c ≠ '\n' := by
    rintro rfl
    exact begun (.inr List.getLast?_concat)
  have ended : (front ++ [c] ++ ['\n']).splitOn '\n' = (front ++ [c]).splitOn '\n' ++ [[]] :=
    List.splitOn_append_cons_self _ _
  obtain ⟨last, found⟩ := Option.ne_none_iff_exists'.mp fun none_ =>
    List.splitOn_ne_nil '\n' (front ++ [c]) (List.getLast?_eq_none_iff.mp none_)
  have filled : last ≠ [] := fun blank => getLast?_splitOn_concat inside front (blank ▸ found)
  have whole := List.dropLast_append_getLast? last found
  calc emptyLines (front ++ [c] ++ ['\n'])
      = ((front ++ [c]).splitOn '\n').count [] := by rw [emptyLines, ended, List.dropLast_concat]
    _ = (((front ++ [c]).splitOn '\n').dropLast ++ [last]).count [] := by rw [whole]
    _ = emptyLines (front ++ [c]) := by simp [emptyLines, filled]

namespace Writer

variable {writer : Writer}

def InStep (writer : Writer) : Prop := writer.last = writer.html.toList.getLast?

namespace InStep

theorem raw (inStep : writer.InStep) (text : String) : (writer.raw text).InStep := by
  unfold Writer.raw
  split
  · exact inStep
  next last => rw [InStep, String.toList_append, List.getLast?_append, last, Option.some_or]

private theorem openTag (inStep : writer.InStep) (name : String) (attributes : AttributeSet) :
    (writer.openTag name attributes).InStep := by
  suffices each : ∀ {start : Writer}, start.InStep →
      (attributes.entries.foldl (fun writer entry => writer.assignment entry.1 entry.2) start).InStep from
    each ((inStep.raw "<").raw name)
  induction attributes.entries with
  | nil => exact id
  | cons entry rest ih =>
    intro start kept
    rw [List.foldl_cons]
    apply ih
    have named := (kept.raw " ").raw (escape entry.1)
    exact ((named.raw "=\"").raw (escape entry.2)).raw "\""

private theorem line_eq (inStep : writer.InStep) :
    writer.line = if AtLineStart writer.html.toList then writer else writer.raw "\n" := by
  have starts : AtLineStart writer.html.toList ↔ writer.last = none ∨ writer.last = some '\n' := by
    rw [AtLineStart, inStep, List.getLast?_eq_none_iff]
  simp only [starts]
  unfold Writer.line
  cases writer.last with
  | none => simp
  | some c => by_cases newline : c = '\n' <;> simp [newline]

theorem perform (inStep : writer.InStep) (call : Write) : (writer.perform call).InStep := by
  cases call with
  | raw html => exact inStep.raw html
  | text content => exact inStep.raw (escape content)
  | tag name => exact ((inStep.raw "<").raw name).raw ">"
  | tagWith name attributes => exact (inStep.openTag name attributes).raw ">"
  | voidTag name attributes => exact (inStep.openTag name attributes).raw " />"
  | closeTag name => exact ((inStep.raw "</").raw name).raw ">"
  | line =>
    change writer.line.InStep
    rw [inStep.line_eq]
    split
    · exact inStep
    · exact inStep.raw "\n"

private theorem html_perform (inStep : writer.InStep) (call : Write) :
    (writer.perform call).html.toList = writer.html.toList ++ call.added writer.html.toList := by
  cases call with
  | line =>
    change writer.line.html.toList = _
    rw [inStep.line_eq, Write.added]
    split
    · rw [List.append_nil]
    · exact writer.html_raw "\n"
  | _ =>
    simp [Writer.perform, Writer.text, Writer.tag, Writer.tagWith, Writer.voidTag, Writer.closeTag, html_raw, html_openTag,
      Write.added]

theorem foldl (inStep : writer.InStep) (calls : List Write) : (calls.foldl Writer.perform writer).InStep := by
  induction calls generalizing writer with
  | nil => exact inStep
  | cons call rest ih => exact ih (inStep.perform call)

private theorem emptyLines_line (inStep : writer.InStep) :
    emptyLines writer.line.html.toList = emptyLines writer.html.toList := by
  rw [inStep.line_eq]
  split
  · rfl
  next begun => rw [html_raw, show "\n".toList = ['\n'] from rfl, emptyLines_newline begun]

end InStep

private theorem line_line (writer : Writer) : writer.line.line = writer.line := by
  cases kept : writer.last with
  | none => simp only [line, kept]
  | some c =>
    by_cases newline : c = '\n'
    · simp only [line, kept, if_pos newline]
    · have begun : writer.line = writer.raw "\n" := by simp only [line, kept, if_neg newline]
      rw [begun]
      rfl

/-- The output as it would grow without a character beside it. -/
def outputOf (calls : List Write) : List Char := calls.foldl (fun output call => output ++ call.added output) []

private theorem html_foldl (calls : List Write) : (calls.foldl perform {}).html.toList = outputOf calls := by
  have start : InStep {} := rfl
  induction calls using List.reverseRecOn with
  | nil => rfl
  | append_singleton calls call ih =>
    rw [outputOf, List.foldl_append, List.foldl_append, List.foldl_cons, List.foldl_nil, List.foldl_cons, List.foldl_nil,
      (start.foldl calls).html_perform, ih, outputOf]

/-- Whatever calls a new writer has had, the character kept is the last one of the output, and there is none if and only if
the output is empty. The next call only adds to the end of the output. A call for a line adds one newline, unless the output
is at the beginning of a line already, so it makes no empty line and is not answered twice in a row. -/
theorem freshLines_afterCalls (calls : List Write) :
    let writer := calls.foldl perform {}
    let output := writer.html.toList
    output = outputOf calls ∧
      writer.last = output.getLast? ∧ (writer.last = none ↔ writer.html = "") ∧
      (∀ call, (writer.perform call).html.toList = output ++ call.added output) ∧
      (writer.line.html = if AtLineStart output then writer.html else writer.html ++ "\n") ∧
      emptyLines writer.line.html.toList = emptyLines output ∧
      writer.line.line = writer.line := by
  intro writer output
  have start : InStep {} := rfl
  have inStep : writer.InStep := start.foldl calls
  have blank : output = [] ↔ writer.html = "" := by
    rw [← String.toList_inj]
    rfl
  refine ⟨html_foldl calls, inStep, ?_, inStep.html_perform, ?_, inStep.emptyLines_line, writer.line_line⟩
  · rw [inStep, List.getLast?_eq_none_iff, blank]
  · rw [inStep.line_eq]
    split <;> rfl

example : outputOf [.line, .tag "p", .line, .text "", .line, .closeTag "p"] = "<p>\n</p>".toList := by decide

end Writer

end MarkdownHtml.Html
