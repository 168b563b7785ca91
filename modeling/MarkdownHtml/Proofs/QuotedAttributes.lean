import MarkdownHtml.Proofs.ShownText

/-! Attributes taken back from a tag. Escaped text has no quotes, so what a tag has behind its name is cut at its quotes in
one way: a value lies between two of them, and its name before the first. Nothing is asked of names. A blank or an equals
sign in a name does no harm, since a name only ends where a quote follows. -/

namespace MarkdownHtml.Html

/-- What a tag has behind its name. -/
def attributesText (attributes : AttributeSet) : List Char := attributes.entries.flatMap assignmentText

/-- An attribute cut at its two quotes. -/
def quotedPieces (entry : String × String) : List (List Char) :=
  [' ' :: (escape entry.1).toList ++ ['='], (escape entry.2).toList]

/-- Read attributes from text that has been cut at its quotes. Behind the last quote nothing is left. -/
def readPieces : List (List Char) → Option (List (String × String))
  | [[]] => some []
  | (' ' :: named) :: value :: rest =>
    if named.getLast? = some '=' then
      (readPieces rest).map ((String.ofList (unescape named.dropLast), String.ofList (unescape value)) :: ·)
    else none
  | _ => none

def readAttributes (text : List Char) : Option (List (String × String)) := readPieces (text.splitOn '"')

private theorem ofList_unescape_escape (text : String) : String.ofList (unescape (escape text).toList) = text := by
  rw [escape, String.toList_ofList, unescape_escape, String.ofList_toList]

private theorem quote_notMem_escape (text : String) : '"' ∉ (escape text).toList :=
  fun member => (plain_escape text '"' member).2.2 rfl

private theorem splitOn_assignmentText (entry : String × String) (rest : List Char) :
    (assignmentText entry ++ rest).splitOn '"' = quotedPieces entry ++ rest.splitOn '"' := by
  have named : '"' ∉ ' ' :: (escape entry.1).toList ++ ['='] := by
    simp [quote_notMem_escape]
  have shape : assignmentText entry ++ rest =
      (' ' :: (escape entry.1).toList ++ ['=']) ++ '"' :: ((escape entry.2).toList ++ '"' :: rest) := by
    simp [assignmentText]
  rw [shape, List.splitOn_append_cons_self_of_not_mem named,
    List.splitOn_append_cons_self_of_not_mem (quote_notMem_escape entry.2)]
  rfl

private theorem splitOn_attributesText (attributes : AttributeSet) :
    (attributesText attributes).splitOn '"' = attributes.entries.flatMap quotedPieces ++ [[]] := by
  rw [attributesText]
  induction attributes.entries with
  | nil => rfl
  | cons entry rest ih =>
    rw [List.flatMap_cons, List.flatMap_cons, splitOn_assignmentText, ih, List.append_assoc]

private theorem readPieces_append (entry : String × String) (rest : List (List Char)) :
    readPieces (quotedPieces entry ++ rest) = (readPieces rest).map (entry :: ·) := by
  have named : ((escape entry.1).toList ++ ['=']).getLast? = some '=' := List.getLast?_concat
  rw [quotedPieces, List.cons_append, List.cons_append, List.cons_append, List.nil_append, readPieces, if_pos named,
    List.dropLast_concat, ofList_unescape_escape, ofList_unescape_escape]

private theorem readPieces_flatMap (entries : List (String × String)) :
    readPieces (entries.flatMap quotedPieces ++ [[]]) = some entries := by
  induction entries with
  | nil => rfl
  | cons entry rest ih =>
    rw [List.flatMap_cons, List.append_assoc, readPieces_append, ih]
    rfl

private theorem readAttributes_attributesText (attributes : AttributeSet) :
    readAttributes (attributesText attributes) = some attributes.entries := by
  rw [readAttributes, splitOn_attributesText, readPieces_flatMap]

private theorem attributesText_inj {first second : AttributeSet} :
    attributesText first = attributesText second ↔ first.entries = second.entries := by
  constructor
  -- Equal texts are read as equal attributes.
  · intro same
    have read := readAttributes_attributesText first
    rw [same, readAttributes_attributesText] at read
    exact (Option.some.inj read).symm
  · intro same
    rw [attributesText, same, attributesText]

namespace Writer

variable (writer : Writer) (name : String) (attributes : AttributeSet)

private theorem html_tagWith : (writer.tagWith name attributes).html.toList =
    writer.html.toList ++ '<' :: name.toList ++ attributesText attributes ++ ['>'] := by
  rw [tagWith, html_raw, html_openTag, opened, attributesText]
  simp

private theorem html_voidTag : (writer.voidTag name attributes).html.toList =
    writer.html.toList ++ '<' :: name.toList ++ attributesText attributes ++ [' ', '/', '>'] := by
  rw [voidTag, html_raw, html_openTag, opened, attributesText]
  simp

/-- Tags of one name look alike only if they have the same names and values in the same order, and these can be read
back. Behind the name of a tag there is no bracket but the last one, and no quote but those around each value. -/
theorem tags_readBack (name : String) :
    (∀ (writer : Writer) (attributes : AttributeSet),
      (writer.tagWith name attributes).html.toList =
        writer.html.toList ++ '<' :: name.toList ++ attributesText attributes ++ ['>'] ∧
      (writer.voidTag name attributes).html.toList =
        writer.html.toList ++ '<' :: name.toList ++ attributesText attributes ++ [' ', '/', '>']) ∧
    (∀ attributes : AttributeSet,
      (∀ c ∈ attributesText attributes, c ≠ '<' ∧ c ≠ '>') ∧
      (attributesText attributes).splitOn '"' = attributes.entries.flatMap quotedPieces ++ [[]] ∧
      readAttributes (attributesText attributes) = some attributes.entries) ∧
    ∀ (writer : Writer) (first second : AttributeSet),
      ((writer.tagWith name first).html = (writer.tagWith name second).html ↔ first.entries = second.entries) ∧
      ((writer.voidTag name first).html = (writer.voidTag name second).html ↔ first.entries = second.entries) := by
  refine ⟨fun writer attributes => ⟨html_tagWith .., html_voidTag ..⟩, fun attributes => ?_, fun writer first second => ?_⟩
  · have nameless : PlainName "" := nofun
    exact ⟨sound_opened nameless attributes, splitOn_attributesText attributes, readAttributes_attributesText attributes⟩
  · constructor
    · rw [← String.toList_inj, html_tagWith, html_tagWith, List.append_cancel_right_eq, List.append_cancel_left_eq,
        attributesText_inj]
    · rw [← String.toList_inj, html_voidTag, html_voidTag, List.append_cancel_right_eq, List.append_cancel_left_eq,
        attributesText_inj]

example : readAttributes " a b==\"&quot;=\" =\"\"".toList = some [("a b=", "\"="), ("", "")] := by decide

end Writer

end MarkdownHtml.Html
