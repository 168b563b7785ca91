import MarkdownHtml.Document.Edit
import MarkdownHtml.Document.Walk
import MarkdownHtml.Text.Space

/-! Task items: a list item whose first paragraph begins with a box in brackets gets a marker as
its first child, and the box is cut from the text. -/

namespace MarkdownHtml.Document

/-- Whether the box at the beginning of a text is checked, and what follows the box and the white
space that has to come after it. -/
def readTaskBox : List Char → Option (Bool × List Char)
  | '[' :: box :: ']' :: space :: rest =>
    if [' ', 'x', 'X'].contains box && Text.isSpace space then some (box != ' ', Text.trimStart rest) else none
  | _ => none

def markItem (doc : Document) (item : NodeId) : Document :=
  match doc.kind? item, doc.firstChild? item with
  | some .listItem, some paragraph =>
    match doc.kind? paragraph, doc.firstChild? paragraph with
    | some .paragraph, some text =>
      match doc.kind? text with
      | some (.text literal) =>
        match readTaskBox literal.toList with
        | some (checked, rest) =>
          let doc := doc.setKind text (.text (String.ofList rest))
          let doc := if rest.isEmpty then doc.detach text else doc
          let (marker, doc) := doc.alloc (.taskListMarker checked)
          doc.prependChild item marker
        | none => doc
      | _ => doc
    | _, _ => doc
  | _, _ => doc

def markTaskItems (doc : Document) : Document := (doc.descendants root).foldl markItem doc

end MarkdownHtml.Document
