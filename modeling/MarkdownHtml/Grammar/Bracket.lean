import MarkdownHtml.Grammar.Block
import MarkdownHtml.Grammar.Emphasis

/-! Brackets: what an opening and a closing one can make of the text between them, given what
follows. That is a link or an image, or else a footnote reference. -/

namespace MarkdownHtml.Grammar

structure Bracket where
  image : Bool
  inside : List Char
  /-- Whether another bracket has been opened in it. -/
  followed : Bool := false

def Bracket.literal (bracket : Bracket) : List Char := if bracket.image then ['!', '['] else ['[']

def inlineTarget? (text : List Char) : Option (Reference × List Char) := do
  let '(' :: text := text | none
  let (destination, afterDestination) ← destination? (dropSpaces text)
  let titleStart := dropSpaces afterDestination
  let (title, rest) :=
    if titleStart.length = afterDestination.length then ([], titleStart)
    else (title? titleStart).getD ([], titleStart)
  match dropSpaces rest with
  | ')' :: rest => return (⟨cleanDestination destination, cleanTitle title⟩, rest)
  | _ => none

/-- The target of a label in brackets, or of the bracketed text itself if no label follows it. -/
def labelTarget? (references : References) (bracket : Bracket) (text : List Char) : Option (Reference × List Char) :=
  let between := bracket.inside.take (bracket.inside.length - text.length - 1)
  match label? text with
  | some (label, rest) =>
    if label.isEmpty && !bracket.followed then (references.find? between).map (·, rest)
    else (references.find? label).map (·, rest)
  | none => if bracket.followed then none else (references.find? between).map (·, text)

/-- What an inline adds to the label of a footnote. -/
def Inline.label : Inline → List Char
  | .text literal => literal
  | .run marks => marks.shown
  | .tree (.node (.htmlInline literal) _) => literal.toList
  | .tree _ => []

def Inline.isLabel : Inline → Bool
  | .text _ | .run _ | .tree (.node (.htmlInline _) _) => true
  | .tree _ => false

/-- The footnote reference that the inlines of a bracket are, first one first, and what of them is
not part of its label. -/
def footnote? (dialect : Dialect) (inside : List Inline) : Option (List Inline) :=
  match inside with
  | .text ('^' :: _) :: _ =>
    let label := inside.flatMap Inline.label
    if dialect.footnotes ∧ 2 ≤ label.length then
      some (.tree (.leaf (.footnoteReference (String.ofList label.tail))) :: inside.filter (!Inline.isLabel ·))
    else none
  | _ => none

end MarkdownHtml.Grammar
