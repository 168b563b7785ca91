import MarkdownHtml.Node.Type
import MarkdownHtml.Text.Quoted

/-! What a node carries, apart from its place in the tree. -/

namespace MarkdownHtml

/-- Alignment of a table column. -/
inductive Alignment
  | left | center | right
  deriving DecidableEq, Repr, Inhabited

namespace Alignment

def name : Alignment → String
  | left => "Left"
  | center => "Center"
  | right => "Right"

/-- The value of the attribute that aligns a cell. -/
def htmlValue : Alignment → String
  | left => "left"
  | center => "center"
  | right => "right"

def all : List Alignment := [left, center, right]

def ofName? (name : String) : Option Alignment := all.find? fun alignment => alignment.name == name

end Alignment

inductive NodeKind
  | document
  | heading (level : Nat)
  | paragraph
  | blockQuote
  | bulletList (tight : Bool) (marker : Char)
  | orderedList (tight : Bool) (start : Nat) (delimiter : Char)
  | listItem
  | fencedCodeBlock (info literal : String) (fenceChar : Char) (fenceLength : Nat)
  | indentedCodeBlock (literal : String)
  | thematicBreak
  | htmlBlock (literal : String)
  | tableBlock
  | tableHead
  | tableBody
  | tableRow
  | tableCell (header : Bool) (alignment : Option Alignment)
  | footnoteDefinition (label : String) (number references : Nat)
  | frontMatterBlock
  | frontMatterEntry (key : String) (values : List String)
  | text (literal : String)
  | emphasis
  | strongEmphasis
  | code (literal : String)
  | link (destination : String) (title : Option String)
  | image (destination : String) (title : Option String)
  | hardLineBreak
  | softLineBreak
  | htmlInline (literal : String)
  | strikethrough
  | ins
  | taskListMarker (checked : Bool)
  | footnoteReference (label : String) (number occurrence : Nat)
  | imageAttributes (attributes : List (String × String))
  deriving DecidableEq, Repr, Inhabited

namespace NodeKind

def type : NodeKind → NodeType
  | document => .document
  | heading .. => .heading
  | paragraph => .paragraph
  | blockQuote => .blockQuote
  | bulletList .. => .bulletList
  | orderedList .. => .orderedList
  | listItem => .listItem
  | fencedCodeBlock .. => .fencedCodeBlock
  | indentedCodeBlock .. => .indentedCodeBlock
  | thematicBreak => .thematicBreak
  | htmlBlock .. => .htmlBlock
  | tableBlock => .tableBlock
  | tableHead => .tableHead
  | tableBody => .tableBody
  | tableRow => .tableRow
  | tableCell .. => .tableCell
  | footnoteDefinition .. => .footnoteDefinition
  | frontMatterBlock => .frontMatterBlock
  | frontMatterEntry .. => .frontMatterEntry
  | text .. => .text
  | emphasis => .emphasis
  | strongEmphasis => .strongEmphasis
  | code .. => .code
  | link .. => .link
  | image .. => .image
  | hardLineBreak => .hardLineBreak
  | softLineBreak => .softLineBreak
  | htmlInline .. => .htmlInline
  | strikethrough => .strikethrough
  | ins => .ins
  | taskListMarker .. => .taskListMarker
  | footnoteReference .. => .footnoteReference
  | imageAttributes .. => .imageAttributes

/-- The text of nodes that hold it as it stands. -/
def literal? : NodeKind → Option String
  | text literal | code literal | htmlInline literal | htmlBlock literal | indentedCodeBlock literal => some literal
  | fencedCodeBlock _ literal _ _ => some literal
  | _ => none

/-- A name with its fields in braces. -/
def described (name : String) (fields : List (String × String)) : String :=
  name ++ " \x7b " ++ ", ".intercalate (fields.map fun field => field.1 ++ ": " ++ field.2) ++ " \x7d"

def describedOption : Option String → String
  | none => "None"
  | some value => "Some(" ++ value ++ ")"

def describedList (items : List String) : String := "[" ++ ", ".intercalate items ++ "]"

/-- The kind with all it carries, for a person to read. -/
def describe (kind : NodeKind) : String :=
  let name := kind.type.name
  let quoted := Text.quotedText
  match kind with
  | heading level => described name [("level", toString level)]
  | bulletList tight marker => described name [("tight", toString tight), ("marker", Text.quotedLetter marker)]
  | orderedList tight start delimiter =>
    described name [("tight", toString tight), ("start", toString start), ("delimiter", Text.quotedLetter delimiter)]
  | fencedCodeBlock info literal fenceChar fenceLength =>
    described name [("info", quoted info), ("literal", quoted literal),
      ("fence_char", Text.quotedLetter fenceChar), ("fence_length", toString fenceLength)]
  | indentedCodeBlock literal | htmlBlock literal | text literal | code literal | htmlInline literal =>
    described name [("literal", quoted literal)]
  | tableCell header alignment =>
    described name [("header", toString header), ("alignment", describedOption (alignment.map Alignment.name))]
  | footnoteDefinition label number references =>
    described name [("label", quoted label), ("number", toString number), ("references", toString references)]
  | frontMatterEntry key values =>
    described name [("key", quoted key), ("values", describedList (values.map quoted))]
  | link destination title | image destination title =>
    described name [("destination", quoted destination), ("title", describedOption (title.map quoted))]
  | taskListMarker checked => described name [("checked", toString checked)]
  | footnoteReference label number occurrence =>
    described name [("label", quoted label), ("number", toString number), ("occurrence", toString occurrence)]
  | imageAttributes attributes =>
    let pair := fun entry : String × String => "(" ++ quoted entry.1 ++ ", " ++ quoted entry.2 ++ ")"
    described name [("attributes", describedList (attributes.map pair))]
  | _ => name

end NodeKind

end MarkdownHtml
