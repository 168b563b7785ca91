/-! The types of nodes, and sets of them. -/

namespace MarkdownHtml

inductive NodeType
  | document | heading | paragraph | blockQuote | bulletList | orderedList | listItem | fencedCodeBlock
  | indentedCodeBlock | thematicBreak | htmlBlock | tableBlock | tableHead | tableBody | tableRow | tableCell
  | footnoteDefinition | frontMatterBlock | frontMatterEntry
  | text | emphasis | strongEmphasis | code | link | image | hardLineBreak | softLineBreak | htmlInline
  | strikethrough | ins | taskListMarker | footnoteReference | imageAttributes
  deriving DecidableEq, Repr, Inhabited

namespace NodeType

/-- Every type once, blocks before inlines. -/
def all : List NodeType :=
  [document, heading, paragraph, blockQuote, bulletList, orderedList, listItem, fencedCodeBlock,
    indentedCodeBlock, thematicBreak, htmlBlock, tableBlock, tableHead, tableBody, tableRow, tableCell,
    footnoteDefinition, frontMatterBlock, frontMatterEntry,
    text, emphasis, strongEmphasis, code, link, image, hardLineBreak, softLineBreak, htmlInline,
    strikethrough, ins, taskListMarker, footnoteReference, imageAttributes]

def name : NodeType → String
  | document => "Document"
  | heading => "Heading"
  | paragraph => "Paragraph"
  | blockQuote => "BlockQuote"
  | bulletList => "BulletList"
  | orderedList => "OrderedList"
  | listItem => "ListItem"
  | fencedCodeBlock => "FencedCodeBlock"
  | indentedCodeBlock => "IndentedCodeBlock"
  | thematicBreak => "ThematicBreak"
  | htmlBlock => "HtmlBlock"
  | tableBlock => "TableBlock"
  | tableHead => "TableHead"
  | tableBody => "TableBody"
  | tableRow => "TableRow"
  | tableCell => "TableCell"
  | footnoteDefinition => "FootnoteDefinition"
  | frontMatterBlock => "FrontMatterBlock"
  | frontMatterEntry => "FrontMatterEntry"
  | text => "Text"
  | emphasis => "Emphasis"
  | strongEmphasis => "StrongEmphasis"
  | code => "Code"
  | link => "Link"
  | image => "Image"
  | hardLineBreak => "HardLineBreak"
  | softLineBreak => "SoftLineBreak"
  | htmlInline => "HtmlInline"
  | strikethrough => "Strikethrough"
  | ins => "Ins"
  | taskListMarker => "TaskListMarker"
  | footnoteReference => "FootnoteReference"
  | imageAttributes => "ImageAttributes"

def ofName? (name : String) : Option NodeType := all.find? fun type => type.name == name

/-- The place of a type among all types. -/
def index (type : NodeType) : Nat := all.idxOf type

def isBlock (type : NodeType) : Bool := type.index < text.index

def isInline (type : NodeType) : Bool := !type.isBlock

end NodeType

/-- A set of node types, one bit for each. -/
structure NodeTypeSet where
  bits : BitVec 33 := 0
  deriving DecidableEq, Repr, Inhabited

namespace NodeTypeSet

def empty : NodeTypeSet := {}

def contains (types : NodeTypeSet) (type : NodeType) : Bool := types.bits.getLsbD type.index

def insert (types : NodeTypeSet) (type : NodeType) : NodeTypeSet :=
  ⟨types.bits ||| BitVec.twoPow 33 type.index⟩

def ofList (types : List NodeType) : NodeTypeSet := types.foldl insert empty

def singleton (type : NodeType) : NodeTypeSet := empty.insert type

/-- The members, in the order of all types. -/
def toList (types : NodeTypeSet) : List NodeType := NodeType.all.filter types.contains

def size (types : NodeTypeSet) : Nat := types.toList.length

def isEmpty (types : NodeTypeSet) : Bool := types.bits == 0

def all : NodeTypeSet := ofList NodeType.all

def blocks : NodeTypeSet := ofList (NodeType.all.filter NodeType.isBlock)

def inlines : NodeTypeSet := ofList (NodeType.all.filter NodeType.isInline)

def lists : NodeTypeSet := ofList [.bulletList, .orderedList]

def codeBlocks : NodeTypeSet := ofList [.fencedCodeBlock, .indentedCodeBlock]

def lineBreaks : NodeTypeSet := ofList [.softLineBreak, .hardLineBreak]

/-- The members in braces. -/
def describe (types : NodeTypeSet) : String :=
  "\x7b" ++ ", ".intercalate (types.toList.map NodeType.name) ++ "\x7d"

end NodeTypeSet

end MarkdownHtml
