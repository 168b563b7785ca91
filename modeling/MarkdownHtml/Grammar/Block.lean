import MarkdownHtml.Grammar.BlockStart
import MarkdownHtml.Grammar.Definitions
import MarkdownHtml.Grammar.TableRow
import MarkdownHtml.Grammar.Tree
import MarkdownHtml.Options

/-! Blocks: the structure of a text above the level of its inlines. Lines are read one after
another into a stack of open blocks. A line first goes on with as many of them as it can, then
opens new ones, and what is left of it is text. -/

namespace MarkdownHtml.Grammar

structure Dialect where
  autolink : Bool := false
  strikethrough : Bool := false
  tables : Bool := false
  footnotes : Bool := false
  frontMatter : Bool := false
  options : ParserOptions := {}

def Dialect.ofExtensions (extensions : List Extension) (options : ParserOptions) : Dialect :=
  { autolink := extensions.contains .autolink
    strikethrough := extensions.contains .strikethrough
    tables := extensions.contains .tables
    footnotes := extensions.contains .footnotes
    frontMatter := extensions.contains .yamlFrontMatter
    options }

/-- A block that is complete but for its inlines: its kind, the text of its inlines, whether a blank
line came last in it, and the blocks that it holds. -/
inductive Block
  | mk (kind : GrammarKind) (text : List Char) (endsBlank : Bool) (children : List Block)

namespace Block

def endsBlank : Block → Bool
  | mk _ _ endsBlank _ => endsBlank

def children : Block → List Block
  | mk _ _ _ children => children

def markBlank : Block → Block
  | mk kind text _ children => mk kind text true children

def isListPart : GrammarKind → Bool
  | .bulletList .. | .orderedList .. | .item => true
  | _ => false

mutual

/-- Whether a block, or what ends it within lists, ends in a blank line. -/
def trailsBlank : Block → Bool
  | mk kind _ endsBlank children => endsBlank || (isListPart kind && lastTrailsBlank children)

def lastTrailsBlank : List Block → Bool
  | [] => false
  | [block] => block.trailsBlank
  | _ :: rest => lastTrailsBlank rest

end

/-- Whether a blank line parts the blocks of an item from each other or from the next item. -/
def partsItem (moreItems : Bool) : List Block → Bool
  | [] => false
  | block :: rest => ((moreItems || !rest.isEmpty) && block.trailsBlank) || partsItem moreItems rest

/-- Whether a blank line parts the items of a list, or blocks within one of them. -/
def isLoose : List Block → Bool
  | [] => false
  | item :: rest =>
    (item.endsBlank && !rest.isEmpty) || partsItem (!rest.isEmpty) item.children || isLoose rest

end Block

/-- The kinds of blocks that stay open behind their first line. Texts are kept backwards. -/
inductive OpenKind
  | document
  | quote
  | list (marker : ListMarker) (tight : Option Bool)
  | item (indent : Nat) (line : Nat)
  | footnote (label : List Char)
  | paragraph (backwards : List Char) (noTable : Bool)
  | fencedCode (mark : Char) (length offset : Nat) (info : List Char) (backwards : List Char)
  | indentedCode (lines : List (List Char))
  | html (kind : HtmlBlockKind) (backwards : List Char)
  | table (alignments : List (Option Alignment))

def OpenKind.isParagraph : OpenKind → Bool
  | paragraph .. => true
  | _ => false

def OpenKind.isLeaf : OpenKind → Bool
  | paragraph .. | fencedCode .. | indentedCode .. | html .. | table .. => true
  | _ => false

structure OpenBlock where
  kind : OpenKind
  endsBlank : Bool := false
  /-- The blocks in it that are closed, last one first. -/
  children : List Block := []

structure Blocks where
  /-- The open blocks, innermost first. The last one is the document. -/
  opened : List OpenBlock := [{ kind := .document }]
  references : References := {}
  lineCount : Nat := 0

def listKind (marker : ListMarker) (tight : Bool) : GrammarKind :=
  match marker with
  | .bullet mark => .bulletList tight mark
  | .ordered start delimiter => .orderedList tight start delimiter

def infoString (dialect : Dialect) (info : List Char) : String :=
  let info := resolveEscapes (trimAscii (resolveReferences info))
  if info.isEmpty then dialect.options.defaultInfoString.getD "" else String.ofList info

def joinLines (lines : List (List Char)) : List Char := lines.flatMap fun line => line ++ ['\n']

/-- Close a block. Definitions are taken from paragraphs, and a paragraph that has nothing else is no
block at all. -/
def OpenBlock.close (dialect : Dialect) (references : References) (block : OpenBlock) : Option Block × References :=
  let children := block.children.reverse
  let plain := fun kind => (some (Block.mk kind [] block.endsBlank children), references)
  match block.kind with
  | .document => plain .other
  | .quote => plain .blockQuote
  | .list marker tight => plain (listKind marker (tight.getD !(Block.isLoose children)))
  | .item .. => plain .item
  | .footnote label => plain (.footnoteDefinition (String.ofList label))
  | .paragraph backwards _ =>
    let (references, text) := takeDefinitions references backwards.length backwards.reverse
    if text.all isAsciiSpace then (none, references) else (some (.mk .paragraph text block.endsBlank []), references)
  | .fencedCode mark length _ info backwards =>
    plain (.fencedCode (infoString dialect info) (String.ofList backwards.reverse) mark length)
  | .indentedCode lines =>
    plain (.indentedCode (String.ofList (joinLines (lines.dropWhile fun line => line.all isBlank).reverse)))
  | .html _ backwards => plain (.htmlBlock (String.ofList backwards.reverse))
  | .table alignments => plain (.table alignments)

def OpenBlock.addChild (block : OpenBlock) (child : Block) : OpenBlock :=
  { block with children := child :: block.children }

namespace Blocks

/-- Close so many of the innermost blocks. The document stays open. -/
def closeInner (dialect : Dialect) : Nat → Blocks → Blocks
  | count + 1, { opened := block :: parent :: outer, references, lineCount } =>
    match block.close dialect references with
    | (some child, references) => closeInner dialect count ⟨parent.addChild child :: outer, references, lineCount⟩
    | (none, references) => closeInner dialect count ⟨parent :: outer, references, lineCount⟩
  | _, blocks => blocks

/-- Close blocks until only so many are open. -/
def closeTo (dialect : Dialect) (depth : Nat) (blocks : Blocks) : Blocks :=
  closeInner dialect (blocks.opened.length - depth) blocks

/-- How an open block looks to the list around it, given how the open block inside of it does. -/
def viewOpen (inner : Option Block) (block : OpenBlock) : Option Block :=
  let kind := match block.kind with
    | .list marker _ => listKind marker true
    | .item .. => .item
    | _ => .other
  some (.mk kind [] block.endsBlank (inner.toList ++ block.children).reverse)

/-- Decide whether the list at some depth is tight, while blocks are still open in it. -/
def settleList (depth : Nat) (blocks : Blocks) : Blocks :=
  let inner := blocks.opened.take (blocks.opened.length - depth)
  match blocks.opened.drop (blocks.opened.length - depth) with
  | { kind := .list marker none, endsBlank, children } :: outer =>
    let items := ((inner.foldl viewOpen none).toList ++ children).reverse
    let list := { kind := .list marker (some !(Block.isLoose items)), endsBlank, children }
    { blocks with opened := inner ++ list :: outer }
  | _ => blocks

/-- Close the innermost blocks that cannot hold a new block. Lists hold items and nothing else. -/
def makeRoom (dialect : Dialect) (forItem : Bool) : Nat → Blocks → Blocks
  | 0, blocks => blocks
  | fuel + 1, blocks =>
    match blocks.opened with
    | { kind := .list .., .. } :: _ =>
      if forItem then blocks else makeRoom dialect forItem fuel (closeInner dialect 1 blocks)
    | { kind, .. } :: _ =>
      if kind.isLeaf || forItem then makeRoom dialect forItem fuel (closeInner dialect 1 blocks) else blocks
    | [] => blocks

def push (block : OpenBlock) (blocks : Blocks) : Blocks := { blocks with opened := block :: blocks.opened }

def addClosed (child : Block) (blocks : Blocks) : Blocks :=
  match blocks.opened with
  | block :: outer => { blocks with opened := block.addChild child :: outer }
  | [] => blocks

def setInnermost (kind : OpenKind) (blocks : Blocks) : Blocks :=
  match blocks.opened with
  | block :: outer => { blocks with opened := { block with kind } :: outer }
  | [] => blocks

end Blocks

/-- What a line means to an open block: it goes on with the block, it does not, or it is the last
line of it. -/
inductive Continuation
  | goesOn (line : Line)
  | stops
  | ends

def skipQuoteMark (line : Line) : Line :=
  let line := line.skipBlanks.skipChars 1
  if line.rest.head?.any isBlank then line.skipColumns 1 else line

def OpenBlock.continuation (block : OpenBlock) (hasInner : Bool) (line : Line) : Continuation :=
  match block.kind with
  | .document | .list .. => .goesOn line
  | .quote => if line.indent < 4 ∧ line.text.head? = some '>' then .goesOn (skipQuoteMark line) else .stops
  | .item indent _ =>
    if indent ≤ line.indent then .goesOn (line.skipColumns indent)
    else if line.isBlankLine && (hasInner || !block.children.isEmpty) then .goesOn line.skipBlanks
    else .stops
  | .footnote _ =>
    if 4 ≤ line.indent then .goesOn (line.skipColumns 4)
    else if line.rest.isEmpty ∧ line.column = 0 then .goesOn line
    else .stops
  | .paragraph .. => if line.isBlankLine then .stops else .goesOn line
  | .fencedCode mark length offset _ _ =>
    if line.indent < 4 ∧ closesFence mark length line.text then .ends
    else .goesOn (line.skipColumns (min offset line.indent))
  | .indentedCode _ =>
    if 4 ≤ line.indent then .goesOn (line.skipColumns 4)
    else if line.isBlankLine then .goesOn line.skipBlanks
    else .stops
  | .html kind _ => if kind.endsAtBlank && line.isBlankLine then .stops else .goesOn line
  | .table _ => if (rowCells line.text).isEmpty then .stops else .goesOn line

/-- How many of the blocks a line goes on with, the outermost being first, what is left of the line
then, and whether the line is the last one of the block behind them. -/
def goOn (depth : Nat) (line : Line) : List OpenBlock → Nat × Line × Bool
  | [] => (depth, line, false)
  | block :: inner =>
    match block.continuation (!inner.isEmpty) line with
    | .goesOn line => goOn (depth + 1) line inner
    | .stops => (depth, line, false)
    | .ends => (depth, line, true)

/-- A line on its way into the blocks. -/
structure Reading where
  blocks : Blocks
  /-- How many of the open blocks the line belongs to. -/
  depth : Nat
  line : Line
  /-- Whether nothing of the line is left to be read. -/
  finished : Bool := false
  /-- Whether a finished line counts as a blank one at the end of its block. -/
  endsBlank : Bool := false

namespace Reading

def container (reading : Reading) : OpenKind :=
  match reading.blocks.opened.drop (reading.blocks.opened.length - reading.depth) with
  | block :: _ => block.kind
  | [] => .document

/-- Close what the line does not belong to and what cannot hold a new block. -/
def clear (dialect : Dialect) (forItem : Bool) (reading : Reading) : Blocks :=
  let settled := match reading.container, forItem with
    | .list .., false => reading.blocks.settleList reading.depth
    | _, _ => reading.blocks
  let blocks := settled.closeTo dialect reading.depth
  blocks.makeRoom dialect forItem blocks.opened.length

def openBlock (dialect : Dialect) (kind : OpenKind) (line : Line) (reading : Reading) : Reading :=
  let blocks := (reading.clear dialect false).push { kind }
  { blocks, depth := blocks.opened.length, line }

def addBlock (dialect : Dialect) (kind : GrammarKind) (text : List Char) (reading : Reading) : Reading :=
  let blocks := (reading.clear dialect false).addClosed (.mk kind text false [])
  { blocks, depth := blocks.opened.length, line := { rest := [] }, finished := true }

def openItem (dialect : Dialect) (marker : ListMarker) (length : Nat) (reading : Reading) : Reading :=
  let markerIndent := reading.line.indent
  let line := reading.line.skipBlanks.skipChars length
  let blanks := line.indent
  let (width, line) :=
    if blanks = 0 then (length + 1, line)
    else if 5 ≤ blanks ∨ line.isBlankLine then (length + 1, line.skipColumns 1)
    else (length + blanks, line.skipColumns blanks)
  let item : OpenBlock := { kind := .item (markerIndent + width) reading.blocks.lineCount }
  let goesOn := match reading.container with
    | .list first _ => first.agrees marker
    | _ => false
  let blocks :=
    if goesOn then reading.clear dialect true
    else (reading.clear dialect false).push { kind := .list marker none }
  let blocks := blocks.push item
  { blocks, depth := blocks.opened.length, line }

/-- Make a heading of the paragraph that the line underlines, unless it has only definitions. -/
def underlineParagraph (backwards : List Char) (noTable : Bool) (level : Nat) (reading : Reading) : Reading :=
  let (references, text) := takeDefinitions reading.blocks.references backwards.length backwards.reverse
  let blocks := { reading.blocks with references }
  if text.all isAsciiSpace then
    { reading with blocks := blocks.setInnermost (.paragraph text.reverse noTable) }
  else
    let blocks := { blocks with opened := blocks.opened.tail }.addClosed (.mk (.heading level) text false [])
    { blocks, depth := blocks.opened.length, line := { rest := [] }, finished := true }

def rowBlock (header : Bool) (cells : List (List Char)) : Block :=
  .mk (.tableRow header) [] true (cells.map fun cell => .mk .tableCell cell true [])

/-- Make a table of the last line of a paragraph, if it has as many cells as there are markers. -/
def openTable (backwards : List Char) (alignments : List (Option Alignment)) (reading : Reading) : Reading :=
  let lines := (splitLines backwards.reverse).map (·.rest)
  let header := rowCells (lines.getLast?.getD [])
  if header.length = alignments.length then
    let before := trimAscii (unescapePipes (joinLines lines.dropLast))
    let blocks := { reading.blocks with opened := reading.blocks.opened.tail }
    let blocks := if before.isEmpty then blocks else blocks.addClosed (.mk .paragraph before false [])
    let blocks := blocks.push { kind := .table alignments, children := [rowBlock true header] }
    { blocks, depth := blocks.opened.length, line := { rest := [] }, finished := true, endsBlank := true }
  else { reading with blocks := reading.blocks.setInnermost (.paragraph backwards true) }

/-- Add a row to a table, with as many cells as the table has columns. -/
def addRow (alignments : List (Option Alignment)) (reading : Reading) : Reading :=
  let cells := (rowCells reading.line.text).take alignments.length
  let cells := cells ++ List.replicate (alignments.length - cells.length) []
  let blocks := reading.blocks.addClosed (rowBlock false cells)
  { reading with blocks, line := { rest := [] }, finished := true }

/-- What a line may turn the block into that it belongs to. -/
def convert? (dialect : Dialect) (reading : Reading) : Option Reading :=
  let text := reading.line.text
  match reading.container with
  | .paragraph backwards noTable =>
    if dialect.tables && !noTable then (markerRow? text).map fun alignments => reading.openTable backwards alignments
    else none
  | .table alignments => if dialect.tables && !text.isEmpty then some (reading.addRow alignments) else none
  | _ => none

/-- How many blocks one line may open. -/
def maxDepth : Nat := 100

/-- The block that a line opens where it has been read to, if it opens one. -/
def openAny? (dialect : Dialect) (mayBeLazy : Bool) (nesting : Nat) (reading : Reading) : Option Reading :=
  let { line, .. } := reading
  let text := line.text
  let container := reading.container
  let inParagraph := container.isParagraph
  if 4 ≤ line.indent then
    if mayBeLazy || line.isBlankLine then none
    else some (reading.openBlock dialect (.indentedCode []) (line.skipColumns 4))
  else if text.head? = some '>' then some (reading.openBlock dialect .quote (skipQuoteMark line))
  else if let some (level, content) := headingStart? text then
    some (reading.addBlock dialect (.heading level) content)
  else if let some (mark, length) := fenceStart? text then
    let offset := line.rest.length - text.length
    let info := text.drop length
    some { reading.openBlock dialect (.fencedCode mark length offset info []) { rest := [] } with finished := true }
  else if let some kind := htmlBlockStart? inParagraph (text ++ line.ending) then
    some (reading.openBlock dialect (.html kind []) line)
  else if let .paragraph backwards noTable := container then
    if let some level := underline? text then some (reading.underlineParagraph backwards noTable level)
    else openOther? text container
  else openOther? text container
where
  openOther? (text : List Char) (container : OpenKind) : Option Reading :=
    if isThematicBreak text then some (reading.addBlock dialect .thematicBreak [])
    else match if dialect.footnotes ∧ nesting < maxDepth then footnoteStart? text else none with
      | some (label, length) =>
        some (reading.openBlock dialect (.footnote label) (reading.line.skipBlanks.skipChars length).skipBlanks)
      | none =>
        match if nesting < maxDepth then listMarker? container.isParagraph text else none with
        | some (marker, length) => some (reading.openItem dialect marker length)
        | none => reading.convert? dialect

def openAll (dialect : Dialect) (mayBeLazy : Bool) (nesting : Nat) : Nat → Reading → Reading
  | 0, reading => reading
  | fuel + 1, reading =>
    match reading.container with
    | .fencedCode .. | .indentedCode _ | .html .. => reading
    | _ =>
      match reading.openAny? dialect mayBeLazy nesting with
      | none => reading
      | some next =>
        if next.finished || next.container.isParagraph then next else openAll dialect false (nesting + 1) fuel next

/-- Whether a blank line at the end of a block is remembered. -/
def remembersBlank (lineCount : Nat) (hasInner : Bool) (block : OpenBlock) : Bool :=
  match block.kind with
  | .quote | .fencedCode .. => false
  | .item _ line => hasInner || !block.children.isEmpty || line != lineCount
  | _ => true

/-- Remember that a line ended blank in the last block within a container: the outermost of the
blocks that it does not go on with, or else the last closed one. -/
def markLast (inner : List OpenBlock) (children : List Block) : List OpenBlock × List Block :=
  match inner.reverse, children with
  | last :: others, _ => (({ last with endsBlank := true } :: others).reverse, children)
  | [], child :: others => ([], child.markBlank :: others)
  | [], [] => ([], [])

/-- Remember for the blocks of a line whether the line is blank. -/
def markBlanks (reading : Reading) : Blocks :=
  let { opened, lineCount, .. } := reading.blocks
  let inner := opened.take (opened.length - reading.depth)
  match opened.drop (opened.length - reading.depth) with
  | [] => reading.blocks
  | container :: outer =>
    let outer := outer.map fun block => { block with endsBlank := false }
    if reading.line.isBlankLine ∧ ¬ reading.finished then
      let endsBlank := remembersBlank lineCount (!inner.isEmpty) container
      let (inner, children) := markLast inner container.children
      { reading.blocks with opened := inner ++ { container with endsBlank, children } :: outer }
    else
      let container := { container with endsBlank := reading.finished && reading.endsBlank }
      { reading.blocks with opened := inner ++ container :: outer }

def addLine (backwards line : List Char) : List Char := '\n' :: (line.reverse ++ backwards)

/-- Add a line as it stands, which may be the end of the text. -/
def addRaw (backwards : List Char) (line : Line) : List Char := line.ending ++ line.remainder.reverse ++ backwards

/-- Add what is left of a line to the block that it belongs to. -/
def addText (dialect : Dialect) (reading : Reading) : Blocks :=
  let line := reading.line
  match reading.blocks.opened with
  | [] => reading.blocks
  | block :: _ =>
    match block.kind with
    | .fencedCode mark length offset info backwards =>
      reading.blocks.setInnermost (.fencedCode mark length offset info (addRaw backwards line))
    | .indentedCode lines => reading.blocks.setInnermost (.indentedCode (line.remainder :: lines))
    | .html kind backwards =>
      let blocks := reading.blocks.setInnermost (.html kind (addRaw backwards line))
      if kind.endsWith line.text then blocks.closeInner dialect 1 else blocks
    | .paragraph backwards noTable =>
      if line.isBlankLine then reading.blocks
      else reading.blocks.setInnermost (.paragraph (addLine backwards line.text) noTable)
    | _ =>
      if line.isBlankLine then reading.blocks
      else (reading.blocks.makeRoom dialect false reading.blocks.opened.length).push
        { kind := .paragraph (addLine [] line.text) false }

/-- Whether the line goes on with a paragraph that it would otherwise end. -/
def isLazy (reading : Reading) : Bool :=
  match reading.blocks.opened with
  | { kind := .paragraph .., .. } :: _ => reading.depth < reading.blocks.opened.length && !reading.line.isBlankLine
  | _ => false

end Reading

def Blocks.readLine (dialect : Dialect) (blocks : Blocks) (line : Line) : Blocks :=
  let blocks := { blocks with lineCount := blocks.lineCount + 1 }
  let (depth, line, ends) := goOn 0 line blocks.opened.reverse
  if ends then blocks.closeTo dialect depth
  else
    let mayBeLazy := blocks.opened.head?.any fun block => block.kind.isParagraph
    let reading := Reading.openAll dialect mayBeLazy 1 (line.rest.length + 1) { blocks, depth, line }
    let marked := { reading with blocks := reading.markBlanks }
    if reading.isLazy then
      match marked.blocks.opened with
      | { kind := .paragraph backwards noTable, .. } :: _ =>
        marked.blocks.setInnermost (.paragraph (Reading.addLine backwards reading.line.remainder) noTable)
      | _ => marked.blocks
    else if reading.finished then marked.blocks
    else
      let settled := match reading.container, reading.line.isBlankLine with
        | .list .., false => marked.blocks.settleList reading.depth
        | _, _ => marked.blocks
      Reading.addText dialect { marked with blocks := settled.closeTo dialect reading.depth }

def readBlocks (dialect : Dialect) (lines : List Line) : List Block × References :=
  let blocks := (lines.foldl (Blocks.readLine dialect) {}).closeTo dialect 1
  match blocks.opened with
  | document :: _ => (document.children.reverse, blocks.references)
  | [] => ([], blocks.references)

end MarkdownHtml.Grammar
