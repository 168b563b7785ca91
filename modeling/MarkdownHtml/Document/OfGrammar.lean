import MarkdownHtml.Document.Footnotes
import MarkdownHtml.FrontMatter
import MarkdownHtml.Grammar.Tree

/-! The document of a grammar tree. Texts that meet become one, kinds without a counterpart give
way to their children, rows of a table are sorted into head and body, and front matter is read
into its entries. The trees still to be placed wait on a stack, each with its parent to be. -/

namespace MarkdownHtml.Document

/-- What becomes of a node of the grammar. -/
inductive Placement
  | node (kind : NodeKind)
  | text (literal : String)
  | table (alignments : List (Option Alignment))
  | frontMatter (raw : String)
  | flatten

def titleOf (title : String) : Option String := if title.isEmpty then none else some title

def placement : GrammarKind → Placement
  | .frontMatter raw => .frontMatter raw
  | .text literal => .text literal
  | .table alignments => .table alignments
  | .blockQuote => .node .blockQuote
  | .bulletList tight marker => .node (.bulletList tight marker)
  | .orderedList tight start delimiter => .node (.orderedList tight start delimiter)
  | .item => .node .listItem
  | .fencedCode info literal fenceChar fenceLength => .node (.fencedCodeBlock info literal fenceChar fenceLength)
  | .indentedCode literal => .node (.indentedCodeBlock literal)
  | .htmlBlock literal => .node (.htmlBlock literal)
  | .paragraph => .node .paragraph
  | .heading level => .node (.heading level)
  | .thematicBreak => .node .thematicBreak
  | .footnoteDefinition label => .node (.footnoteDefinition label 0 0)
  | .footnoteReference label => .node (.footnoteReference label 0 0)
  | .softBreak => .node .softLineBreak
  | .lineBreak => .node .hardLineBreak
  | .code literal => .node (.code literal)
  | .htmlInline literal => .node (.htmlInline literal)
  | .emphasis => .node .emphasis
  | .strong => .node .strongEmphasis
  | .strikethrough => .node .strikethrough
  | .link destination title => .node (.link destination (titleOf title))
  | .image destination title => .node (.image destination (titleOf title))
  | .tableRow _ | .tableCell | .other => .flatten

/-- Add text at the end of a parent: to its last child if that is a text, else as a new node. -/
def pushText (doc : Document) (parent : NodeId) (literal : String) : Document :=
  match doc.lastChild? parent with
  | none => (doc.appendNew parent (.text literal)).2
  | some last => match doc.kind? last with
    | some (.text existing) => doc.setKind last (.text (existing ++ literal))
    | _ => (doc.appendNew parent (.text literal)).2

/-- A table whose rows are being placed. -/
structure TableState where
  document : Document
  head : Option NodeId := none
  body : Option NodeId := none
  cells : List NodeId := []

/-- The head or the body that a row belongs to, made if it is not there yet. -/
def TableState.rowGroup (table : NodeId) (state : TableState) (header : Bool) : NodeId × TableState :=
  match header, state.head, state.body with
  | true, some head, _ => (head, state)
  | true, none, _ =>
    let (head, document) := state.document.appendNew table .tableHead
    (head, { state with document, head := some head })
  | false, _, some body => (body, state)
  | false, _, none =>
    let (body, document) := state.document.appendNew table .tableBody
    (body, { state with document, body := some body })

/-- A new cell at the end of a row. -/
def TableState.addCell (row : NodeId) (header : Bool) (state : TableState) (alignment : Option Alignment) :
    TableState :=
  let (cell, document) := state.document.appendNew row (.tableCell header alignment)
  { state with document, cells := state.cells ++ [cell] }

def TableState.addRow (table : NodeId) (alignments : List (Option Alignment)) (state : TableState)
    (row : GrammarTree) : TableState :=
  let header := row.kind == .tableRow true
  let (parent, state) := state.rowGroup table header
  let (id, document) := state.document.appendNew parent .tableRow
  let columns := (List.range row.children.length).map fun column => alignments[column]?.join
  columns.foldl (addCell id header) { state with document }

/-- The nodes of a table, and those of its cells in order. -/
def appendTable (doc : Document) (parent : NodeId) (alignments : List (Option Alignment)) (rows : List GrammarTree) :
    Document × List NodeId :=
  let (table, document) := doc.appendNew parent .tableBlock
  let state := rows.foldl (TableState.addRow table alignments) { document }
  (state.document, state.cells)

def appendFrontMatter (doc : Document) (parent : NodeId) (entries : List FrontMatter.Entry) : Document :=
  let (block, doc) := doc.appendNew parent .frontMatterBlock
  entries.foldl (fun doc entry => (doc.appendNew block (.frontMatterEntry entry.key entry.values)).2) doc

/-- Trees that wait for a place below one parent. -/
def under (parent : NodeId) (trees : List GrammarTree) : List (GrammarTree × NodeId) := trees.map (·, parent)

/-- The children of the rows of a table, each to be placed below its cell. -/
def underCells (cells : List NodeId) (rows : List GrammarTree) : List (GrammarTree × NodeId) :=
  (rows.flatMap GrammarTree.children).zip cells

/-- The number of grammar nodes on the stack. -/
def pending (stack : List (GrammarTree × NodeId)) : Nat := GrammarTree.sizes (stack.map (·.1))

theorem sizes_append (first second : List GrammarTree) :
    GrammarTree.sizes (first ++ second) = GrammarTree.sizes first + GrammarTree.sizes second := by
  induction first with
  | nil => simp [GrammarTree.sizes]
  | cons tree rest ih => simp [GrammarTree.sizes, ih, Nat.add_assoc]

theorem sizes_zip_le (trees : List GrammarTree) (ids : List NodeId) :
    GrammarTree.sizes ((trees.zip ids).map (·.1)) ≤ GrammarTree.sizes trees := by
  induction trees generalizing ids with
  | nil => simp [GrammarTree.sizes]
  | cons tree rest ih =>
    cases ids with
    | nil => simp [GrammarTree.sizes]
    | cons id ids =>
      have := ih ids
      simp only [List.zip_cons_cons, List.map_cons, GrammarTree.sizes]
      omega

theorem sizes_grandchildren_le (trees : List GrammarTree) :
    GrammarTree.sizes (trees.flatMap GrammarTree.children) ≤ GrammarTree.sizes trees := by
  induction trees with
  | nil => simp [GrammarTree.sizes]
  | cons tree rest ih =>
    obtain ⟨kind, children⟩ := tree
    simp only [List.flatMap_cons, sizes_append, GrammarTree.sizes, GrammarTree.size, GrammarTree.children]
    omega

theorem pending_cons (tree : GrammarTree) (parent : NodeId) (rest : List (GrammarTree × NodeId)) :
    pending ((tree, parent) :: rest) = tree.size + pending rest := by
  simp [pending, GrammarTree.sizes]

theorem pending_under (parent : NodeId) (trees : List GrammarTree) (rest : List (GrammarTree × NodeId)) :
    pending (under parent trees ++ rest) = GrammarTree.sizes trees + pending rest := by
  simp [pending, under, sizes_append, Function.comp_def]

theorem pending_underCells (cells : List NodeId) (rows : List GrammarTree) (rest : List (GrammarTree × NodeId)) :
    pending (underCells cells rows ++ rest) ≤ GrammarTree.sizes rows + pending rest := by
  have kept := sizes_zip_le (rows.flatMap GrammarTree.children) cells
  have fewer := sizes_grandchildren_le rows
  simp only [pending, underCells, List.map_append, sizes_append]
  omega

/-- Place every tree on the stack. Events are kept last first. -/
def place (doc : Document) (events : List Event) : List (GrammarTree × NodeId) → Document × List Event
  | [] => (doc, events)
  | (.node kind children, parent) :: rest =>
    match placement kind with
    | .node kind =>
      let (id, doc) := doc.appendNew parent kind
      place doc events (under id children ++ rest)
    | .text literal => place (doc.pushText parent literal) events rest
    | .table alignments =>
      let (doc, cells) := doc.appendTable parent alignments children
      place doc events (underCells cells children ++ rest)
    | .frontMatter raw =>
      let (entries, warnings) := FrontMatter.parse raw
      place (doc.appendFrontMatter parent entries) (warnings.reverse ++ events) rest
    | .flatten => place doc (.flattened :: events) (under parent children ++ rest)
termination_by stack => pending stack
decreasing_by
  all_goals simp only [pending_cons, pending_under, GrammarTree.size]
  · omega
  · omega
  · rename_i cells
    have := pending_underCells cells children rest
    omega
  · omega
  · omega

/-- The document of the blocks of a text, with its footnotes numbered. -/
def ofGrammar (blocks : List GrammarTree) : Document × List Event :=
  let (doc, events) := place empty [] (under root blocks)
  let (doc, dropped) := doc.numberFootnotes
  (doc, events.reverse ++ dropped)

end MarkdownHtml.Document
