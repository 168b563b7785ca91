import MarkdownHtml.Node.Kind

/-! The tree of blocks and inlines that the grammar of Markdown makes of a text. It has kinds that
no node of a document corresponds to. -/

namespace MarkdownHtml

inductive GrammarKind
  | frontMatter (raw : String)
  | text (literal : String)
  | table (alignments : List (Option Alignment))
  | tableRow (header : Bool)
  | tableCell
  | blockQuote
  | bulletList (tight : Bool) (marker : Char)
  | orderedList (tight : Bool) (start : Nat) (delimiter : Char)
  | item
  | fencedCode (info literal : String) (fenceChar : Char) (fenceLength : Nat)
  | indentedCode (literal : String)
  | htmlBlock (literal : String)
  | paragraph
  | heading (level : Nat)
  | thematicBreak
  | footnoteDefinition (label : String)
  | footnoteReference (label : String)
  | softBreak
  | lineBreak
  | code (literal : String)
  | htmlInline (literal : String)
  | emphasis
  | strong
  | strikethrough
  | link (destination title : String)
  | image (destination title : String)
  /-- A kind that nothing is made of but its children. -/
  | other
  deriving DecidableEq, Repr, Inhabited

inductive GrammarTree
  | node (kind : GrammarKind) (children : List GrammarTree)
  deriving Repr, Inhabited

namespace GrammarTree

def kind : GrammarTree → GrammarKind
  | node kind _ => kind

def children : GrammarTree → List GrammarTree
  | node _ children => children

def leaf (kind : GrammarKind) : GrammarTree := node kind []

mutual

/-- The number of nodes of a tree. -/
def size : GrammarTree → Nat
  | node _ children => 1 + sizes children

def sizes : List GrammarTree → Nat
  | [] => 0
  | tree :: rest => tree.size + sizes rest

end

end GrammarTree

end MarkdownHtml
