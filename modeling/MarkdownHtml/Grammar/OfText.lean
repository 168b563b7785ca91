import MarkdownHtml.Grammar.FootnoteUse
import MarkdownHtml.Grammar.InlineReader
import MarkdownHtml.Grammar.JoinedText

/-! The grammar trees of a text: its front matter, then its blocks with their inlines. -/

namespace MarkdownHtml.Grammar

mutual

def Block.toTree (dialect : Dialect) (references : References) : Block → GrammarTree
  | .mk kind text _ children =>
    .node kind (readInlines dialect references text ++ Block.toTrees dialect references children)

def Block.toTrees (dialect : Dialect) (references : References) : List Block → List GrammarTree
  | [] => []
  | block :: rest => block.toTree dialect references :: Block.toTrees dialect references rest

end

def frontMatterMark : List Char := "---".toList

def dropNewline? : List Char → Option (List Char)
  | '\n' :: rest | '\r' :: '\n' :: rest => some rest
  | _ => none

/-- The front matter at the beginning of a text and what follows it. It stands between lines of three
hyphens; a blank line behind it belongs to it. -/
def splitFrontMatter? (text : List Char) : Option (List Char × List Char) := do
  let inner ← dropNewline? (← dropLiteral? frontMatterMark text)
  let closing := fun newline => splitAfter? ('\n' :: frontMatterMark ++ newline) inner
  let (_, rest) ← closing ['\r', '\n'] <|> closing ['\n']
  let rest := (dropNewline? rest).getD rest
  return (text.take (text.length - rest.length), rest)

def byteOrderMark : Char := '\ufeff'

/-- The trees of the blocks of a text. -/
def blockTrees (dialect : Dialect) (text : List Char) : List GrammarTree :=
  let (blocks, references) := readBlocks dialect (splitLines text)
  let trees := Block.toTrees dialect references blocks
  let trees := if dialect.footnotes then settleFootnotes trees else trees
  joinAllTexts { enabled := dialect.autolink, relaxed := dialect.options.relaxedAutolinks } [] trees

end Grammar

open Grammar

/-- Read a text. -/
def GrammarTree.ofText (dialect : Dialect) (text : String) : List GrammarTree :=
  let text := match text.toList with
    | c :: rest => if c = byteOrderMark then rest else c :: rest
    | [] => []
  match if dialect.frontMatter then splitFrontMatter? text else none with
  | some (raw, rest) => .leaf (.frontMatter (String.ofList raw)) :: blockTrees dialect rest
  | none => blockTrees dialect text

end MarkdownHtml
