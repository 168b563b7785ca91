import MarkdownHtml.Document.Extended
import MarkdownHtml.Document.OfGrammar
import MarkdownHtml.Grammar.OfText

/-! The document of a text: its grammar trees are made into a document, to which the extensions are
applied. Every text has one. -/

namespace MarkdownHtml.Document

def ofText (text : String) (extensions : List Extension) (options : ParserOptions) : Document × List Event :=
  let dialect := Grammar.Dialect.ofExtensions extensions options
  let (read, made) := ofGrammar (GrammarTree.ofText dialect text)
  let (doc, applied) := read.applyExtensions extensions
  (doc, made ++ applied ++ [.parsed doc.nodeCount extensions.length])

end MarkdownHtml.Document
