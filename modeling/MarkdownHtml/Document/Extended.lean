import MarkdownHtml.Document.ImageAttributes
import MarkdownHtml.Document.Inserted
import MarkdownHtml.Document.TaskItems

/-! What the extensions do to a document that has been read. -/

namespace MarkdownHtml.Document

def applyExtension (doc : Document) : Extension → Document × List Event
  | .ins => doc.markInserted
  | .imageAttributes => (doc.attachImageAttributes, [])
  | .taskList => (doc.markTaskItems, [])
  | .autolink | .strikethrough | .tables | .footnotes | .yamlFrontMatter | .headingAnchors => (doc, [])

/-- Apply the extensions one after another. -/
def applyExtensions (doc : Document) (extensions : List Extension) : Document × List Event :=
  extensions.foldl (fun state extension =>
    let (doc, events) := state.1.applyExtension extension
    (doc, state.2 ++ events)) (doc, [])

end MarkdownHtml.Document
