import MarkdownHtml.Document.Walk
import MarkdownHtml.Event
import MarkdownHtml.OrderedMap

/-! Metadata: the front matter entries of a document by key, in order of first appearance. -/

namespace MarkdownHtml

abbrev Metadata := OrderedMap String (List String)

namespace Metadata

/-- Add the values of one entry behind those that its key has already. -/
def addEntry (metadata : Metadata) (key : String) (values : List String) : Metadata :=
  metadata.insert key ((metadata.get? key).getD [] ++ values)

def addNode (doc : Document) (metadata : Metadata) (id : NodeId) : Metadata :=
  match doc.kind? id with
  | some (.frontMatterEntry key values) => metadata.addEntry key values
  | _ => metadata

def ofDocument (doc : Document) : Metadata × List Event :=
  let metadata := (doc.descendants Document.root).foldl (addNode doc) {}
  (metadata, [.extractedKeys metadata.size])

end Metadata

/-- What a pipeline makes of a text. There is no metadata if front matter is not asked for. -/
structure Rendered where
  html : String
  metadata : Option Metadata
  deriving Inhabited

def Rendered.get? (rendered : Rendered) (key : String) : Option (List String) :=
  rendered.metadata.bind fun metadata => metadata.get? key

end MarkdownHtml
