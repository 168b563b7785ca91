import MarkdownHtml.Html.AttributeSet
import MarkdownHtml.Html.Escape

/-! The output of a rendering: text that grows at its end. The last character is kept beside the
text, so that a fresh line can be asked for without reading it. -/

namespace MarkdownHtml.Html

structure Writer where
  html : String := ""
  last : Option Char := none
  deriving Repr

namespace Writer

/-- Write text as it stands. -/
def raw (writer : Writer) (text : String) : Writer :=
  match text.toList.getLast? with
  | none => writer
  | some c => { html := writer.html ++ text, last := some c }

def text (writer : Writer) (content : String) : Writer := writer.raw (escape content)

def tag (writer : Writer) (name : String) : Writer := ((writer.raw "<").raw name).raw ">"

def assignment (writer : Writer) (name value : String) : Writer :=
  ((((writer.raw " ").text name).raw "=\"").text value).raw "\""

/-- The beginning of a tag, up to the bracket that ends it. -/
def openTag (writer : Writer) (name : String) (attributes : AttributeSet) : Writer :=
  attributes.entries.foldl (fun writer entry => writer.assignment entry.1 entry.2) ((writer.raw "<").raw name)

def tagWith (writer : Writer) (name : String) (attributes : AttributeSet) : Writer :=
  (writer.openTag name attributes).raw ">"

def voidTag (writer : Writer) (name : String) (attributes : AttributeSet) : Writer :=
  (writer.openTag name attributes).raw " />"

def closeTag (writer : Writer) (name : String) : Writer := ((writer.raw "</").raw name).raw ">"

/-- Begin a fresh line, unless the output is already at the beginning of one. -/
def line (writer : Writer) : Writer :=
  match writer.last with
  | none => writer
  | some c => if c = '\n' then writer else writer.raw "\n"

end Writer

/-- One call to a writer. -/
inductive Write
  | raw (text : String)
  | text (content : String)
  | tag (name : String)
  | tagWith (name : String) (attributes : AttributeSet)
  | voidTag (name : String) (attributes : AttributeSet)
  | closeTag (name : String)
  | line

def Writer.perform (writer : Writer) : Write → Writer
  | .raw text => writer.raw text
  | .text content => writer.text content
  | .tag name => writer.tag name
  | .tagWith name attributes => writer.tagWith name attributes
  | .voidTag name attributes => writer.voidTag name attributes
  | .closeTag name => writer.closeTag name
  | .line => writer.line

end MarkdownHtml.Html
