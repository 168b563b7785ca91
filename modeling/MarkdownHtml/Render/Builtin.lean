import MarkdownHtml.Render.Footnote
import MarkdownHtml.Text.Space

/-! The HTML of each kind of node. Block tags stand on lines of their own, inline tags where they
are written. Every rule has two halves: what comes before the children, and what comes after. -/

namespace MarkdownHtml.Renderer
open Html RenderM

/-- Definitions at the top level wait for the section at the end of their document. -/
def isDeferred (doc : Document) (id : NodeId) : Bool :=
  doc.type? id == some .footnoteDefinition && (doc.parent? id).bind doc.type? == some .document

def isTightList : NodeKind → Bool
  | .bulletList tight _ | .orderedList tight _ _ => tight
  | _ => false

def inTightList (doc : Document) (paragraph : NodeId) : Bool :=
  (((doc.parent? paragraph).bind doc.parent?).bind doc.kind?).any isTightList

def isLoneTopLevel (doc : Document) (paragraph : NodeId) : Bool :=
  (doc.parent? paragraph).bind doc.type? == some .document && (doc.previous? paragraph).isNone &&
    (doc.next? paragraph).isNone

def omitsParagraphTag (renderer : Renderer) (id : NodeId) : Bool :=
  inTightList renderer.document id ||
    (renderer.options.omitSingleParagraphP && isLoneTopLevel renderer.document id)

def enterBlock (renderer : Renderer) (id : NodeId) (tag : String) (base : AttributeSet := {}) : RenderM Unit := do
  line
  renderer.openTag id tag base
  line

def exitBlock (tag : String) : RenderM Unit := do
  line
  closeTag tag
  line

def codeBlock (renderer : Renderer) (id : NodeId) (literal : String) (base : AttributeSet) : RenderM Unit := do
  line
  renderer.openTag id "pre"
  renderer.openTag id "code" base
  text literal
  closeTag "code"
  closeTag "pre"
  line

/-- The class of a code block: the first word of its info string names the language. -/
def languageClass (info : String) : AttributeSet :=
  match Text.words info.toList with
  | language :: _ => .ofList [("class", "language-" ++ String.ofList language)]
  | [] => {}

def tableTag : NodeKind → String
  | .tableHead => "thead"
  | .tableBody => "tbody"
  | .tableRow => "tr"
  | .tableCell true _ => "th"
  | .tableCell false _ => "td"
  | _ => "table"

def cellAlignment : NodeKind → AttributeSet
  | .tableCell _ (some alignment) => .ofList [("align", alignment.htmlValue)]
  | _ => {}

def withTitle (title : Option String) (attributes : List (String × String)) : AttributeSet :=
  .ofList (attributes ++ (title.map fun title => ("title", title)).toList)

def linkAttributes (options : RendererOptions) (destination : String) (title : Option String) : AttributeSet :=
  let rel := if options.sanitizeUrls then [("rel", "nofollow")] else []
  withTitle title (rel ++ [("href", prepareUrl options destination)])

def checkboxAttributes (checked : Bool) : AttributeSet :=
  .ofList ([("type", "checkbox"), ("disabled", "")] ++ if checked then [("checked", "")] else [])

def startAttribute (start : Nat) : AttributeSet :=
  if start = 1 then {} else .ofList [("start", toString start)]

/-- Whether the children of a node are rendered after its first half. -/
inductive Descent
  | children | done
  deriving DecidableEq, Repr

def enter (renderer : Renderer) (id : NodeId) : RenderM Descent := do
  let options := renderer.options
  match renderer.document.kind? id with
  | none => return .done
  | some kind => match kind with
    | .document => return .children
    | .heading level =>
      line
      renderer.openTag id s!"h{level}"
      return .children
    | .paragraph =>
      unless renderer.omitsParagraphTag id do
        line
        renderer.openTag id "p"
      return .children
    | .blockQuote =>
      renderer.enterBlock id "blockquote"
      return .children
    | .bulletList .. =>
      renderer.enterBlock id "ul"
      return .children
    | .orderedList _ start _ =>
      renderer.enterBlock id "ol" (startAttribute start)
      return .children
    | .listItem =>
      renderer.openTag id "li"
      return .children
    | .fencedCodeBlock info literal _ _ =>
      renderer.codeBlock id literal (languageClass info)
      return .done
    | .indentedCodeBlock literal =>
      renderer.codeBlock id literal {}
      return .done
    | .thematicBreak =>
      line
      renderer.voidTag id "hr"
      line
      return .done
    | .htmlBlock literal =>
      line
      if options.escapeHtml then
        renderer.openTag id "p"
        text literal
        closeTag "p"
      else raw literal
      line
      return .done
    | .text literal =>
      text literal
      return .done
    | .emphasis =>
      renderer.openTag id "em"
      return .children
    | .strongEmphasis =>
      renderer.openTag id "strong"
      return .children
    | .code literal =>
      renderer.openTag id "code"
      text literal
      closeTag "code"
      return .done
    | .link destination title =>
      renderer.openTag id "a" (linkAttributes options destination title)
      return .children
    | .image destination title =>
      renderer.voidTag id "img" (withTitle title
        [("src", prepareUrl options destination), ("alt", renderer.document.textContent id)])
      return .done
    | .htmlInline literal =>
      if options.escapeHtml then text literal else raw literal
      return .done
    | .softLineBreak =>
      raw options.softbreak
      return .done
    | .hardLineBreak =>
      renderer.voidTag id "br"
      line
      return .done
    | .strikethrough =>
      renderer.openTag id "del"
      return .children
    | .ins =>
      renderer.openTag id "ins"
      return .children
    | .tableBlock | .tableHead | .tableBody | .tableRow | .tableCell .. =>
      line
      renderer.openTag id (tableTag kind) (cellAlignment kind)
      return .children
    | .taskListMarker checked =>
      renderer.openTag id "input" (checkboxAttributes checked)
      text " "
      return .done
    | .footnoteReference label number occurrence =>
      renderer.footnoteReference id label number occurrence
      return .done
    | .footnoteDefinition label _ _ =>
      renderer.enterFootnoteDefinition id label
      return .children
    | .frontMatterBlock | .frontMatterEntry .. | .imageAttributes .. => return .done

/-- The end of a paragraph. The last one of a footnote definition has the links back. -/
def exitParagraph (renderer : Renderer) (id : NodeId) : RenderM Unit := do
  let doc := renderer.document
  if let some definition := doc.parent? id then
    if doc.type? definition == some .footnoteDefinition && (doc.next? id).isNone then
      raw " "
      renderer.footnoteBackrefs definition
  unless renderer.omitsParagraphTag id do
    closeTag "p"
    line

/-- What comes after the children. The end of a document has its footnotes rendered. -/
def exit (renderer : Renderer) (render : NodeId → RenderM Unit) (id : NodeId) : RenderM Unit := do
  match renderer.document.kind? id with
  | none => return
  | some kind => match kind with
    | .document =>
      let definitions := (renderer.document.childIds id).filter (isDeferred renderer.document)
      unless definitions.isEmpty do
        renderer.footnoteSection render id definitions
    | .heading level =>
      closeTag s!"h{level}"
      line
    | .paragraph => renderer.exitParagraph id
    | .blockQuote => exitBlock "blockquote"
    | .bulletList .. => exitBlock "ul"
    | .orderedList .. => exitBlock "ol"
    | .listItem =>
      closeTag "li"
      line
    | .emphasis => closeTag "em"
    | .strongEmphasis => closeTag "strong"
    | .link .. => closeTag "a"
    | .strikethrough => closeTag "del"
    | .ins => closeTag "ins"
    | .tableBlock | .tableHead | .tableBody | .tableRow | .tableCell .. =>
      closeTag (tableTag kind)
      line
    | .footnoteDefinition .. => renderer.exitFootnoteDefinition id
    | _ => return

end MarkdownHtml.Renderer
