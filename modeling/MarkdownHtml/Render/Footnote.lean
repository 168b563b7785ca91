import MarkdownHtml.Render.State

/-! The HTML of footnotes. A reference links to its definition, and a definition links back to each
of its references. -/

namespace MarkdownHtml.Renderer
open Html RenderM

def backArrow : String := "\u21a9"

def definitionId (label : String) : String := "fn-" ++ label

def referenceId (label : String) (occurrence : Nat) : String :=
  if occurrence > 1 then "fnref-" ++ label ++ "-" ++ toString occurrence else "fnref-" ++ label

def footnoteReference (renderer : Renderer) (id : NodeId) (label : String) (number occurrence : Nat) :
    RenderM Unit := do
  renderer.openTag id "sup" (.ofList [("class", "footnote-ref")])
  renderer.openTag id "a" (.ofList
    [("href", "#" ++ definitionId label), ("id", referenceId label occurrence), ("data-footnote-ref", "")])
  raw (toString number)
  closeTag "a"
  closeTag "sup"

/-- The number of a footnote, with the occurrence of the reference unless it is the first one. -/
def backrefIndex (number occurrence : Nat) : String :=
  if occurrence > 1 then toString number ++ "-" ++ toString occurrence else toString number

/-- The link from a definition back to one of its references. -/
def footnoteBackref (renderer : Renderer) (id : NodeId) (label : String) (number references occurrence : Nat) :
    RenderM Unit := do
  let index := backrefIndex number occurrence
  renderer.openTag id "a" (.ofList
    [("href", "#" ++ referenceId label occurrence), ("class", "footnote-backref"), ("data-footnote-backref", ""),
      ("data-footnote-backref-idx", index), ("aria-label", "Back to reference " ++ index)])
  if occurrence > 1 then
    renderer.openTag id "sup" (.ofList [("class", "footnote-ref")])
    raw (toString occurrence)
    closeTag "sup"
  raw backArrow
  closeTag "a"
  if occurrence < references then raw " "

def footnoteBackrefs (renderer : Renderer) (id : NodeId) : RenderM Unit :=
  match renderer.document.kind? id with
  | some (.footnoteDefinition label number references) =>
    (List.range references).forM fun earlier =>
      renderer.footnoteBackref id label number references (earlier + 1)
  | _ => return

def enterFootnoteDefinition (renderer : Renderer) (id : NodeId) (label : String) : RenderM Unit := do
  line
  renderer.openTag id "li" (.ofList [("id", definitionId label)])
  line

/-- The end of a definition. If a paragraph is its last child, that one has the links back. -/
def exitFootnoteDefinition (renderer : Renderer) (id : NodeId) : RenderM Unit := do
  let last := (renderer.document.lastChild? id).bind renderer.document.type?
  unless last == some .paragraph do
    line
    renderer.footnoteBackrefs id
  line
  closeTag "li"
  line

/-- The section of the definitions at the end of a document. -/
def footnoteSection (renderer : Renderer) (render : NodeId → RenderM Unit) (id : NodeId) (definitions : List NodeId) :
    RenderM Unit := do
  line
  renderer.openTag id "section" (.ofList [("class", "footnotes"), ("data-footnotes", "")])
  line
  renderer.openTag id "ol"
  line
  definitions.forM render
  line
  closeTag "ol"
  line
  closeTag "section"
  line

end MarkdownHtml.Renderer
