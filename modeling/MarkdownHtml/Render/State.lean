import MarkdownHtml.Options
import MarkdownHtml.Render.Rules
import MarkdownHtml.Slug
import MarkdownHtml.Url

/-! One rendering: what it is given, what it changes, and the stage in which the attributes of a
tag are decorated. A computation may fail with an error of a callback, which leaves what has been
written, or run out of its budget. -/

namespace MarkdownHtml
open Html

/-- What does not change while a document is rendered. -/
structure Renderer where
  document : Document
  rules : RuleSet := {}
  options : RendererOptions := {}
  headingAnchors : Bool := false
  imageAttributes : Bool := false

structure RenderState where
  writer : Writer := {}
  anchors : AnchorIds := {}
  /-- The id of each heading that has one. It is made once, however often the heading is decorated. -/
  headingIds : List (NodeId × String) := []

abbrev RenderM := ExceptT Error (StateT RenderState Option)

namespace RenderM

/-- The end of a computation whose budget is used up. -/
def exhausted : RenderM α := fun _ => none

def write (call : Write) : RenderM Unit := modify fun state => { state with writer := state.writer.perform call }

def raw (text : String) : RenderM Unit := write (.raw text)

def text (content : String) : RenderM Unit := write (.text content)

def line : RenderM Unit := write .line

def closeTag (name : String) : RenderM Unit := write (.closeTag name)

/-- Hand the error of a computation to whoever asked for it. What has been written stays. -/
def reify (computation : RenderM α) : RenderM (Except CallbackError α) := fun state =>
  match computation state with
  | none => none
  | some (.ok value, state) => some (.ok (.ok value), state)
  | some (.error error, state) => some (.ok (.error (.nested error)), state)

end RenderM

namespace Renderer
open RenderM

def node (renderer : Renderer) (id : NodeId) : NodeRef := ⟨renderer.document, id⟩

/-- The id of a heading, made when it is asked for the first time. -/
def headingId (renderer : Renderer) (id : NodeId) : RenderM String := do
  let state ← get
  match state.headingIds.lookup id with
  | some anchor => return anchor
  | none =>
    let (anchor, anchors) := state.anchors.generate (renderer.document.textContent id)
    set { state with anchors, headingIds := (id, anchor) :: state.headingIds }
    return anchor

def imageAttributesOf (doc : Document) (image : NodeId) : List (String × String) :=
  (doc.childIds image).flatMap fun child =>
    match doc.kind? child with
    | some (.imageAttributes attributes) => attributes
    | _ => []

/-- The decoration that no rule of a caller has to ask for. -/
def decorateBuiltin (renderer : Renderer) (id : NodeId) (attributes : AttributeSet) : RenderM AttributeSet := do
  match renderer.document.kind? id with
  | some (.heading _) =>
    if renderer.headingAnchors then
      return attributes.insert "id" (← renderer.headingId id)
    else return attributes
  | some (.image ..) =>
    if renderer.imageAttributes then
      return (imageAttributesOf renderer.document id).foldl (fun set entry => set.insert entry.1 entry.2) attributes
    else return attributes
  | _ => return attributes

/-- Run attribute rules one after another on the same set. -/
def applyRules (node : NodeRef) (type : NodeType) (tag : String) (attributes : AttributeSet) :
    List AttributeRule → Except Error AttributeSet
  | [] => .ok attributes
  | rule :: rest =>
    match rule.apply node tag attributes with
    | .ok attributes => applyRules node type tag attributes rest
    | .error error => .error (Error.ofCallback (.attributes type tag) error)

/-- The attributes of a tag that a node writes: its own ones, then what the rules make of them. -/
def attributes (renderer : Renderer) (id : NodeId) (tag : String) (base : AttributeSet) : RenderM AttributeSet := do
  let decorated ← renderer.decorateBuiltin id base
  match renderer.document.type? id with
  | none => return decorated
  | some type =>
    match applyRules (renderer.node id) type tag decorated (renderer.rules.attributeRulesFor type) with
    | .ok attributes => return attributes
    | .error error => throw error

def openTag (renderer : Renderer) (id : NodeId) (tag : String) (base : AttributeSet := {}) : RenderM Unit := do
  write (.tagWith tag (← renderer.attributes id tag base))

def voidTag (renderer : Renderer) (id : NodeId) (tag : String) (base : AttributeSet := {}) : RenderM Unit := do
  write (.voidTag tag (← renderer.attributes id tag base))

/-- A destination as the options want it. -/
def prepareUrl (options : RendererOptions) (destination : String) : String :=
  let url := if options.sanitizeUrls then Url.sanitize destination else destination
  if options.percentEncodeUrls then Url.percentEncode url else url

end Renderer

end MarkdownHtml
