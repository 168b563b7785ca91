import MarkdownHtml.Render.Builtin

/-! The rendering of a document: a stack of steps, each of which enters or leaves a node. A node
whose type has a render rule is given to that rule, which may have any node rendered in turn. -/

namespace MarkdownHtml.Renderer
open Html RenderM

inductive Step
  | enter (id : NodeId)
  | exit (id : NodeId)
  deriving DecidableEq, Repr

/-- Carry out the program of a rule for a node. -/
def exec (renderer : Renderer) (render : NodeId → RenderM Unit) (id : NodeId) : RenderProgram α → RenderM α
  | .done value => return value
  | .write call next => do
    write call
    renderer.exec render id next
  | .output next => do
    renderer.exec render id (next (← get).writer.html)
  | .renderChildren node next => do
    let result ← reify ((renderer.document.childIds node).forM render)
    renderer.exec render id (next result)
  | .render node next => do
    let result ← reify (render node)
    renderer.exec render id (next result)
  | .attributes tag base next => do
    let result ← reify (renderer.attributes id tag base)
    renderer.exec render id (next result)

def runRule (renderer : Renderer) (render : NodeId → RenderM Unit) (id : NodeId) (type : NodeType) (rule : RenderRule) :
    RenderM Unit := do
  match ← renderer.exec render id (rule (renderer.node id)) with
  | .ok () => return
  | .error error => throw (Error.ofCallback (.render type) error)

/-- The steps that render the children of a node and then leave it. -/
def descend (renderer : Renderer) (id : NodeId) : List Step :=
  ((renderer.document.childIds id).filter fun child => !isDeferred renderer.document child).map .enter ++ [.exit id]

/-- Take one step, and say which steps come next because of it. -/
def perform (renderer : Renderer) (render : NodeId → RenderM Unit) : Step → RenderM (List Step)
  | .exit id => do
    renderer.exit render id
    return []
  | .enter id => do
    match renderer.document.type? id with
    | none => return []
    | some type =>
      match renderer.rules.renderRule? type with
      | some rule =>
        renderer.runRule render id type rule
        return []
      | none =>
        match ← renderer.enter id with
        | .children => return renderer.descend id
        | .done => return []

/-- Take the steps of a stack. The budget bounds the steps taken on the way to any point, those of
the renderings around it included. -/
def run (renderer : Renderer) : Nat → List Step → RenderM Unit
  | _, [] => return
  | 0, _ :: _ => exhausted
  | budget + 1, step :: rest => do
    let steps ← renderer.perform (fun id => run renderer budget [.enter id]) step
    run renderer budget (steps ++ rest)

def render (renderer : Renderer) (budget : Nat) (id : NodeId) : RenderM Unit := renderer.run budget [.enter id]

/-- Two steps for every node are enough where no rule has nodes rendered again; the factor is for
rules that do. -/
def defaultBudget (doc : Document) : Nat := (2 * doc.size + 1) * 4294967296

def ofExtensions (document : Document) (extensions : List Extension) (options : RendererOptions) (rules : RuleSet) :
    Renderer :=
  { document, rules, options
    headingAnchors := extensions.contains .headingAnchors
    imageAttributes := extensions.contains .imageAttributes }

/-- The HTML of a document, or the error of a rule. There is neither if rules have nodes rendered
without end. -/
def renderDocument (doc : Document) (extensions : List Extension) (options : RendererOptions) (rules : RuleSet) :
    Option (Except Error String) :=
  ((ofExtensions doc extensions options rules).render (defaultBudget doc) Document.root {}).map fun outcome =>
    outcome.1.map fun _ => outcome.2.writer.html

end MarkdownHtml.Renderer
