import MarkdownHtml.Document.Basic

/-! Walks over a document by its links. A walk in a finite forest never meets a node twice, so
the number of nodes bounds every walk. -/

namespace MarkdownHtml.Document

/-- A node and the siblings behind it. -/
def chain (doc : Document) : Nat → Option NodeId → List NodeId
  | 0, _ | _, none => []
  | fuel + 1, some id => id :: doc.chain fuel (doc.next? id)

def childIds (doc : Document) (id : NodeId) : List NodeId := doc.chain doc.size (doc.firstChild? id)

/-- The next node after a whole subtree, in the walk that began at `top`. -/
def climb (doc : Document) (top : NodeId) : Nat → NodeId → Option NodeId
  | 0, _ => none
  | fuel + 1, id =>
    if id = top then none
    else match doc.next? id with
      | some next => some next
      | none => match doc.parent? id with
        | some parent => doc.climb top fuel parent
        | none => none

/-- The next node in the pre-order walk that began at `top`. -/
def successor (doc : Document) (top id : NodeId) : Option NodeId :=
  match doc.firstChild? id with
  | some child => some child
  | none => doc.climb top doc.size id

def walk (doc : Document) (top : NodeId) : Nat → Option NodeId → List NodeId
  | 0, _ | _, none => []
  | fuel + 1, some id => id :: doc.walk top fuel (doc.successor top id)

/-- A node and everything below it, in pre-order. -/
def descendants (doc : Document) (id : NodeId) : List NodeId := doc.walk id doc.size (some id)

def ancestorsFrom (doc : Document) : Nat → Option NodeId → List NodeId
  | 0, _ | _, none => []
  | fuel + 1, some id => id :: doc.ancestorsFrom fuel (doc.parent? id)

def ancestors (doc : Document) (id : NodeId) : List NodeId := doc.ancestorsFrom doc.size (doc.parent? id)

def nodeCount (doc : Document) : Nat := (doc.descendants root).length

/-- What a node adds to the plain text of a subtree. -/
def plainText : NodeKind → String
  | .text literal | .code literal => literal
  | .softLineBreak | .hardLineBreak => "\n"
  | _ => ""

def textContent (doc : Document) (id : NodeId) : String :=
  (doc.descendants id).foldl (fun text id => text ++ ((doc.kind? id).map plainText).getD "") ""

end MarkdownHtml.Document

namespace MarkdownHtml

/-- A node together with the document that it is looked at in. -/
structure NodeRef where
  document : Document
  id : NodeId

namespace NodeRef

def kind? (node : NodeRef) : Option NodeKind := node.document.kind? node.id

def type? (node : NodeRef) : Option NodeType := node.document.type? node.id

def describe (node : NodeRef) : String :=
  let kind := (node.kind?.map NodeKind.describe).getD ""
  s!"NodeRef \x7b id: NodeId({node.id.index}), kind: {kind} \x7d"

end NodeRef

end MarkdownHtml
