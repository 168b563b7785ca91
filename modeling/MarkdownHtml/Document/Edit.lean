import MarkdownHtml.Document.Basic

/-! Edits of a document. Each one relinks only the node that moves and its neighbours. -/

namespace MarkdownHtml.Document

/-- A new node that is linked to nothing. -/
def alloc (doc : Document) (kind : NodeKind) : NodeId × Document :=
  (⟨doc.size⟩, ⟨doc.nodes.push { kind }⟩)

/-- Make what lies before a gap, a sibling or else the parent, point to what lies behind it. -/
def linkForward (doc : Document) (parent previous target : Option NodeId) : Document :=
  match previous, parent with
  | some previous, _ => doc.modify previous fun node => { node with next := target }
  | none, some parent => doc.modify parent fun node => { node with firstChild := target }
  | none, none => doc

/-- Make what lies behind a gap, a sibling or else the parent, point to what lies before it. -/
def linkBackward (doc : Document) (parent next target : Option NodeId) : Document :=
  match next, parent with
  | some next, _ => doc.modify next fun node => { node with previous := target }
  | none, some parent => doc.modify parent fun node => { node with lastChild := target }
  | none, none => doc

/-- Unlink a node from its parent and siblings. Its own children stay with it. -/
def detach (doc : Document) (id : NodeId) : Document :=
  match doc.node? id with
  | none => doc
  | some { parent, previous, next, .. } =>
    ((doc.linkForward parent previous next).linkBackward parent next previous).modify id
      fun node => { node with parent := none, previous := none, next := none }

def appendChild (doc : Document) (parent child : NodeId) : Document :=
  let doc := doc.detach child
  let last := doc.lastChild? parent
  let doc := doc.modify child fun node => { node with parent := some parent, previous := last }
  (doc.linkForward (some parent) last (some child)).modify parent
    fun node => { node with lastChild := some child }

def insertBefore (doc : Document) (sibling id : NodeId) : Document :=
  let doc := doc.detach id
  let parent := doc.parent? sibling
  let previous := doc.previous? sibling
  let doc := doc.modify id fun node => { node with parent, previous, next := some sibling }
  let doc := doc.modify sibling fun node => { node with previous := some id }
  doc.linkForward parent previous (some id)

def insertAfter (doc : Document) (sibling id : NodeId) : Document :=
  let doc := doc.detach id
  let parent := doc.parent? sibling
  let next := doc.next? sibling
  let doc := doc.modify id fun node => { node with parent, previous := some sibling, next }
  let doc := doc.modify sibling fun node => { node with next := some id }
  doc.linkBackward parent next (some id)

def prependChild (doc : Document) (parent child : NodeId) : Document :=
  match doc.firstChild? parent with
  | some first => doc.insertBefore first child
  | none => doc.appendChild parent child

/-- A new node as the last child of a parent. -/
def appendNew (doc : Document) (parent : NodeId) (kind : NodeKind) : NodeId × Document :=
  let (id, doc) := doc.alloc kind
  (id, doc.appendChild parent id)

end MarkdownHtml.Document
