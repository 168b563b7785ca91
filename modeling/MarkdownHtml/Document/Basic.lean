import MarkdownHtml.Node.Kind

/-! A document: an arena of nodes that are tied into trees by links to parents, children and
siblings. Node 0 is the root. Nodes are never taken out of the arena; a node that is detached is
only out of reach. -/

namespace MarkdownHtml

/-- The place of a node in its arena. -/
structure NodeId where
  index : Nat
  deriving DecidableEq, Repr, Inhabited

structure Node where
  kind : NodeKind
  parent : Option NodeId := none
  firstChild : Option NodeId := none
  lastChild : Option NodeId := none
  previous : Option NodeId := none
  next : Option NodeId := none
  deriving DecidableEq, Repr, Inhabited

structure Document where
  nodes : Array Node
  deriving DecidableEq, Repr

namespace Document

/-- A document that holds nothing but its root. -/
def empty : Document := ⟨#[{ kind := .document }]⟩

instance : Inhabited Document := ⟨empty⟩

def root : NodeId := ⟨0⟩

/-- The number of nodes in the arena, in reach or not. -/
def size (doc : Document) : Nat := doc.nodes.size

def node? (doc : Document) (id : NodeId) : Option Node := doc.nodes[id.index]?

def kind? (doc : Document) (id : NodeId) : Option NodeKind := (doc.node? id).map (·.kind)

def type? (doc : Document) (id : NodeId) : Option NodeType := (doc.kind? id).map (·.type)

def parent? (doc : Document) (id : NodeId) : Option NodeId := (doc.node? id).bind (·.parent)

def firstChild? (doc : Document) (id : NodeId) : Option NodeId := (doc.node? id).bind (·.firstChild)

def lastChild? (doc : Document) (id : NodeId) : Option NodeId := (doc.node? id).bind (·.lastChild)

def previous? (doc : Document) (id : NodeId) : Option NodeId := (doc.node? id).bind (·.previous)

def next? (doc : Document) (id : NodeId) : Option NodeId := (doc.node? id).bind (·.next)

def modify (doc : Document) (id : NodeId) (f : Node → Node) : Document := ⟨doc.nodes.modify id.index f⟩

def setKind (doc : Document) (id : NodeId) (kind : NodeKind) : Document :=
  doc.modify id fun node => { node with kind }

end Document

end MarkdownHtml
