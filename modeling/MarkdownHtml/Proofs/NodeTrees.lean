import MarkdownHtml.Proofs.Preorder

/-! A document as a tree of kinds, without places in an arena. Two documents that show the same tree are read and
rendered alike, whatever their nodes are called. -/

namespace MarkdownHtml

theorem NodeKind.type_eq_text_iff {kind : NodeKind} : kind.type = .text ↔ ∃ literal, kind = .text literal := by
  cases kind <;> simp [type]

private theorem Document.kind?_of_type {doc : Document} {id : NodeId} {kind : NodeKind}
    (type : doc.type? id = some kind.type) (only : ∀ other : NodeKind, other.type = kind.type → other = kind) :
    doc.kind? id = some kind := by
  obtain ⟨other, found, same⟩ := Option.map_eq_some_iff.mp type
  rw [found, only other same]

theorem Document.kind?_document {doc : Document} {id : NodeId} (type : doc.type? id = some .document) :
    doc.kind? id = some .document :=
  kind?_of_type type fun other same => by cases other <;> first | rfl | cases same

theorem Document.kind?_paragraph {doc : Document} {id : NodeId} (type : doc.type? id = some .paragraph) :
    doc.kind? id = some .paragraph :=
  kind?_of_type type fun other same => by cases other <;> first | rfl | cases same

theorem Document.kind?_frontMatterBlock {doc : Document} {id : NodeId} (type : doc.type? id = some .frontMatterBlock) :
    doc.kind? id = some .frontMatterBlock :=
  kind?_of_type type fun other same => by cases other <;> first | rfl | cases same

/-- A node with all that is below it. -/
inductive NodeTree
  | node (kind : NodeKind) (children : List NodeTree)
  deriving Inhabited

namespace NodeTree

def kind : NodeTree → NodeKind
  | node kind _ => kind

def text (literal : String) : NodeTree := node (.text literal) []

/-- A tree at the end of a row. A text extends the text before it. -/
def push (before : List NodeTree) (tree : NodeTree) : List NodeTree :=
  match before.getLast?, tree with
  | some (node (.text first) above), node (.text second) below =>
    before.dropLast ++ [node (.text (first ++ second)) (above ++ below)]
  | _, _ => before ++ [tree]

/-- A row in which texts that meet have become one. -/
def joined (trees : List NodeTree) : List NodeTree := trees.foldl push []

theorem push_text (before above : List NodeTree) (first second : String) :
    push (before ++ [node (.text first) above]) (text second) = before ++ [node (.text (first ++ second)) above] := by
  unfold push
  rw [List.getLast?_concat, List.dropLast_concat]
  simp only [text, List.append_nil]

theorem push_of_kind {kind : NodeKind} (noText : kind.type ≠ .text) (before children : List NodeTree) :
    push before (node kind children) = before ++ [node kind children] := by
  unfold push
  split
  next same => cases same; exact absurd rfl noText
  · rfl

theorem push_of_getLast? {before : List NodeTree}
    (noText : ∀ kind children, before.getLast? = some (node kind children) → kind.type ≠ .text) (tree : NodeTree) :
    push before tree = before ++ [tree] := by
  unfold push
  split
  next found => exact absurd rfl (noText _ _ found)
  · rfl

def HasNoText (trees : List NodeTree) : Prop := ∀ kind children, node kind children ∈ trees → kind.type ≠ .text

private theorem foldl_push_of_hasNoText {trees : List NodeTree} (none_ : HasNoText trees) (before : List NodeTree) :
    trees.foldl push before = before ++ trees := by
  induction trees generalizing before with
  | nil => exact (List.append_nil before).symm
  | cons tree rest ih =>
    obtain ⟨kind, children⟩ := tree
    have here := push_of_kind (none_ kind children (List.mem_cons_self ..)) before children
    rw [List.foldl_cons, here, ih fun kind children member => none_ kind children (List.mem_cons_of_mem _ member),
      List.append_assoc]
    rfl

theorem joined_of_hasNoText {trees : List NodeTree} (none_ : HasNoText trees) : joined trees = trees :=
  foldl_push_of_hasNoText none_ []

end NodeTree

namespace Document

variable {doc : Document}

/-- The kind of a node. A place outside of the arena looks like a document. -/
def kindOf (doc : Document) (id : NodeId) : NodeKind := (doc.kind? id).getD .document

/-- A node with the trees of its children. -/
def tree (doc : Document) : NodeId → NodeTree :=
  doc.value fun below id => .node (doc.kindOf id) ((doc.childIds id).map below)

theorem kindOf_eq {id : NodeId} {kind : NodeKind} (found : doc.kind? id = some kind) : doc.kindOf id = kind := by
  rw [kindOf, found]
  rfl

theorem kind?_eq_kindOf {id : NodeId} (held : doc.Holds id) : doc.kind? id = some (doc.kindOf id) := by
  obtain ⟨kind, found⟩ := holds_iff_kind.mp held
  rw [kindOf_eq found, found]

theorem WellFormed.tree_eq (wellFormed : doc.WellFormed) {id : NodeId} (held : doc.Holds id) :
    doc.tree id = .node (doc.kindOf id) ((doc.childIds id).map doc.tree) := by
  refine wellFormed.value_eq (fun first second id same => ?_) held
  rw [List.map_congr_left same]

end Document

end MarkdownHtml
