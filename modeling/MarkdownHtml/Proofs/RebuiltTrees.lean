import MarkdownHtml.Document.TaskItems
import MarkdownHtml.Proofs.NodeTrees

/-! Trees of which every row is rebuilt. The marking of task items looks at the first paragraph of an item and at its
first text, and changes nothing else: it commutes with all that keeps the beginnings of rows apart from what follows a
box. -/

namespace MarkdownHtml.NodeTree
open Document

theorem child_induction {property : NodeTree → Prop}
    (step : ∀ kind children, (∀ child ∈ children, property child) → property (node kind children)) :
    ∀ tree, property tree
  | node kind children => step kind children fun child _ => child_induction step child

mutual

/-- A tree whose rows are rebuilt, the lowest ones first. -/
def rebuilt (rebuild : NodeKind → List NodeTree → List NodeTree) : NodeTree → NodeTree
  | node kind children => node kind (rebuild kind (rebuiltAll rebuild children))

def rebuiltAll (rebuild : NodeKind → List NodeTree → List NodeTree) : List NodeTree → List NodeTree
  | [] => []
  | tree :: rest => tree.rebuilt rebuild :: rebuiltAll rebuild rest

end

variable {rebuild : NodeKind → List NodeTree → List NodeTree} {kind : NodeKind} {row children : List NodeTree}

theorem rebuilt_node : (node kind children).rebuilt rebuild = node kind (rebuild kind (children.map (rebuilt rebuild))) := by
  rw [rebuilt]
  congr
  induction children with
  | nil => rfl
  | cons tree rest ih => rw [rebuiltAll, ih, List.map_cons]

private theorem kind_rebuilt (tree : NodeTree) : (tree.rebuilt rebuild).kind = tree.kind := by
  cases tree
  rw [rebuilt_node]
  rfl

def shortenedTo (rest : List Char) (below : List NodeTree) : List NodeTree :=
  if rest.isEmpty then [] else [node (.text (String.ofList rest)) below]

theorem map_rebuilt_shortenedTo (rest : List Char) (below : List NodeTree) : (shortenedTo rest below).map (rebuilt rebuild) =
    shortenedTo rest (rebuild (.text (String.ofList rest)) (below.map (rebuilt rebuild))) := by
  unfold shortenedTo
  split
  · rfl
  · rw [List.map_singleton, rebuilt_node]

def markRow : NodeKind → List NodeTree → List NodeTree
  | .listItem, node .paragraph (node (.text literal) below :: texts) :: blocks =>
    match readTaskBox literal.toList with
    | some (checked, rest) =>
      node (.taskListMarker checked) [] :: node .paragraph (shortenedTo rest below ++ texts) :: blocks
    | none => node .paragraph (node (.text literal) below :: texts) :: blocks
  | _, row => row

inductive Boxed : NodeKind → List NodeTree → List NodeTree → Prop
  | box {literal : String} {checked : Bool} {rest : List Char} (below texts blocks : List NodeTree)
      (read : readTaskBox literal.toList = some (checked, rest)) :
      Boxed .listItem (node .paragraph (node (.text literal) below :: texts) :: blocks)
        (node (.taskListMarker checked) [] :: node .paragraph (shortenedTo rest below ++ texts) :: blocks)

variable {after : List NodeTree}

theorem Boxed.markRow_eq (boxed : Boxed kind row after) : markRow kind row = after := by
  cases boxed with
  | box below texts blocks read => simp only [markRow, read]

theorem markRow_of_noBox (none_ : ∀ after, ¬ Boxed kind row after) : markRow kind row = row := by
  unfold markRow
  split
  next literal below texts blocks =>
    split
    next checked rest read => exact absurd (.box below texts blocks read) (none_ _)
    next => rfl
  next => rfl

theorem markRow_of_noItem (noItem : kind ≠ .listItem) (row : List NodeTree) : markRow kind row = row :=
  markRow_of_noBox fun _ boxed => noItem (by cases boxed; rfl)

def marked : NodeTree → NodeTree := rebuilt markRow

theorem marked_node (kind : NodeKind) (children : List NodeTree) :
    (node kind children).marked = node kind (markRow kind (children.map marked)) := rebuilt_node

theorem marked_of_noItem (kind : NodeKind) (noItem : kind ≠ .listItem) (children : List NodeTree) :
    (node kind children).marked = node kind (children.map marked) := by
  rw [marked_node, markRow_of_noItem noItem]

theorem kind_marked (tree : NodeTree) : tree.marked.kind = tree.kind := kind_rebuilt tree

/-- A way to rebuild rows with which the marking does not interfere: a paragraph in front of a row stays there, and so
does a box in front of a text, with the same behind it as without the box. -/
structure Spares (rebuild : List NodeTree → List NodeTree) : Prop where
  nil : rebuild [] = []
  natural : ∀ row, (rebuild row).map marked = rebuild (row.map marked)
  item : ∀ blocks, ∃ later, ∀ below, rebuild (node .paragraph below :: blocks) = node .paragraph below :: later ∧
    ∀ checked, rebuild (node (.taskListMarker checked) [] :: node .paragraph below :: blocks) =
      node (.taskListMarker checked) [] :: node .paragraph below :: later
  leading : ∀ {row below later}, rebuild row = node .paragraph below :: later →
    ∃ blocks, row = node .paragraph below :: blocks
  box : ∀ {literal : String} {checked rest} (below texts), readTaskBox literal.toList = some (checked, rest) →
    ∃ (literal' : String) (rest' : List Char) (below' texts' : List NodeTree),
      rebuild (node (.text literal) below :: texts) = node (.text literal') below' :: texts' ∧
      readTaskBox literal'.toList = some (checked, rest') ∧
      shortenedTo rest' below' ++ texts' = rebuild (shortenedTo rest below ++ texts)
  noBox : ∀ {row literal below texts}, rebuild row = node (.text literal) below :: texts →
    (readTaskBox literal.toList).isSome → ∃ (literal' : String) (below' texts' : List NodeTree),
      row = node (.text literal') below' :: texts' ∧ (readTaskBox literal'.toList).isSome

namespace Spares

variable {rebuild : List NodeTree → List NodeTree} (spares : Spares rebuild)
include spares

private theorem exists_boxed (boxed : Boxed kind (rebuild (row.map (rebuilt fun _ => rebuild))) after) :
    ∃ before, Boxed kind row before := by
  generalize whole : rebuild (row.map (rebuilt fun _ => rebuild)) = found at boxed
  cases boxed with
  | box below texts blocks read =>
    obtain ⟨later, same⟩ := spares.leading whole
    obtain ⟨⟨_, inside⟩, behind, rfl, head, _⟩ := List.map_eq_cons_iff.mp same
    rw [rebuilt_node] at head
    obtain ⟨rfl, content⟩ := NodeTree.node.inj head
    obtain ⟨literal', below', texts', same, read⟩ := spares.noBox content (read ▸ rfl)
    obtain ⟨⟨_, under⟩, others, rfl, head, _⟩ := List.map_eq_cons_iff.mp same
    rw [rebuilt_node] at head
    obtain ⟨rfl, _⟩ := NodeTree.node.inj head
    obtain ⟨⟨checked, rest⟩, read⟩ := Option.isSome_iff_exists.mp read
    exact ⟨_, .box under others behind read⟩

private theorem markRow_rebuild (kind : NodeKind) (row : List NodeTree) :
    markRow kind (rebuild (row.map (rebuilt fun _ => rebuild))) =
      rebuild ((markRow kind row).map (rebuilt fun _ => rebuild)) := by
  by_cases isBoxed : ∃ after, Boxed kind row after
  · obtain ⟨_, boxed⟩ := isBoxed
    rw [boxed.markRow_eq]
    cases boxed with
    | box below texts blocks read =>
      obtain ⟨later, item⟩ := spares.item (blocks.map (rebuilt fun _ => rebuild))
      obtain ⟨literal', rest', below', texts', begins, read', same⟩ :=
        spares.box (rebuild (below.map (rebuilt fun _ => rebuild))) (texts.map (rebuilt fun _ => rebuild)) read
      simp only [List.map_cons, List.map_nil, List.map_append, rebuilt_node, spares.nil,
        map_rebuilt_shortenedTo]
      rw [(item _).1, begins, (Boxed.box below' texts' later read').markRow_eq, (item _).2, same]
  · rw [markRow_of_noBox (not_exists.mp isBoxed), markRow_of_noBox fun after boxed => isBoxed (spares.exists_boxed boxed)]

theorem marked_rebuilt (tree : NodeTree) :
    (tree.rebuilt fun _ => rebuild).marked = tree.marked.rebuilt fun _ => rebuild := by
  induction tree using child_induction with
  | step kind children ih =>
    have below : (children.map (rebuilt fun _ => rebuild)).map marked =
        (children.map marked).map (rebuilt fun _ => rebuild) := by
      rw [List.map_map, List.map_map]
      exact List.map_congr_left ih
    rw [rebuilt_node, marked_node, spares.natural, below, spares.markRow_rebuild, marked_node, rebuilt_node]

end Spares

end MarkdownHtml.NodeTree

namespace MarkdownHtml.Document
open NodeTree

/-- The tree below a node, rebuilt, is put together from the rebuilt trees below its children. -/
theorem WellFormed.rebuilt_tree {doc : Document} {id : NodeId} (wellFormed : doc.WellFormed) (held : doc.Holds id)
    (rebuild : NodeKind → List NodeTree → List NodeTree) : (doc.tree id).rebuilt rebuild = .node (doc.kindOf id)
      (rebuild (doc.kindOf id) ((doc.childIds id).map fun child => (doc.tree child).rebuilt rebuild)) := by
  rw [wellFormed.tree_eq held, rebuilt_node, List.map_map]
  rfl

end MarkdownHtml.Document
