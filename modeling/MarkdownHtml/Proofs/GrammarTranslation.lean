import MarkdownHtml.Proofs.GrammarPlacement
import MarkdownHtml.Proofs.NodeTrees

/-! What a grammar tree stands for, read off by recursion on the tree. No arena and no stack is needed here: a
table sorts its rows, and texts that meet are joined once all children of a node are known. -/

namespace MarkdownHtml.Document
open NodeTree

/-- The rows of the head, or those of the body. Each row is given by whether it is one of the head, and its cells. -/
def rowsOf (header : Bool) (rows : List (Bool × List NodeTree)) : List NodeTree :=
  (rows.filter (·.1 == header)).map fun row => .node .tableRow row.2

/-- The kind of the head or the body. -/
def groupKind (header : Bool) : NodeKind := if header then .tableHead else .tableBody

/-- The head or the body of a table, if there are rows for it. -/
def groupOf (header : Bool) (rows : List (Bool × List NodeTree)) : List NodeTree :=
  match rowsOf header rows with
  | [] => []
  | group => [.node (groupKind header) group]

/-- Head and body of a table. The one that the first row belongs to comes first. -/
def groupsOf : List (Bool × List NodeTree) → List NodeTree
  | [] => []
  | (header, cells) :: rest => groupOf header ((header, cells) :: rest) ++ groupOf (!header) rest

def entryTree (entry : FrontMatter.Entry) : NodeTree := .node (.frontMatterEntry entry.key entry.values) []

mutual

/-- What a tree of the grammar stands for, before texts that meet become one. -/
def translate : GrammarTree → List NodeTree
  | .node kind children =>
    match placement kind with
    | .node kind => [.node kind (joined (translateAll children))]
    | .text literal => [.text literal]
    | .table alignments => [.node .tableBlock (groupsOf (translateRows alignments children))]
    | .frontMatter raw => [.node .frontMatterBlock ((FrontMatter.parse raw).1.map entryTree)]
    | .flatten => translateAll children

def translateAll : List GrammarTree → List NodeTree
  | [] => []
  | tree :: rest => translate tree ++ translateAll rest

def translateRows (alignments : List (Option Alignment)) : List GrammarTree → List (Bool × List NodeTree)
  | [] => []
  | .node kind cells :: rest =>
    (kind == .tableRow true, translateCells (kind == .tableRow true) alignments cells) ::
      translateRows alignments rest

/-- The cells of a row. A cell behind the last column that is aligned has no alignment. -/
def translateCells (header : Bool) (alignments : List (Option Alignment)) : List GrammarTree → List NodeTree
  | [] => []
  | cell :: rest =>
    .node (.tableCell header alignments.head?.join) (joined (translate cell)) ::
      translateCells header alignments.tail rest

end

example : joined (translateAll [.leaf (.text "a"), .node .other [.leaf (.text "b")], .leaf .softBreak]) =
    [.text "ab", .node .softLineBreak []] := by rfl

theorem hasNoText_rowsOf (header : Bool) (rows : List (Bool × List NodeTree)) : HasNoText (rowsOf header rows) := by
  intro kind children member
  obtain ⟨row, _, same⟩ := List.mem_map.mp member
  obtain ⟨rfl, _⟩ := NodeTree.node.inj same
  simp [NodeKind.type]

theorem rowsOf_cons (header : Bool) (cells : List NodeTree) (rest : List (Bool × List NodeTree)) :
    rowsOf header ((header, cells) :: rest) = .node .tableRow cells :: rowsOf header rest := by
  simp [rowsOf]

theorem rowsOf_cons_other {header other : Bool} (different : other ≠ header) (cells : List NodeTree)
    (rest : List (Bool × List NodeTree)) : rowsOf header ((other, cells) :: rest) = rowsOf header rest := by
  simp [rowsOf, different]

theorem groupOf_cons (header : Bool) (cells : List NodeTree) (rest : List (Bool × List NodeTree)) :
    groupOf header ((header, cells) :: rest) = [.node (groupKind header) (rowsOf header ((header, cells) :: rest))] := by
  simp [groupOf, rowsOf]

theorem groupOf_cons_other (header : Bool) (cells : List NodeTree) (rest : List (Bool × List NodeTree)) :
    groupOf (!header) ((header, cells) :: rest) = groupOf (!header) rest := by
  cases header <;> simp [groupOf, rowsOf]

private theorem hasNoText_groupOf (header : Bool) (rows : List (Bool × List NodeTree)) :
    HasNoText (groupOf header rows) := by
  intro kind children member
  unfold groupOf at member
  split at member
  · cases member
  · obtain ⟨rfl, _⟩ := NodeTree.node.inj (List.mem_singleton.mp member)
    cases header <;> simp [groupKind, NodeKind.type]

theorem hasNoText_groupsOf (rows : List (Bool × List NodeTree)) : HasNoText (groupsOf rows) := by
  intro kind children member
  match rows with
  | (header, cells) :: rest =>
    rcases List.mem_append.mp member with member | member
    · exact hasNoText_groupOf _ _ kind children member
    · exact hasNoText_groupOf _ _ kind children member

theorem hasNoText_entries (entries : List FrontMatter.Entry) : HasNoText (entries.map entryTree) := by
  intro kind children member
  obtain ⟨entry, _, same⟩ := List.mem_map.mp member
  obtain ⟨rfl, _⟩ := NodeTree.node.inj same
  simp [NodeKind.type]

end MarkdownHtml.Document
