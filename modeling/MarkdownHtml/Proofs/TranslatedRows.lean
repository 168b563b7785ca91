import MarkdownHtml.Proofs.PlacedTrees
import MarkdownHtml.Proofs.Preorder

/-! The rows of the tree that a grammar tree stands for: no text is below a text or next to one. What holds on every
level of that tree holds at every node of the document that the grammar tree is placed in. -/

namespace MarkdownHtml

/-- Two neighbours, neither of which is a text beside one of the given types. -/
def NodeType.Spaced (types : List NodeType) (first second : NodeType) : Prop :=
  (first = .text → second ∉ types) ∧ (second = .text → first ∉ types)

instance (types : List NodeType) : DecidableRel (NodeType.Spaced types) := fun first second =>
  inferInstanceAs (Decidable ((first = .text → second ∉ types) ∧ (second = .text → first ∉ types)))

namespace GrammarTree

mutual

def kinds : GrammarTree → List GrammarKind
  | node kind children => kind :: kindsAll children

def kindsAll : List GrammarTree → List GrammarKind
  | [] => []
  | tree :: rest => tree.kinds ++ kindsAll rest

end

end GrammarTree

namespace NodeTree

/-- A property of a kind and the row below it that holds on every level of a tree. -/
inductive Everywhere (property : NodeKind → List NodeTree → Prop) : NodeTree → Prop
  | node {kind : NodeKind} {row : List NodeTree} (here : property kind row)
    (below : ∀ tree ∈ row, Everywhere property tree) : Everywhere property (.node kind row)

variable {property : NodeKind → List NodeTree → Prop} {ok : String → Prop} {types : List NodeType}

theorem everywhere_iff {kind : NodeKind} {row : List NodeTree} :
    (node kind row).Everywhere property ↔ property kind row ∧ ∀ tree ∈ row, tree.Everywhere property :=
  ⟨fun | .node here below => ⟨here, below⟩, fun both => .node both.1 both.2⟩

section
variable [∀ kind row, Decidable (property kind row)]

mutual

def decideEverywhere : (tree : NodeTree) → Decidable (tree.Everywhere property)
  | .node kind row =>
    have := decideEverywhereAll row
    decidable_of_iff (property kind row ∧ ∀ tree ∈ row, tree.Everywhere property) everywhere_iff.symm

def decideEverywhereAll : (row : List NodeTree) → Decidable (∀ tree ∈ row, tree.Everywhere property)
  | [] => .isTrue nofun
  | tree :: row =>
    have := decideEverywhere tree
    have := decideEverywhereAll row
    decidable_of_iff (tree.Everywhere property ∧ ∀ tree ∈ row, tree.Everywhere property) List.forall_mem_cons.symm

end

instance (tree : NodeTree) : Decidable (tree.Everywhere property) := decideEverywhere tree

end

/-- A row in which no text stands beside one of the given types. -/
def SpacedRow (types : List NodeType) (row : List NodeTree) : Prop :=
  (row.map fun tree => tree.kind.type).IsChain (NodeType.Spaced types)

instance (types : List NodeType) : DecidablePred (SpacedRow types) := fun row =>
  inferInstanceAs (Decidable ((row.map fun tree => tree.kind.type).IsChain (NodeType.Spaced types)))

theorem SpacedRow.union {others : List NodeType} {row : List NodeTree} (left : SpacedRow types row)
    (right : SpacedRow others row) : SpacedRow (types ++ others) row := by
  refine List.isChain_iff_getElem.mpr fun place inside => ?_
  obtain ⟨behind, before⟩ := List.isChain_iff_getElem.mp left place inside
  obtain ⟨alsoBehind, alsoBefore⟩ := List.isChain_iff_getElem.mp right place inside
  refine ⟨fun isText member => ?_, fun isText member => ?_⟩
  · exact (List.mem_append.mp member).elim (behind isText) (alsoBehind isText)
  · exact (List.mem_append.mp member).elim (before isText) (alsoBefore isText)

/-- A text has a literal of the right form and no children, and no two texts stand side by side. -/
structure Normal (ok : String → Prop) (kind : NodeKind) (row : List NodeTree) : Prop where
  text : ∀ literal, kind = .text literal → ok literal ∧ row = []
  spaced : SpacedRow [.text] row

/-- A form that literals keep when they are joined. -/
def Joins (ok : String → Prop) : Prop := ∀ first second, ok first → ok second → ok (first ++ second)

private theorem spacedRow_of_hasNoText {row : List NodeTree} (none_ : HasNoText row) : SpacedRow types row := by
  have noText : ∀ type ∈ row.map fun tree => tree.kind.type, type ≠ .text := by
    intro type member
    obtain ⟨⟨kind, children⟩, inside, rfl⟩ := List.mem_map.mp member
    exact none_ kind children inside
  refine (List.pairwise_of_forall_mem_list fun first left second right => ?_).isChain
  exact ⟨fun isText => absurd isText (noText first left), fun isText => absurd isText (noText second right)⟩

private theorem Normal.of_noText {kind : NodeKind} {row : List NodeTree} (noText : kind.type ≠ .text)
    (spaced : SpacedRow [.text] row) : Normal ok kind row :=
  ⟨fun literal isText => absurd (NodeKind.type_eq_text_iff.mpr ⟨literal, isText⟩) noText, spaced⟩

structure NormalRow (ok : String → Prop) (row : List NodeTree) : Prop where
  below : ∀ tree ∈ row, tree.Everywhere (Normal ok)
  spaced : SpacedRow [.text] row

private theorem NormalRow.concat {before : List NodeTree} (row : NormalRow ok before) {tree : NodeTree}
    (here : tree.Everywhere (Normal ok))
    (apart : ∀ last ∈ before.getLast?, ¬ (last.kind.type = .text ∧ tree.kind.type = .text)) :
    NormalRow ok (before ++ [tree]) := by
  refine ⟨fun other member => ?_, ?_⟩
  · rcases List.mem_append.mp member with member | member
    · exact row.below other member
    · cases List.mem_singleton.mp member
      exact here
  · rw [SpacedRow, List.map_append]
    refine List.isChain_append.mpr ⟨row.spaced, .singleton _, fun first left second right => ?_⟩
    rw [List.getLast?_map] at left
    obtain ⟨last, ends, rfl⟩ := Option.map_eq_some_iff.mp left
    cases right
    simpa [NodeType.Spaced, not_and, imp_not_comm] using apart last ends

private theorem NormalRow.push (joins : Joins ok) {before : List NodeTree}
    (row : NormalRow ok before) {tree : NodeTree} (here : tree.Everywhere (Normal ok)) :
    NormalRow ok (push before tree) := by
  -- A text that is lengthened keeps its place, and any other tree comes to where no text meets a text.
  obtain ⟨kind, below⟩ := tree
  unfold NodeTree.push
  split
  next first above second below last same =>
    cases same
    obtain ⟨front, rfl⟩ := List.getLast?_eq_some_iff.mp last
    obtain ⟨⟨left, _⟩, _⟩ := everywhere_iff.mp (row.below _ (List.mem_append_right _ (List.mem_singleton_self _)))
    obtain ⟨⟨right, _⟩, _⟩ := everywhere_iff.mp here
    obtain ⟨okFirst, rfl⟩ := left first rfl
    obtain ⟨okSecond, rfl⟩ := right second rfl
    have spaced := row.spaced
    rw [List.dropLast_concat]
    refine ⟨fun tree member => ?_, ?_⟩
    · rcases List.mem_append.mp member with member | member
      · exact row.below tree (List.mem_append_left _ member)
      · cases List.mem_singleton.mp member
        refine .node ⟨fun literal same => ?_, .nil⟩ nofun
        cases same
        exact ⟨joins first second okFirst okSecond, rfl⟩
    · rw [SpacedRow, List.map_append] at spaced ⊢
      exact spaced
  next apart =>
    refine row.concat here ?_
    rintro ⟨lastKind, above⟩ last ⟨isText, endsText⟩
    obtain ⟨first, rfl⟩ := NodeKind.type_eq_text_iff.mp isText
    obtain ⟨second, rfl⟩ := NodeKind.type_eq_text_iff.mp endsText
    exact apart first above second below last rfl

private theorem normalRow_joined (joins : Joins ok) {trees : List NodeTree}
    (normal : ∀ tree ∈ trees, tree.Everywhere (Normal ok)) : NormalRow ok (joined trees) := by
  suffices each : ∀ before, NormalRow ok before → NormalRow ok (trees.foldl NodeTree.push before) from
    each [] ⟨nofun, .nil⟩
  induction trees with
  | nil => exact fun _ row => row
  | cons tree rest ih =>
    obtain ⟨here, later⟩ := List.forall_mem_cons.mp normal
    exact fun before row => ih later _ (row.push joins here)

end NodeTree

namespace Document
open NodeTree

variable {doc after : Document} {property : NodeKind → List NodeTree → Prop} {ok : String → Prop}

private theorem everywhere_groupsOf {rows : List (Bool × List NodeTree)}
    (cells : ∀ row ∈ rows, HasNoText row.2 ∧ ∀ cell ∈ row.2, cell.Everywhere (Normal ok)) :
    ∀ group ∈ groupsOf rows, group.Everywhere (Normal ok) := by
  have inRows : ∀ header (some_ : List (Bool × List NodeTree)), (∀ row ∈ some_, row ∈ rows) →
      ∀ group ∈ groupOf header some_, group.Everywhere (Normal ok) := by
    intro header some_ among group member
    unfold groupOf at member
    split at member
    · cases member
    · cases List.mem_singleton.mp member
      refine .node (.of_noText (by cases header <;> simp [groupKind, NodeKind.type])
        (spacedRow_of_hasNoText (hasNoText_rowsOf header some_))) fun tree inside => ?_
      obtain ⟨row, kept, rfl⟩ := List.mem_map.mp inside
      obtain ⟨noText, normal⟩ := cells row (among row (List.mem_of_mem_filter kept))
      exact .node (.of_noText (by simp [NodeKind.type]) (spacedRow_of_hasNoText noText)) normal
  intro group member
  cases rows with
  | nil => cases member
  | cons first rest =>
    rcases List.mem_append.mp member with member | member
    · exact inRows first.1 _ (fun _ inside => inside) group member
    · exact inRows (!first.1) rest (fun _ inside => List.mem_cons_of_mem _ inside) group member

mutual

/-- Texts of the right form stay so, and on no level of the tree does one meet another one. -/
theorem everywhere_translate (joins : Joins ok) (tree : GrammarTree) (texts : ∀ literal, .text literal ∈ tree.kinds → ok literal) :
    ∀ node ∈ translate tree, node.Everywhere (Normal ok) := by
  match tree with
  | .node kind children =>
    have inner := everywhere_translateAll joins children fun literal member => texts literal (List.mem_cons_of_mem _ member)
    have columns := fun alignments => everywhere_translateRows joins alignments children fun literal member =>
      texts literal (List.mem_cons_of_mem _ member)
    unfold translate
    split
    next kind' found =>
      have row := normalRow_joined joins inner
      exact List.forall_mem_singleton.mpr (.node (.of_noText (placement_noText found) row.spaced) row.below)
    next literal found =>
      have isText : kind = .text literal := by
        cases kind <;> simp only [placement, Placement.text.injEq, reduceCtorEq] at found
        rw [found]
      refine List.forall_mem_singleton.mpr (.node ⟨fun other same => ?_, .nil⟩ nofun)
      cases same
      exact ⟨texts literal (isText ▸ List.mem_cons_self ..), rfl⟩
    next alignments _ =>
      exact List.forall_mem_singleton.mpr (.node (.of_noText (by simp [NodeKind.type])
        (spacedRow_of_hasNoText (hasNoText_groupsOf _))) (everywhere_groupsOf (columns alignments)))
    next raw _ =>
      refine List.forall_mem_singleton.mpr (.node (.of_noText (by simp [NodeKind.type])
        (spacedRow_of_hasNoText (hasNoText_entries _))) fun entry member => ?_)
      obtain ⟨entry, _, rfl⟩ := List.mem_map.mp member
      exact .node (.of_noText (by simp [NodeKind.type]) .nil) nofun
    · exact inner
termination_by structural tree

theorem everywhere_translateAll (joins : Joins ok) (trees : List GrammarTree)
    (texts : ∀ literal, .text literal ∈ GrammarTree.kindsAll trees → ok literal) :
    ∀ node ∈ translateAll trees, node.Everywhere (Normal ok) := by
  match trees with
  | [] => exact nofun
  | tree :: rest =>
    intro node member
    rcases List.mem_append.mp member with member | member
    · exact everywhere_translate joins tree (fun literal inside => texts literal (List.mem_append_left _ inside)) node member
    · exact everywhere_translateAll joins rest (fun literal inside => texts literal (List.mem_append_right _ inside)) node member
termination_by structural trees

private theorem everywhere_translateRows (joins : Joins ok) (alignments : List (Option Alignment))
    (rows : List GrammarTree) (texts : ∀ literal, .text literal ∈ GrammarTree.kindsAll rows → ok literal) :
    ∀ row ∈ translateRows alignments rows, HasNoText row.2 ∧ ∀ cell ∈ row.2, cell.Everywhere (Normal ok) := by
  match rows with
  | [] => exact nofun
  | .node kind cells :: rest =>
    have here := everywhere_translateCells joins (kind == .tableRow true) alignments cells fun literal inside =>
      texts literal (List.mem_append_left _ (List.mem_cons_of_mem _ inside))
    have later := everywhere_translateRows joins alignments rest fun literal inside =>
      texts literal (List.mem_append_right _ inside)
    exact List.forall_mem_cons.mpr ⟨here, later⟩
termination_by structural rows

private theorem everywhere_translateCells (joins : Joins ok) (header : Bool) (alignments : List (Option Alignment))
    (cells : List GrammarTree) (texts : ∀ literal, .text literal ∈ GrammarTree.kindsAll cells → ok literal) :
    HasNoText (translateCells header alignments cells) ∧
      ∀ cell ∈ translateCells header alignments cells, cell.Everywhere (Normal ok) := by
  match cells with
  | [] => exact ⟨nofun, nofun⟩
  | cell :: rest =>
    have row := normalRow_joined joins (everywhere_translate joins cell fun literal inside =>
      texts literal (List.mem_append_left _ inside))
    obtain ⟨noText, later⟩ := everywhere_translateCells joins header alignments.tail rest fun literal inside =>
      texts literal (List.mem_append_right _ inside)
    refine ⟨fun kind children member => ?_, List.forall_mem_cons.mpr
      ⟨.node (.of_noText (by simp [NodeKind.type]) row.spaced) row.below, later⟩⟩
    rcases List.mem_cons.mp member with same | member
    · obtain ⟨rfl, _⟩ := NodeTree.node.inj same
      simp [NodeKind.type]
    · exact noText kind children member
termination_by structural cells

end

private theorem WellFormed.of_everywhere (wellFormed : doc.WellFormed) {top : NodeId} (held : doc.Holds top)
    (everywhere : (doc.tree top).Everywhere property) {id : NodeId} (within : doc.Within top id) :
    property (doc.kindOf id) ((doc.childIds id).map doc.tree) := by
  suffices whole : (doc.tree id).Everywhere property by
    rw [wellFormed.tree_eq (within.holds held)] at whole
    exact (everywhere_iff.mp whole).1
  induction within with
  | refl => exact everywhere
  | tail within under ih =>
    rw [wellFormed.tree_eq (Within.holds within held)] at ih
    exact (everywhere_iff.mp ih).2 _ (List.mem_map_of_mem (wellFormed.mem_childIds.mpr under))

theorem Within.mono (still : ∀ upper lower, doc.IsParent upper lower → after.IsParent upper lower) {top id : NodeId}
    (within : doc.Within top id) : after.Within top id :=
  Relation.ReflTransGen.mono still _ _ within

private theorem Grown.within (grown : Grown doc after) (linked : doc.Linked) {id : NodeId} (held : after.Holds id) :
    ∃ old, doc.Holds old ∧ after.Within old id := by
  induction grown generalizing id with
  | refl => exact ⟨id, held, .refl⟩
  | @append mid parent grown present kind ih =>
    have parents := (grown.linked linked).parent?_appendNew present kind
    have still : ∀ upper lower, mid.IsParent upper lower → (mid.appendNew parent kind).2.IsParent upper lower := by
      intro upper lower under
      rw [IsParent, parents, if_neg (holds_of_parent under).ne_new]
      exact under
    rcases holds_appendNew_iff.mp held with older | rfl
    · obtain ⟨old, here, within⟩ := ih older
      exact ⟨old, here, within.mono still⟩
    · obtain ⟨old, here, within⟩ := ih present
      exact ⟨old, here, (within.mono still).tail ((parents _).trans (if_pos rfl))⟩
  | @extend mid text short grown found long ih =>
    have same : SameLinks mid _ := sameLinks_setKind text (.text long)
    obtain ⟨old, here, within⟩ := ih (by rwa [Holds, setKind, size_modify] at held)
    exact ⟨old, here, within.mono fun upper lower under => (same.parent lower).trans under⟩

private theorem tree_place (linked : doc.Linked) (events : List Event) {stack : List (GrammarTree × NodeId)}
    (targeted : Targeted doc stack) {id : NodeId} (held : doc.Holds id) (noText : (doc.kindOf id).type ≠ .text)
    (bare : doc.childIds id = []) :
    (place doc events stack).1.tree id = .node (doc.kindOf id) (joined (waitingOn stack id)) := by
  obtain ⟨future, foretells, fulfilled⟩ := foretells_place doc events stack linked targeted
  rw [← fulfilled id held noText, foretells id held, bare]
  rfl

section
variable {blocks : List GrammarTree}

private theorem within_placed {id : NodeId} (held : (placed blocks).Holds id) : (placed blocks).Within root id := by
  have grown : Grown empty (placed blocks) := grown_place empty [] (under root blocks) (holds_under_root blocks)
  obtain ⟨⟨index⟩, here, within⟩ := grown.within rooted_empty.linked held
  obtain rfl : index = 0 := Nat.lt_one_iff.mp here
  exact within

/-- The row of the root is what the blocks stand for. -/
theorem row_placed (blocks : List GrammarTree) :
    ((placed blocks).childIds root).map (placed blocks).tree = joined (translateAll blocks) := by
  have targeted : Targeted empty (under root blocks) := holds_under_root blocks
  have rooted := rooted_placed blocks
  have whole := tree_place rooted_empty.linked [] targeted rooted_empty.held (by decide) rfl
  rw [waitingOn_under, if_pos rfl] at whole
  exact (NodeTree.node.inj ((rooted.linked.wellFormed.tree_eq rooted.held).symm.trans whole)).2

/-- What holds on every level of the tree that a grammar tree stands for holds at every node of its document. -/
theorem of_everywhere_placed (everywhere : (node .document (joined (translateAll blocks))).Everywhere property)
    {id : NodeId} (held : (placed blocks).Holds id) :
    property ((placed blocks).kindOf id) (((placed blocks).childIds id).map (placed blocks).tree) := by
  have rooted := rooted_placed blocks
  have wellFormed := rooted.linked.wellFormed
  refine wellFormed.of_everywhere rooted.held ?_ (within_placed held)
  rwa [wellFormed.tree_eq rooted.held, kindOf_eq rooted.kind, row_placed]

/-- In the document of a grammar tree no text has children, and no two texts stand side by side. -/
theorem normal_placed (joins : Joins ok) (texts : ∀ literal, .text literal ∈ GrammarTree.kindsAll blocks → ok literal)
    {id : NodeId} (held : (placed blocks).Holds id) :
    Normal ok ((placed blocks).kindOf id) (((placed blocks).childIds id).map (placed blocks).tree) := by
  have row := normalRow_joined joins (everywhere_translateAll joins blocks texts)
  exact of_everywhere_placed (.node (.of_noText (by simp [NodeKind.type]) row.spaced) row.below) held

end

end Document

end MarkdownHtml
