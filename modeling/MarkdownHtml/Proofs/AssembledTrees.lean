import MarkdownHtml.Proofs.InsertedTrees
import MarkdownHtml.Proofs.MarkedRows

/-! The tree of a document whose inserted text is marked. The entries of a row, with the marks of new inserted nodes, put
the row together, and they are what the row at the start falls into. -/

namespace MarkdownHtml.NodeTree
open Document

/-- Tokens that put together some trees, in front of whatever comes behind them. -/
def Builds (tokens : List Token) (trees : List NodeTree) : Prop :=
  ∀ level outer, tokens.foldr Token.put (level, outer) = (trees ++ level, outer)

variable {tokens more : List Token} {trees others : List NodeTree}

theorem Builds.append (first : Builds tokens trees) (second : Builds more others) :
    Builds (tokens ++ more) (trees ++ others) := by
  intro level outer
  rw [List.foldr_append, second, first, List.append_assoc]

private theorem Builds.ins (inside : Builds tokens trees) : Builds (.mark true :: (tokens ++ [.mark false]))
    [node .ins trees] := by
  intro level outer
  have closes : (Token.mark false).put (level, outer) = ([], level :: outer) := rfl
  rw [List.foldr_cons, List.foldr_append, List.foldr_cons, List.foldr_nil, closes, inside, List.append_nil]
  rfl

private theorem Builds.flatMap {children : List α} {tokens : α → List Token} {shown : α → NodeTree}
    (each : ∀ child ∈ children, Builds (tokens child) [shown child]) :
    Builds (children.flatMap tokens) (children.map shown) := by
  induction children with
  | nil => exact fun _ _ => rfl
  | cons child children ih =>
    obtain ⟨here, later⟩ := List.forall_mem_cons.mp each
    exact here.append (ih later)

private theorem Builds.assembled_eq (builds : Builds tokens trees) : assembled tokens = trees := by
  rw [assembled, builds, List.append_nil]

end MarkdownHtml.NodeTree

namespace MarkdownHtml.Document
open NodeTree

variable {doc : Document} {id container : NodeId}

private theorem WellFormed.builds_items (wellFormed : doc.WellFormed) (leaves : doc.LeafTexts) (start : Document)
    (id : NodeId) (held : doc.Holds id) :
    Builds ((start.items doc id).map (itemToken fun id => (doc.childIds id).map doc.tree))
      ((doc.childIds id).map doc.tree) := by
  induction id using wellFormed.child_induction with
  | step id ih =>
    rw [wellFormed.accounts_items start id held, List.append_nil, List.map_flatMap]
    refine .flatMap fun child member => ?_
    have present := wellFormed.linked.holds_of_mem_childIds member
    rcases itemizing_cases present with ⟨literal, isText, adds⟩ | ⟨isInserted, _, adds⟩ | ⟨_, adds⟩
    · rw [adds, wellFormed.tree_eq present, kindOf_eq isText, leaves.childIds_eq wellFormed.linked isText]
      exact fun _ _ => rfl
    · rw [adds, wellFormed.tree_eq present, kindOf_eq isInserted, List.map_cons, List.map_append]
      exact (ih child member present).ins
    · rw [adds, wellFormed.tree_eq present]
      exact fun _ _ => rfl

private theorem runPlaces_eq (held : doc.Holds id) : doc.runPlaces id = (runsIn (doc.kindOf id)).map (Prod.mk id) := by
  rw [runPlaces, kind?_eq_kindOf held]
  cases doc.kindOf id with
  | text literal =>
    rw [runsIn, List.map_map]
    rfl
  | _ => rfl

section
variable {below : NodeId → List NodeTree} {shown : NodeId → NodeTree} {child : NodeId}

private theorem kind_of_itemToken {tree : NodeTree} (shows : itemToken below (doc.asItem child) = .tree tree) :
    tree.kind = doc.kindOf child := by
  unfold asItem at shows
  split at shows
  next literal isText =>
    cases shows
    exact isText.symm
  next =>
    cases shows
    rfl

private theorem Linked.tokens_child (linked : doc.Linked) {front rest : List NodeId}
    (row : doc.childIds container = front ++ child :: rest)
    (shows : itemToken below (doc.asItem child) = .tree (shown child)) :
    (itemizing.child doc doc (fun _ => []) (doc.matchDelimiters container) child).map (itemToken below) =
      (shown child).tokens ((rolesOf ((doc.childIds container).map doc.kindOf)).drop (front.flatMap doc.runPlaces).length) := by
  have member : child ∈ doc.childIds container := row ▸ List.mem_append_right _ (List.mem_cons_self ..)
  have held := linked.holds_of_mem_childIds member
  have own := linked.delimitersOf_child row
  generalize (rolesOf ((doc.childIds container).map doc.kindOf)).drop (front.flatMap doc.runPlaces).length = roles at own ⊢
  have moved : delimitersOf (doc.matchDelimiters container) child =
      (delimitersIn (doc.kindOf child) roles).map (Delimiter.moved child 0) := by
    rw [own, runPlaces_eq held, delimitersIn, ← delimitersAt_moved, List.map_map]
    rfl
  rcases (linked.child_cases member : (_ ∧ itemizing.child doc doc (fun _ => []) _ child = _) ∨ _) with
    ⟨none_, same⟩ | ⟨literal, isText, some_, _, same⟩
  · rw [moved, List.map_eq_nil_iff, ← kind_of_itemToken shows] at none_
    rw [same]
    rcases adds_cases held with adds | ⟨_, new, _⟩
    · rw [adds, List.map_singleton, shows, tokens_uncut none_]
    · exact absurd held new
  · rw [kindOf_eq isText] at moved
    rw [moved, ne_eq, List.map_eq_nil_iff] at some_
    have unmoved : itemizing.cut 0 literal.toList ((delimitersIn (.text literal) roles).map (Delimiter.moved child 0)) =
        itemizing.cut 0 literal.toList (delimitersIn (.text literal) roles) := cut_moved itemizing child 0 0 _ _
    rw [asItem_text isText] at shows
    rw [same, moved, unmoved, ← Token.tree.inj shows, text, tokens_cut some_]
    refine List.map_congr_left fun item inside => ?_
    rcases mem_cut inside with ⟨_, rfl⟩ | ⟨_, rfl⟩ <;> rfl

private theorem Linked.tokens_markedRow (linked : doc.Linked)
    (shows : ∀ child ∈ doc.childIds container, itemToken below (doc.asItem child) = .tree (shown child)) :
    (doc.markedRow container).map (itemToken below) =
      tokensFrom (rolesOf ((doc.childIds container).map doc.kindOf)) ((doc.childIds container).map shown) := by
  suffices suffix : ∀ rest front, doc.childIds container = front ++ rest →
      (rest.flatMap (itemizing.child doc doc (fun _ => []) (doc.matchDelimiters container))).map (itemToken below) =
        tokensFrom ((rolesOf ((doc.childIds container).map doc.kindOf)).drop (front.flatMap doc.runPlaces).length)
          (rest.map shown) from
    suffix _ [] rfl
  intro rest
  induction rest with
  | nil => exact fun _ _ => rfl
  | cons child rest ih =>
    intro front row
    have member : child ∈ doc.childIds container := row ▸ List.mem_append_right _ (List.mem_cons_self ..)
    have here := linked.tokens_child row (shows child member)
    have later := ih (front ++ [child]) (row.trans (List.append_cons ..))
    have runs : (doc.runPlaces child).length = (runsIn (shown child).kind).length := by
      rw [runPlaces_eq (linked.holds_of_mem_childIds member), List.length_map, kind_of_itemToken (shows child member)]
    rw [List.flatMap_append, List.flatMap_singleton, List.length_append, ← List.drop_drop, runs] at later
    rw [List.flatMap_cons, List.map_append, here, later, List.map_cons, tokensFrom]

private theorem Linked.assembled_markedRow (linked : doc.Linked)
    (shows : ∀ child ∈ doc.childIds container, itemToken below (doc.asItem child) = .tree (shown child)) :
    assembled ((doc.markedRow container).map (itemToken below)) = insertRow ((doc.childIds container).map shown) := by
  have kinds : ((doc.childIds container).map shown).map NodeTree.kind = (doc.childIds container).map doc.kindOf := by
    rw [List.map_map]
    exact List.map_congr_left fun child member => kind_of_itemToken (shows child member)
  rw [linked.tokens_markedRow shows, insertRow, kinds]

end

private theorem WellFormed.inserted_tree (wellFormed : doc.WellFormed) (held : doc.Holds id) : (doc.tree id).inserted =
    .node (doc.kindOf id) (insertRow ((doc.childIds id).map fun child => (doc.tree child).inserted)) :=
  wellFormed.rebuilt_tree held fun _ => insertRow

/-- The tree of a document whose inserted text is marked is the tree of the document, with its inserted text marked. -/
theorem WellFormed.tree_markInserted (wellFormed : doc.WellFormed) (held : doc.Holds root) (leaves : doc.LeafTexts) :
    doc.markInserted.1.tree root = (doc.tree root).inserted := by
  have linked := wellFormed.linked
  obtain ⟨marking, _⟩ := markInserted_accounts wellFormed held leaves
  have after := marking.linked.wellFormed
  have within : ∀ {id}, id ∈ doc.descendants root ↔ doc.Within root id := wellFormed.mem_descendants held
  have rows : ∀ id, id ∈ doc.descendants root → (doc.markInserted.1.childIds id).map doc.markInserted.1.tree =
      insertRow ((doc.childIds id).map fun child => (doc.tree child).inserted) := by
    intro id member
    induction id using wellFormed.child_induction with
    | step id ih =>
      have old := (within.mp member).holds held
      have built := (after.builds_items marking.leaves doc id (marking.holds id old)).assembled_eq
      rw [marking.items_eq (List.mem_reverse.mpr member)] at built
      rw [← built]
      refine linked.assembled_markedRow fun child inside => ?_
      have present := linked.holds_of_mem_childIds inside
      have below := wellFormed.mem_descendants_child held member inside
      rw [wellFormed.inserted_tree present]
      by_cases isText : ∃ literal, doc.kindOf child = .text literal
      · obtain ⟨literal, isText⟩ := isText
        have found := (kind?_eq_kindOf present).trans (congrArg some isText)
        rw [asItem_text found, isText, leaves.childIds_eq linked found]
        rfl
      · rw [asItem_whole (not_exists.mp isText), ← ih child inside below]
        rfl
  rw [after.tree_eq (marking.holds root held), wellFormed.inserted_tree held, rows root (within.mpr .refl), kindOf,
    marking.kind, ← kindOf]

end MarkdownHtml.Document
