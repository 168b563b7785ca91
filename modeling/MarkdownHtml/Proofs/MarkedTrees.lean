import MarkdownHtml.Proofs.MarkedItems
import MarkdownHtml.Proofs.RebuiltTrees

/-! The tree of a document whose task items are marked. Below an item with a box, the paragraph has lost the box before
the item gets its marker, so a node is followed on its own and as the paragraph of an item. -/

namespace MarkdownHtml.Document
open NodeTree

variable {doc now : Document} {id item paragraph text : NodeId} {cut : Cut} {seen : List NodeId}

def Uncut (doc : Document) (seen : List NodeId) (id : NodeId) : Prop :=
  ∀ item ∈ seen, ∀ cut ∈ doc.taskCut? item, doc.parent? cut.text ≠ some id

/-- What a node shows when the items seen have been marked. -/
structure ShowsMarked (doc : Document) (seen : List NodeId) (now : Document) (id : NodeId) : Prop where
  whole : doc.Uncut seen id → now.tree id = (doc.tree id).marked
  paragraph : ∀ item ∈ seen, ∀ cut ∈ doc.taskCut? item, doc.parent? cut.text = some id →
    ∃ (literal : String) (checked : Bool) (below texts : List NodeTree),
      (doc.tree id).marked = .node .paragraph (.node (.text literal) below :: texts) ∧
      readTaskBox literal.toList = some (checked, cut.rest) ∧ cut.leaf = .taskListMarker checked ∧
      now.tree id = .node .paragraph (shortenedTo cut.rest below ++ texts)

section
variable (wellFormed : doc.WellFormed) (cutting : Cutting .front doc.taskCut? doc seen now)
include wellFormed

private theorem WellFormed.row_boxBelow (planned : doc.taskCut? item = some cut)
    (under : doc.parent? cut.text = some paragraph) :
    ∃ texts, doc.childIds paragraph = cut.text :: texts ∧ cut.text ∉ texts ∧
      ∀ other cut', doc.taskCut? other = some cut' → cut'.text ∈ doc.childIds paragraph → cut'.text = cut.text := by
  have linked := wellFormed.linked
  obtain ⟨_, _, inside, _, start⟩ := (taskCut?_iff.mp planned).parents linked
  cases inside.symm.trans under
  have first := (linked.first paragraph cut.text).mpr ⟨under, start⟩
  rw [← linked.head?_childIds] at first
  obtain ⟨texts, row⟩ := List.head?_eq_some_iff.mp first
  have distinct := linked.nodup_childIds paragraph
  rw [row] at distinct
  refine ⟨texts, row, (List.nodup_cons.mp distinct).1, fun other cut' planned' member => ?_⟩
  obtain ⟨_, _, below, _, start'⟩ := (taskCut?_iff.mp planned').parents linked
  cases below.symm.trans (linked.mem_childIds.mp member)
  have leading := (linked.first paragraph cut'.text).mpr ⟨below, start'⟩
  rw [← linked.head?_childIds, row] at leading
  exact (Option.some.inj leading).symm

private theorem WellFormed.marked_tree (held : doc.Holds id) : (doc.tree id).marked =
    .node (doc.kindOf id) (markRow (doc.kindOf id) ((doc.childIds id).map fun child => (doc.tree child).marked)) :=
  wellFormed.rebuilt_tree held markRow

private theorem WellFormed.marked_tree_of_noItem {kind : NodeKind} (found : doc.kind? id = some kind)
    (noItem : kind ≠ .listItem) :
    (doc.tree id).marked = .node kind ((doc.childIds id).map fun child => (doc.tree child).marked) := by
  rw [wellFormed.marked_tree (holds_iff_kind.mpr ⟨_, found⟩), kindOf_eq found, markRow_of_noItem noItem]

private theorem WellFormed.exists_taskCut (held : doc.Holds id) {after : List NodeTree}
    (boxed : Boxed (doc.kindOf id) ((doc.childIds id).map fun child => (doc.tree child).marked) after) :
    ∃ cut, doc.taskCut? id = some cut := by
  have linked := wellFormed.linked
  generalize isItem : doc.kindOf id = kind at boxed
  generalize whole : ((doc.childIds id).map fun child => (doc.tree child).marked) = row at boxed
  cases boxed with
  | @box literal checked rest below texts blocks read =>
    obtain ⟨paragraph, _, row, first, _⟩ := List.map_eq_cons_iff.mp whole
    have leading := linked.head?_childIds id
    rw [row] at leading
    have inside := ((linked.first id paragraph).mp leading.symm).1
    rw [wellFormed.marked_tree (holds_of_parent inside)] at first
    obtain ⟨isParagraph, content⟩ := NodeTree.node.inj first
    rw [markRow_of_noItem (by rw [isParagraph]; nofun)] at content
    obtain ⟨text, _, row, head, _⟩ := List.map_eq_cons_iff.mp content
    have start := linked.head?_childIds paragraph
    rw [row] at start
    have under := ((linked.first paragraph text).mp start.symm).1
    rw [wellFormed.marked_tree (holds_of_parent under)] at head
    obtain ⟨isText, _⟩ := NodeTree.node.inj head
    refine ⟨⟨text, rest, .taskListMarker checked⟩, taskCut?_iff.mpr ⟨?_, ⟨paragraph, leading.symm, ?_, start.symm⟩,
      literal, checked, ?_, read, rfl⟩⟩
    · rw [kind?_eq_kindOf held, isItem]
    · rw [kind?_eq_kindOf (holds_of_parent inside), isParagraph]
    · rw [kind?_eq_kindOf (holds_of_parent under), isText]

include cutting

private theorem WellFormed.tree_boxed (leaves : doc.LeafTexts) (member : item ∈ seen)
    (planned : doc.taskCut? item = some cut) (under : doc.parent? cut.text = some paragraph)
    (shows : ∀ text ∈ doc.childIds paragraph, text ≠ cut.text → now.tree text = (doc.tree text).marked) :
    ∃ (literal : String) (checked : Bool) (below texts : List NodeTree),
      (doc.tree paragraph).marked = .node .paragraph (.node (.text literal) below :: texts) ∧
      readTaskBox literal.toList = some (checked, cut.rest) ∧ cut.leaf = .taskListMarker checked ∧
      now.tree paragraph = .node .paragraph (shortenedTo cut.rest below ++ texts) := by
  have linked := wellFormed.linked
  have plans := linked.planned_taskCut?
  have box := taskCut?_iff.mp planned
  obtain ⟨texts, row, outside, only⟩ := wellFormed.row_boxBelow planned under
  obtain ⟨_, isParagraph, inside, _, _⟩ := box.parents linked
  cases inside.symm.trans under
  obtain ⟨literal, checked, isText, read, leaf⟩ := box.begins
  have held : doc.Holds paragraph := holds_iff_kind.mpr ⟨_, isParagraph⟩
  have owed : doc.taskCut? paragraph = none := by
    refine Option.eq_none_iff_forall_ne_some.mpr fun cut planned => ?_
    cases isParagraph.symm.trans (taskCut?_iff.mp planned).isItem
  have stay : texts.filter (· ∉ emptied doc.taskCut? seen) = texts := by
    rw [List.filter_eq_self]
    refine fun text among => decide_eq_true (notMem_emptied fun other _ cut' planned' same => ?_)
    subst same
    exact outside (only other cut' planned' (row ▸ List.mem_cons_of_mem _ among) ▸ among)
  have rests : texts.map now.tree = texts.map fun text => (doc.tree text).marked :=
    List.map_congr_left fun text among =>
      shows text (row ▸ List.mem_cons_of_mem _ among) fun same => outside (same ▸ among)
  refine ⟨literal, checked, [], texts.map fun text => (doc.tree text).marked, ?_, read, leaf, ?_⟩
  · have first := wellFormed.marked_tree_of_noItem isText nofun
    rw [leaves.childIds_eq linked isText] at first
    rw [wellFormed.marked_tree_of_noItem isParagraph nofun, row, List.map_cons, first]
    rfl
  · rw [cutting.tree_kept held (plans.notCut isParagraph nofun), kindOf_eq isParagraph,
      cutting.childIds_quiet held fun _ => owed, row, List.filter_cons, stay]
    by_cases blank : cut.rest = []
    · rw [if_neg (by simpa using (plans.text_mem_emptied member planned).mpr blank), rests, blank]
      rfl
    · have stays := mt (plans.text_mem_emptied member planned).mp blank
      rw [if_pos (by simpa using stays), List.map_cons, cutting.tree_cut plans leaves member planned, rests, shortenedTo,
        if_neg (by simpa using blank)]
      rfl

private theorem WellFormed.shows_item (member : item ∈ seen) (planned : doc.taskCut? item = some cut)
    (shows : ∀ child ∈ doc.childIds item, doc.ShowsMarked seen now child) : now.tree item = (doc.tree item).marked := by
  have linked := wellFormed.linked
  have plans := linked.planned_taskCut?
  have box := taskCut?_iff.mp planned
  have held : doc.Holds item := holds_iff_kind.mpr ⟨_, box.isItem⟩
  obtain ⟨paragraph, first, isParagraph, start⟩ := box.text
  have under := ((linked.first paragraph cut.text).mp start).1
  have leading := linked.head?_childIds item
  rw [first] at leading
  obtain ⟨blocks, row⟩ := List.head?_eq_some_iff.mp leading
  have distinct := linked.nodup_childIds item
  rw [row] at shows distinct
  obtain ⟨here, later⟩ := List.forall_mem_cons.mp shows
  obtain ⟨literal, checked, below, texts, tree, read, leaf, now_⟩ := here.paragraph item member cut planned under
  have uncut : doc.Uncut seen item := by
    intro other _ cut planned below
    obtain ⟨_, isParagraph, inside, _⟩ := (taskCut?_iff.mp planned).parents linked
    cases inside.symm.trans below
    cases isParagraph.symm.trans box.isItem
  have rest : blocks.map now.tree = blocks.map fun block => (doc.tree block).marked := by
    refine List.map_congr_left fun block among => (later block among).whole fun other _ cut' planned' below => ?_
    obtain ⟨_, _, inside, above, _⟩ := (taskCut?_iff.mp planned').parents linked
    cases inside.symm.trans below
    cases above.symm.trans (linked.mem_childIds.mp (row ▸ List.mem_cons_of_mem _ among))
    cases planned.symm.trans planned'
    cases under.symm.trans below
    exact (List.nodup_cons.mp distinct).1 among
  obtain ⟨marker, rowNow, _, kind, bare⟩ := cutting.childIds_owner held member planned
  have markerTree : now.tree marker = .node (.taskListMarker checked) [] := by
    rw [cutting.linked.wellFormed.tree_eq (holds_iff_kind.mpr ⟨_, kind⟩), kindOf_eq kind, bare, leaf]
    rfl
  rw [linked.filter_emptied uncut, row] at rowNow
  rw [cutting.tree_kept held (plans.notCut box.isItem nofun), wellFormed.marked_tree held, kindOf_eq box.isItem,
    rowNow, row, List.map_cons, tree, (Boxed.box below texts _ read).markRow_eq, ← rest, ← now_, ← markerTree]
  rfl

/-- Below an item, and below the root, what is seen has been marked. -/
theorem WellFormed.showsMarked (leaves : doc.LeafTexts) (closed : ∀ id ∈ seen, ∀ child ∈ doc.childIds id, child ∈ seen)
    (id : NodeId) (member : id ∈ seen) (held : doc.Holds id)
    (notCut : ∀ item ∈ seen, ∀ cut ∈ doc.taskCut? item, cut.text ≠ id) : doc.ShowsMarked seen now id := by
  have linked := wellFormed.linked
  induction id using wellFormed.child_induction with
  | step id ih =>
    have shows : ∀ child ∈ doc.childIds id, (∀ item ∈ seen, ∀ cut ∈ doc.taskCut? item, cut.text ≠ child) →
        doc.ShowsMarked seen now child := fun child inside =>
      ih child inside (closed id member child inside) (linked.holds_of_mem_childIds inside)
    constructor
    case whole =>
      intro uncut
      have below : ∀ child ∈ doc.childIds id, doc.ShowsMarked seen now child := fun child inside =>
        shows child inside fun item among cut planned same =>
          uncut item among cut planned (same ▸ linked.mem_childIds.mp inside)
      cases planned : doc.taskCut? id with
      | some cut => exact wellFormed.shows_item cutting member planned below
      | none =>
        have row : (doc.childIds id).map now.tree = (doc.childIds id).map fun child => (doc.tree child).marked := by
          refine List.map_congr_left fun child inside => (below child inside).whole fun item _ cut planned' under => ?_
          obtain ⟨_, _, beneath, above, _⟩ := (taskCut?_iff.mp planned').parents linked
          cases beneath.symm.trans under
          cases above.symm.trans (linked.mem_childIds.mp inside)
          cases planned.symm.trans planned'
        rw [cutting.tree_kept held notCut, cutting.childIds_quiet held fun _ => planned, linked.filter_emptied uncut, row,
          wellFormed.marked_tree held, markRow_of_noBox fun after boxed => ?_]
        obtain ⟨cut, found⟩ := wellFormed.exists_taskCut held boxed
        cases planned.symm.trans found
    case paragraph =>
      intro item among cut planned under
      refine wellFormed.tree_boxed cutting leaves among planned under fun text inside other => ?_
      obtain ⟨_, _, _, only⟩ := wellFormed.row_boxBelow planned under
      obtain ⟨_, isParagraph, beneath, _⟩ := (taskCut?_iff.mp planned).parents linked
      cases beneath.symm.trans under
      refine (shows text inside fun item' _ cut' planned' same => ?_).whole fun item' _ cut' planned' below => ?_
      · exact other (same ▸ only item' cut' planned' (same ▸ inside))
      · obtain ⟨_, _, beneath, above, _⟩ := (taskCut?_iff.mp planned').parents linked
        cases beneath.symm.trans below
        cases above.symm.trans (linked.mem_childIds.mp inside)
        cases isParagraph.symm.trans (taskCut?_iff.mp planned').isItem

end

theorem WellFormed.not_beside_root (wellFormed : doc.WellFormed) (held : doc.Holds root) (member : item ∈ doc.descendants root)
    (planned : doc.taskCut? item = some cut) : doc.parent? cut.text ≠ doc.parent? root := by
  intro same
  obtain ⟨paragraph, _, under, higher, _⟩ := (taskCut?_iff.mp planned).parents wellFormed.linked
  have within := (wellFormed.mem_descendants held).mp member
  exact wellFormed.ne_top (within.tail higher) (same.symm.trans under) rfl

/-- The tree of a document whose task items are marked is the tree of the document, with its items marked. -/
theorem WellFormed.tree_markTaskItems (wellFormed : doc.WellFormed) (held : doc.Holds root) (leaves : doc.LeafTexts) :
    doc.markTaskItems.tree root = (doc.tree root).marked := by
  have within : ∀ {id}, id ∈ doc.descendants root ↔ doc.Within root id := wellFormed.mem_descendants held
  have shows := wellFormed.showsMarked (wellFormed.marked held) leaves
    (fun id member child inside => wellFormed.mem_descendants_child held member inside) root (within.mpr .refl) held
  refine (shows fun item member cut planned same => ?_).whole fun item member cut planned same => ?_
  · exact wellFormed.not_beside_root held member planned (congrArg doc.parent? same)
  · obtain ⟨_, _, under, higher, _⟩ := (taskCut?_iff.mp planned).parents wellFormed.linked
    cases under.symm.trans same
    exact wellFormed.ne_top (within.mp member) higher rfl

end MarkdownHtml.Document
