import MarkdownHtml.Proofs.AttachedImages
import MarkdownHtml.Proofs.RebuiltTrees

/-! The attributes of images in trees. What becomes of a node depends on its neighbours in the row only, so the pass higher
a document can be told from the tree of the document. -/

namespace MarkdownHtml.NodeTree
open Document

/-- The attributes of a block behind an image, and what is left of the text there. -/
def blockOf : NodeKind → NodeKind → Option (List (String × String) × List Char)
  | .image .., .text literal => readImageAttributes literal.toList
  | _, _ => none

def leafOf (pairs : List (String × String)) : NodeTree := node (.imageAttributes pairs) []

def attachStep (previous next : Option NodeKind) : NodeTree → List NodeTree
  | node kind children =>
    match previous.bind (blockOf · kind), next.bind (blockOf kind) with
    | some (_, rest), _ => shortenedTo rest children
    | none, some (pairs, _) => [node kind (children ++ [leafOf pairs])]
    | none, none => [node kind children]

/-- A tree with a leaf at the end of its row, if there is one. -/
def withLeaf (leaf : Option NodeKind) : NodeTree → NodeTree
  | node kind children => node kind (children ++ leaf.toList.map (node · []))

theorem withLeaf_none (tree : NodeTree) : tree.withLeaf none = tree := by
  cases tree
  rw [withLeaf, Option.toList_none, List.map_nil, List.append_nil]

/-- A row in which the images have got their attributes, after a node of a given kind. -/
def attachFrom : Option NodeKind → List NodeTree → List NodeTree
  | _, [] => []
  | previous, tree :: row => attachStep previous (row.head?.map kind) tree ++ attachFrom (some tree.kind) row

def attached : NodeTree → NodeTree := rebuilt fun _ => attachFrom none

variable {kind : NodeKind} {row children : List NodeTree}

private theorem blockOf_of_noImage (noImage : kind.type ≠ .image) (next : NodeKind) : blockOf kind next = none := by
  unfold blockOf
  split
  · exact absurd rfl noImage
  · rfl

theorem blockOf_cases {image text : NodeKind} {block : List (String × String) × List Char}
    (found : blockOf image text = some block) : ∃ destination title literal, image = .image destination title ∧
      text = .text literal ∧ readImageAttributes literal.toList = some block := by
  unfold blockOf at found
  split at found
  next destination title literal => exact ⟨destination, title, literal, rfl, rfl, found⟩
  next => cases found

private theorem attachStep_of_uncut {previous next : Option NodeKind} (uncut : previous.bind (blockOf · kind) = none) :
    attachStep previous next (node kind children) =
      [(node kind children).withLeaf ((next.bind (blockOf kind)).map fun block => .imageAttributes block.1)] := by
  rw [attachStep, uncut]
  cases next.bind (blockOf kind) with
  | none => rw [Option.map_none, withLeaf_none]
  | some block => rfl

private theorem attachStep_of_other (kind : NodeKind) (noText : kind.type ≠ .text) (noImage : kind.type ≠ .image)
    (previous next : Option NodeKind) (children : List NodeTree) :
    attachStep previous next (node kind children) = [node kind children] := by
  have notCut : previous.bind (blockOf · kind) = none := by
    cases previous with
    | none => rfl
    | some previous =>
      refine Option.eq_none_iff_forall_ne_some.mpr fun block found => ?_
      obtain ⟨_, _, _, _, rfl, _⟩ := blockOf_cases found
      exact noText rfl
  have notImage : next.bind (blockOf kind) = none := by
    cases next with
    | none => rfl
    | some next => exact blockOf_of_noImage noImage next
  simp only [attachStep, notCut, notImage]

private theorem attachStep_of_noImage (noImage : kind.type ≠ .image) (next : Option NodeKind) :
    attachStep none next (node kind children) = [node kind children] := by
  have none_ : next.bind (blockOf kind) = none := by
    cases next with
    | none => rfl
    | some next => exact blockOf_of_noImage noImage next
  simp only [attachStep, Option.bind_none, none_]

private theorem attachFrom_of_noImage (noImage : kind.type ≠ .image) (row : List NodeTree) :
    attachFrom (some kind) row = attachFrom none row := by
  cases row with
  | nil => rfl
  | cons tree row =>
    obtain ⟨_, _⟩ := tree
    simp only [attachFrom, attachStep, Option.bind_some, Option.bind_none, blockOf_of_noImage noImage]

private theorem attachFrom_cons_of_noImage (kind : NodeKind) (noImage : kind.type ≠ .image)
    (children row : List NodeTree) :
    attachFrom none (node kind children :: row) = node kind children :: attachFrom none row := by
  rw [attachFrom, attachStep_of_noImage noImage, List.singleton_append, NodeTree.kind, attachFrom_of_noImage noImage]

private theorem map_marked_attachStep (previous next : Option NodeKind) (tree : NodeTree) :
    (attachStep previous next tree).map marked = attachStep previous next tree.marked := by
  obtain ⟨kind, children⟩ := tree
  by_cases isItem : kind = .listItem
  · subst isItem
    have stays := attachStep_of_other .listItem nofun nofun previous next
    rw [marked_node, stays, stays, List.map_singleton, marked_node]
  · rw [marked_of_noItem kind isItem]
    unfold attachStep
    dsimp only
    split
    next => exact map_rebuilt_shortenedTo _ children
    next pairs _ _ _ =>
      have leaf : (leafOf pairs).marked = leafOf pairs := marked_of_noItem (.imageAttributes pairs) nofun []
      rw [List.map_singleton, marked_of_noItem kind isItem, List.map_append, List.map_singleton, leaf]
    next => rw [List.map_singleton, marked_of_noItem kind isItem]

private theorem map_marked_attachFrom (previous : Option NodeKind) (row : List NodeTree) :
    (attachFrom previous row).map marked = attachFrom previous (row.map marked) := by
  induction row generalizing previous with
  | nil => rfl
  | cons tree row ih =>
    have next : (row.map marked).head?.map NodeTree.kind = row.head?.map NodeTree.kind := by
      cases row with
      | nil => rfl
      | cons next _ => exact congrArg some (kind_marked next)
    rw [List.map_cons, attachFrom, attachFrom, List.map_append, map_marked_attachStep, ih, next, kind_marked]

private theorem head_attachFrom {later below : List NodeTree} (kind : NodeKind) (noImage : kind.type ≠ .image)
    (found : attachFrom none row = node kind below :: later) : ∃ behind, row = node kind below :: behind := by
  cases row with
  | nil => cases found
  | cons tree row =>
    obtain ⟨first, children⟩ := tree
    refine ⟨row, ?_⟩
    rw [attachFrom] at found
    have same : first = kind := by
      cases block : (row.head?.map NodeTree.kind).bind (blockOf first) <;>
        · simp only [attachStep, Option.bind_none, block] at found
          exact (NodeTree.node.inj (List.cons.inj found).1).1
    subst same
    rw [attachStep_of_noImage noImage] at found
    exact congrArg (· :: row) (List.cons.inj found).1

theorem spares_attachFrom : Spares (attachFrom none) where
  nil := rfl
  natural := map_marked_attachFrom none
  item blocks := by
    refine ⟨attachFrom none blocks, fun below => ?_⟩
    have here := attachFrom_cons_of_noImage .paragraph nofun below blocks
    refine ⟨here, fun checked => ?_⟩
    rw [attachFrom_cons_of_noImage (.taskListMarker checked) nofun, here]
  leading found := head_attachFrom .paragraph nofun found
  box below texts read := by
    rename_i literal checked rest
    have kept := fun literal => attachFrom_cons_of_noImage (.text literal) nofun below texts
    refine ⟨literal, rest, below, attachFrom none texts, kept literal, read, ?_⟩
    unfold shortenedTo
    split
    · rfl
    · exact (kept _).symm
  noBox found read := by
    obtain ⟨behind, same⟩ := head_attachFrom (.text _) nofun found
    exact ⟨_, _, behind, same, read⟩

end MarkdownHtml.NodeTree

namespace MarkdownHtml.Document
open NodeTree

variable {doc now : Document} {id child : NodeId} {cut : Cut} {seen : List NodeId}

private theorem kind?_of_kindOf {kind : NodeKind} (same : doc.kindOf id = kind) (inside : kind ≠ .document) :
    doc.kind? id = some kind := by
  cases found : doc.kind? id with
  | none =>
    rw [kindOf, found] at same
    exact absurd same.symm inside
  | some other => rw [← same, kindOf_eq found]

/-- What is cut for an image follows from what it is and from what is behind it. -/
theorem imageCut?_eq_block (doc : Document) (id : NodeId) : doc.imageCut? id = (doc.next? id).bind fun text =>
    (blockOf (doc.kindOf id) (doc.kindOf text)).map fun block => ⟨text, block.2, .imageAttributes block.1⟩ := by
  refine Option.ext fun cut => ⟨fun found => ?_, fun found => ?_⟩
  · unfold imageCut? at found
    split at found
    next text isImage following =>
      split at found
      next literal isText =>
        rw [following, Option.bind_some, kindOf_eq isImage, kindOf_eq isText]
        exact found
      · cases found
    · cases found
  · obtain ⟨text, following, cuts⟩ := Option.bind_eq_some_iff.mp found
    obtain ⟨block, behind, rfl⟩ := Option.map_eq_some_iff.mp cuts
    obtain ⟨_, _, _, isImage, isText, read⟩ := blockOf_cases behind
    have image := kind?_of_kindOf isImage (by rintro ⟨⟩)
    have textBehind := kind?_of_kindOf isText (by rintro ⟨⟩)
    simp only [imageCut?, image, following, textBehind, read, Option.map_some]

private theorem leaf_imageCut (doc : Document) (id : NodeId) : (doc.imageCut? id).map Cut.leaf =
    (((doc.next? id).map doc.kindOf).bind (blockOf (doc.kindOf id))).map fun block => .imageAttributes block.1 := by
  rw [imageCut?_eq_block]
  cases doc.next? id with
  | none => rfl
  | some next =>
    rw [Option.bind_some, Option.map_map]
    rfl

theorem WellFormed.attached_tree (wellFormed : doc.WellFormed) (held : doc.Holds id) : (doc.tree id).attached =
    .node (doc.kindOf id) (attachFrom none ((doc.childIds id).map fun child => (doc.tree child).attached)) :=
  wellFormed.rebuilt_tree held fun _ => attachFrom none

section
variable (wellFormed : doc.WellFormed) (cutting : Cutting .back doc.imageCut? doc seen now)
include wellFormed cutting

private theorem WellFormed.step_child (leaves : doc.LeafTexts) (held : doc.Holds child)
    (among : ∀ previous, doc.previous? child = some previous → previous ∈ seen)
    (shows : (∀ image ∈ seen, ∀ cut ∈ doc.imageCut? image, cut.text ≠ child) →
      now.tree child = (doc.tree child).attached.withLeaf ((doc.imageCut? child).map Cut.leaf)) :
    ([child].filter (· ∉ emptied doc.imageCut? seen)).map now.tree =
      attachStep ((doc.previous? child).map doc.kindOf) ((doc.next? child).map doc.kindOf) (doc.tree child).attached := by
  have linked := wellFormed.linked
  have plans := linked.planned_imageCut?
  by_cases isCut : ∃ image ∈ seen, ∃ cut ∈ doc.imageCut? image, cut.text = child
  · obtain ⟨image, member, cut, planned, rfl⟩ := isCut
    have behind := (linked.inverse _ _).mp (imageCut?_iff.mp planned).next
    have block := planned
    rw [imageCut?_eq_block, (imageCut?_iff.mp planned).next, Option.bind_some] at block
    obtain ⟨⟨pairs, rest⟩, found, same⟩ := Option.map_eq_some_iff.mp block
    obtain ⟨literal, isText⟩ := plans.text image cut planned
    have bare := leaves.childIds_eq linked isText
    rw [wellFormed.attached_tree held, bare, attachStep, behind, Option.map_some, Option.bind_some, found]
    have left : cut.rest = rest := by rw [← same]
    by_cases blank : cut.rest = []
    · rw [List.filter_cons_of_neg (by simpa using (plans.text_mem_emptied member planned).mpr blank), ← left, blank]
      rfl
    · have stays := mt (plans.text_mem_emptied member planned).mp blank
      rw [List.filter_cons_of_pos (by simpa using stays), ← left]
      dsimp only
      rw [shortenedTo, if_neg (by simpa using blank)]
      exact congrArg (fun tree => [tree]) (cutting.tree_cut plans leaves member planned)
  · have notCut : ∀ image ∈ seen, ∀ cut ∈ doc.imageCut? image, cut.text ≠ child := fun image member cut planned same =>
      isCut ⟨image, member, cut, planned, same⟩
    have stays : child ∉ emptied doc.imageCut? seen := notMem_emptied notCut
    have apart : ((doc.previous? child).map doc.kindOf).bind (blockOf · (doc.kindOf child)) = none := by
      refine Option.eq_none_iff_forall_ne_some.mpr fun block found => ?_
      obtain ⟨_, kind, behind⟩ := Option.bind_eq_some_iff.mp found
      obtain ⟨image, before, rfl⟩ := Option.map_eq_some_iff.mp kind
      refine notCut image (among image before) ⟨child, block.2, .imageAttributes block.1⟩ ?_ rfl
      rw [Option.mem_def, imageCut?_eq_block, (linked.inverse _ _).mpr before, Option.bind_some, behind]
      rfl
    rw [List.filter_cons_of_pos (by simpa using stays), List.filter_nil, List.map_singleton, shows notCut,
      wellFormed.attached_tree held, attachStep_of_uncut apart, leaf_imageCut]

private theorem WellFormed.row_attached (leaves : doc.LeafTexts) (inside : ∀ child ∈ doc.childIds id, child ∈ seen)
    (shows : ∀ child ∈ doc.childIds id, (∀ image ∈ seen, ∀ cut ∈ doc.imageCut? image, cut.text ≠ child) →
      now.tree child = (doc.tree child).attached.withLeaf ((doc.imageCut? child).map Cut.leaf)) :
    ((doc.childIds id).filter (· ∉ emptied doc.imageCut? seen)).map now.tree =
      attachFrom none ((doc.childIds id).map fun child => (doc.tree child).attached) := by
  have linked := wellFormed.linked
  suffices suffix : ∀ rest front, doc.childIds id = front ++ rest →
      (rest.filter (· ∉ emptied doc.imageCut? seen)).map now.tree =
        attachFrom (front.getLast?.map doc.kindOf) (rest.map fun child => (doc.tree child).attached) from
    suffix _ [] rfl
  have kinds : ∀ {child}, doc.Holds child → (doc.tree child).attached.kind = doc.kindOf child := fun held => by
    rw [wellFormed.attached_tree held]
    rfl
  intro rest
  induction rest with
  | nil => exact fun _ _ => rfl
  | cons child rest ih =>
    intro front row
    obtain ⟨previous, next⟩ := linked.neighbours row
    have member : child ∈ doc.childIds id := row ▸ List.mem_append_right _ (List.mem_cons_self ..)
    have held := linked.holds_of_mem_childIds member
    have before : ∀ before, doc.previous? child = some before → before ∈ seen := fun before found =>
      inside before (row ▸ List.mem_append_left _ (List.mem_of_getLast? (previous.symm.trans found)))
    have here := wellFormed.step_child cutting leaves held before (shows child member)
    have later := ih (front ++ [child]) (row.trans (List.append_cons ..))
    have following : (rest.map fun child => (doc.tree child).attached).head?.map NodeTree.kind =
        (doc.next? child).map doc.kindOf := by
      rw [next, List.head?_map, Option.map_map]
      exact Option.map_congr fun id found => kinds (linked.holds_of_follows (next.trans found))
    rw [List.getLast?_concat, Option.map_some] at later
    rw [List.map_cons, attachFrom, following, kinds held, ← previous, ← here, ← later, ← List.map_append,
      ← List.filter_append, List.singleton_append]

/-- What is seen shows the attributes of images below it, and its own ones if it is an image. -/
theorem WellFormed.tree_attached (leaves : doc.LeafTexts) (closed : ∀ id ∈ seen, ∀ child ∈ doc.childIds id, child ∈ seen)
    (id : NodeId) (member : id ∈ seen) (held : doc.Holds id)
    (notCut : ∀ image ∈ seen, ∀ cut ∈ doc.imageCut? image, cut.text ≠ id) :
    now.tree id = (doc.tree id).attached.withLeaf ((doc.imageCut? id).map Cut.leaf) := by
  have linked := wellFormed.linked
  induction id using wellFormed.child_induction with
  | step id ih =>
    have row := wellFormed.row_attached cutting leaves (closed id member) fun child inside =>
      ih child inside (closed id member child inside) (linked.holds_of_mem_childIds inside)
    rw [cutting.tree_kept held notCut, wellFormed.attached_tree held, ← row]
    cases planned : doc.imageCut? id with
    | none => rw [cutting.childIds_quiet held fun _ => planned, Option.map_none, withLeaf_none]
    | some cut =>
      obtain ⟨leaf, rowNow, _, kind, bare⟩ := cutting.childIds_owner held member planned
      have leafTree : now.tree leaf = .node cut.leaf [] := by
        rw [cutting.linked.wellFormed.tree_eq (holds_iff_kind.mpr ⟨_, kind⟩), kindOf_eq kind, bare]
        rfl
      rw [rowNow, Side.join, List.map_append, List.map_singleton, leafTree]
      rfl

end

/-- The tree of a document whose images have got their attributes. Only the root may have its block outside of the tree. -/
theorem WellFormed.tree_attachImageAttributes (wellFormed : doc.WellFormed) (held : doc.Holds root) (leaves : doc.LeafTexts) :
    doc.attachImageAttributes.tree root =
      (doc.tree root).attached.withLeaf ((doc.imageCut? root).map Cut.leaf) := by
  have linked := wellFormed.linked
  have within : ∀ {id}, id ∈ doc.descendants root ↔ doc.Within root id := wellFormed.mem_descendants held
  refine wellFormed.tree_attached (wellFormed.attached held) leaves
    (fun id member child inside => wellFormed.mem_descendants_child held member inside)
    root (within.mpr .refl) held fun image member cut planned same => ?_
  have following := (imageCut?_iff.mp planned).next
  rw [same] at following
  rcases within_iff.mp (within.mp member) with rfl | above
  · obtain ⟨literal, isText⟩ := linked.planned_imageCut?.text _ cut planned
    have isImage := (imageCut?_iff.mp planned).isImage
    rw [← same, type?, isText] at isImage
    cases isImage
  · obtain ⟨parent, under, higher⟩ := ancestor_iff.mp above
    have up := (linked.sameParent image root following).symm.trans under
    exact wellFormed.ne_top (within_iff.mpr (higher.imp_left Eq.symm)) up rfl

end MarkdownHtml.Document
