import MarkdownHtml.Proofs.AssembledTrees
import MarkdownHtml.Proofs.AttachedTrees
import MarkdownHtml.Proofs.MarkedTrees

/-! The marking of task items before and after the other passes. Each pass higher a document is one higher its tree, and the
marking commutes with the passes over trees. -/

namespace MarkdownHtml.NodeTree

private theorem marked_withLeaf {leaf : Option NodeKind} (tree : NodeTree)
    (plain : ∀ kind ∈ leaf, kind ≠ .listItem ∧ tree.kind ≠ .listItem) :
    (tree.withLeaf leaf).marked = tree.marked.withLeaf leaf := by
  obtain ⟨kind, children⟩ := tree
  cases leaf with
  | none => rw [withLeaf_none, withLeaf_none]
  | some leaf =>
    obtain ⟨noItem, notItem⟩ := plain leaf rfl
    have bare : (node leaf []).marked = node leaf [] := marked_of_noItem leaf noItem []
    rw [withLeaf, marked_of_noItem kind notItem, marked_of_noItem kind notItem, withLeaf, List.map_append]
    exact congrArg (fun tree => node kind (children.map marked ++ [tree])) bare

end MarkdownHtml.NodeTree

namespace MarkdownHtml.Document
open NodeTree

variable {doc : Document}

private theorem WellFormed.imageCut?_root (wellFormed : doc.WellFormed) (held : doc.Holds root) :
    doc.markTaskItems.imageCut? root = doc.imageCut? root := by
  have linked := wellFormed.linked
  have marked := wellFormed.marked held
  have apart : ∀ {id}, doc.parent? id = doc.parent? root → ∀ item ∈ doc.descendants root, ∀ cut ∈ doc.taskCut? item,
      cut.text ≠ id := by
    rintro id beside item member cut planned rfl
    exact wellFormed.not_beside_root held member planned beside
  have next : doc.markTaskItems.next? root = doc.next? root := by
    cases under : doc.parent? root with
    | some parent =>
      have uncut : ∀ item ∈ doc.descendants root, ∀ cut ∈ doc.taskCut? item, doc.parent? cut.text ≠ some parent :=
        fun item member cut planned below => wellFormed.not_beside_root held member planned (below.trans under.symm)
      have unseen : parent ∉ doc.descendants root := fun member =>
        wellFormed.ne_top ((wellFormed.mem_descendants held).mp member) under rfl
      have row := marked.childIds_quiet (wellFormed.holds_parent under) fun member => absurd member unseen
      rw [linked.filter_emptied uncut] at row
      exact (linked.neighbours_congr marked.linked row (linked.mem_childIds.mpr under)).2
    | none =>
      have stays : ∀ {id}, doc.parent? id = doc.parent? root → id ∉ emptied doc.taskCut? (doc.descendants root) :=
        fun beside => notMem_emptied (apart beside)
      rw [marked.loose root held under (stays rfl)]
      cases following : doc.next? root with
      | none => rfl
      | some text => exact if_neg (stays (linked.sameParent root text following).symm)
  have kinds : ∀ {id}, doc.Holds id → doc.parent? id = doc.parent? root → doc.markTaskItems.kindOf id = doc.kindOf id :=
    fun present beside => by rw [kindOf, marked.kept _ present (apart beside), ← kindOf]
  rw [imageCut?_eq_block, imageCut?_eq_block, next, kinds held rfl]
  cases following : doc.next? root with
  | none => rfl
  | some text =>
    rw [Option.bind_some, Option.bind_some,
      kinds (linked.holds_of_follows following) (linked.sameParent root text following).symm]

private theorem grown {above : NodeId} {kind : NodeKind} (both : doc.Linked ∧ doc.LeafTexts) (upper : NodeKind)
    (found : doc.kind? above = some upper) (noText : upper.type ≠ .text) :
    (doc.appendNew above kind).2.Linked ∧ (doc.appendNew above kind).2.LeafTexts := by
  have held : doc.Holds above := holds_iff_kind.mpr ⟨upper, found⟩
  refine ⟨both.1.appendNew held kind, both.2.appendNew both.1 held (fun literal isText => noText ?_) kind⟩
  rw [Option.some.inj (found.symm.trans isText)]
  rfl

/-- The marking of task items is done when it is done once. Before and after inserted text has been marked, and before and
after images have got their attributes, it leads to the same tree. -/
theorem markTaskItems_commutes (wellFormed : doc.WellFormed) (held : doc.Holds root) (leaves : doc.LeafTexts) :
    doc.markTaskItems.markTaskItems = doc.markTaskItems ∧
    doc.markTaskItems.markInserted.1.tree root = doc.markInserted.1.markTaskItems.tree root ∧
    doc.markTaskItems.attachImageAttributes.tree root = doc.attachImageAttributes.markTaskItems.tree root := by
  have linked := wellFormed.linked
  have marked := wellFormed.marked held
  have attached := wellFormed.attached held
  obtain ⟨inserted, _⟩ := markInserted_accounts wellFormed held leaves
  have markedLeaves := marked.leafTexts linked.planned_taskCut? leaves
  have attachedLeaves := attached.leafTexts linked.planned_imageCut? leaves
  have first := wellFormed.tree_markTaskItems held leaves
  refine ⟨wellFormed.markTaskItems_twice held, ?_, ?_⟩
  · rw [marked.linked.wellFormed.tree_markInserted (marked.holds root held) markedLeaves, first,
      inserted.linked.wellFormed.tree_markTaskItems (inserted.holds root held) inserted.leaves,
      wellFormed.tree_markInserted held leaves]
    exact (spares_insertRow.marked_rebuilt (doc.tree root)).symm
  · rw [marked.linked.wellFormed.tree_attachImageAttributes (marked.holds root held) markedLeaves, first,
      attached.linked.wellFormed.tree_markTaskItems (attached.holds root held) attachedLeaves,
      wellFormed.tree_attachImageAttributes held leaves, wellFormed.imageCut?_root held, marked_withLeaf]
    · exact congrArg (withLeaf _) (spares_attachFrom.marked_rebuilt (doc.tree root)).symm
    · intro kind found
      obtain ⟨cut, planned, rfl⟩ := Option.map_eq_some_iff.mp found
      obtain ⟨isImage, _, _, _, _, _, leaf⟩ := imageCut?_iff.mp planned
      obtain ⟨_, isImage, same⟩ := Option.map_eq_some_iff.mp isImage
      have kind : (doc.tree root).attached.kind = doc.kindOf root := by
        rw [wellFormed.attached_tree held]
        rfl
      rw [leaf, kind, kindOf_eq isImage]
      refine ⟨nofun, fun isItem => ?_⟩
      rw [isItem] at same
      cases same

/-- An item with a box in front of inserted text, and behind it an image with a text of which nothing is left. -/
theorem markTaskItems_commutes_item : ∃ doc : Document, doc.WellFormed ∧ doc.Holds root ∧ doc.LeafTexts ∧
    doc.childIds ⟨3⟩ = [⟨4⟩, ⟨5⟩, ⟨6⟩] ∧ doc.kind? ⟨4⟩ = some (.text "[x] ++a++") ∧
    doc.markTaskItems.childIds ⟨2⟩ = [⟨7⟩, ⟨3⟩] ∧ doc.markTaskItems.kind? ⟨7⟩ = some (.taskListMarker true) ∧
    doc.markTaskItems.kind? ⟨4⟩ = some (.text "++a++") ∧
    (doc.matchDelimiters ⟨3⟩).length = 2 ∧
    doc.markTaskItems.attachImageAttributes.childIds ⟨3⟩ = [⟨4⟩, ⟨5⟩] ∧
    doc.markTaskItems.markTaskItems = doc.markTaskItems ∧
    doc.markTaskItems.markInserted.1.tree root = doc.markInserted.1.markTaskItems.tree root ∧
    doc.markTaskItems.attachImageAttributes.tree root = doc.attachImageAttributes.markTaskItems.tree root := by
  let list := (Document.empty.appendNew root (.bulletList true '-')).2
  let item := (list.appendNew ⟨1⟩ .listItem).2
  let paragraph := (item.appendNew ⟨2⟩ .paragraph).2
  let first := (paragraph.appendNew ⟨3⟩ (.text "[x] ++a++")).2
  let second := (first.appendNew ⟨3⟩ (.image "p" none)).2
  let doc := (second.appendNew ⟨3⟩ (.text "\x7bwidth=1\x7d")).2
  have ofList : list.Linked ∧ list.LeafTexts := grown ⟨.empty, leafTexts_empty⟩ .document (by decide) nofun
  have ofItem : item.Linked ∧ item.LeafTexts := grown ofList (.bulletList true '-') (by decide) nofun
  have ofParagraph : paragraph.Linked ∧ paragraph.LeafTexts := grown ofItem .listItem (by decide) nofun
  have ofFirst : first.Linked ∧ first.LeafTexts := grown ofParagraph .paragraph (by decide) nofun
  have ofSecond : second.Linked ∧ second.LeafTexts := grown ofFirst .paragraph (by decide) nofun
  obtain ⟨linked, leaves⟩ : doc.Linked ∧ doc.LeafTexts := grown ofSecond .paragraph (by decide) nofun
  have wellFormed := linked.wellFormed
  exact ⟨doc, wellFormed, by decide, leaves, by decide, by decide, by decide +kernel, by decide +kernel, by decide +kernel,
    by decide +kernel, by decide +kernel, markTaskItems_commutes wellFormed (by decide) leaves⟩

end MarkdownHtml.Document
