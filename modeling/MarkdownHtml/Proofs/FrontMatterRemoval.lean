import MarkdownHtml.Proofs.ChildEdits
import MarkdownHtml.Proofs.Preorder

/-! A document without its front matter: the blocks are detached one after another, with all that is below
them. Every other node keeps its kind and its parent, and the children that stay keep their order. -/

namespace MarkdownHtml.Document

variable {doc after : Document} {ids : List NodeId}

def isFrontMatter (doc : Document) (id : NodeId) : Bool := doc.type? id == some .frontMatterBlock

/-- The blocks of front matter in reach. -/
def frontMatter (doc : Document) : List NodeId := (doc.descendants root).filter doc.isFrontMatter

def withoutFrontMatter (doc : Document) : Document := doc.frontMatter.foldl detach doc

/-- What a document becomes when nodes are detached. -/
structure Pruned (doc after : Document) (ids : List NodeId) : Prop where
  linked : after.Linked
  parent : ∀ id, after.parent? id = if id ∈ ids then none else doc.parent? id
  kind : ∀ id, after.kind? id = doc.kind? id
  children : ∀ parent, after.childIds parent = (doc.childIds parent).filter fun id => id ∉ ids

private theorem pruned_foldl (linked : doc.Linked) (ids : List NodeId) : Pruned doc (ids.foldl detach doc) ids := by
  induction ids generalizing doc with
  | nil => exact ⟨linked, by simp, fun _ => rfl, by simp⟩
  | cons id rest ih =>
    have removed := linked.removed_detach id
    obtain ⟨final, parent, kind, children⟩ := ih (removed.linked linked)
    refine ⟨final, fun other => ?_, fun other => ?_, fun other => ?_⟩
    · rw [List.foldl_cons, parent, removed.parent]
      by_cases here : other = id <;> simp [here]
    · rw [List.foldl_cons, kind, removed.kind]
    · rw [List.foldl_cons, children, linked.childIds_detach, (linked.nodup_childIds other).erase_eq_filter,
        List.filter_filter]
      refine List.filter_congr fun child _ => ?_
      by_cases here : child = id <;> simp [here]

theorem WellFormed.pruned (wellFormed : doc.WellFormed) : Pruned doc doc.withoutFrontMatter doc.frontMatter :=
  pruned_foldl wellFormed.linked doc.frontMatter

theorem isFrontMatter_of_mem {id : NodeId} (member : id ∈ doc.frontMatter) : doc.isFrontMatter id :=
  (List.mem_filter.mp member).2

namespace Pruned

variable (pruned : Pruned doc after ids)
include pruned

theorem type (id : NodeId) : after.type? id = doc.type? id := by rw [type?, type?, pruned.kind]

theorem holds (id : NodeId) : after.Holds id ↔ doc.Holds id := by rw [holds_iff_kind, holds_iff_kind, pruned.kind]

theorem mem_childIds {parent child : NodeId} :
    child ∈ after.childIds parent ↔ child ∈ doc.childIds parent ∧ child ∉ ids := by
  rw [pruned.children, List.mem_filter, decide_eq_true_iff]

theorem parent_of_notMem {id : NodeId} (stays : id ∉ ids) : after.parent? id = doc.parent? id := by
  rw [pruned.parent, if_neg stays]

theorem isParent {parent child : NodeId} (under : after.IsParent parent child) : doc.IsParent parent child := by
  unfold IsParent at under
  rw [pruned.parent] at under
  split at under
  · cases under
  · exact under

private theorem subtree (wellFormed : doc.WellFormed) {id : NodeId} (held : doc.Holds id)
    (keeps : ∀ child ∈ ids, ¬ doc.Ancestor id child) : after.subtree id = doc.subtree id := by
  revert held keeps
  induction id using wellFormed.child_induction with
  | step id ih =>
    intro held keeps
    have children : after.childIds id = doc.childIds id := by
      rw [pruned.children, List.filter_eq_self]
      intro child member
      exact decide_eq_true fun gone => keeps child gone (.single (wellFormed.mem_childIds.mp member))
    rw [pruned.linked.wellFormed.subtree_eq ((pruned.holds id).mpr held), wellFormed.subtree_eq held, children,
      List.cons.injEq]
    refine ⟨rfl, List.flatMap_congr fun child member => ?_⟩
    have under := wellFormed.mem_childIds.mp member
    exact ih child member (holds_of_parent under) fun other gone below => keeps other gone (.head under below)

theorem textContent (wellFormed : doc.WellFormed) {id : NodeId} (held : doc.Holds id)
    (keeps : ∀ child ∈ ids, ¬ doc.Ancestor id child) : after.textContent id = doc.textContent id := by
  unfold Document.textContent
  rw [pruned.linked.wellFormed.descendants_eq_subtree ((pruned.holds id).mpr held),
    wellFormed.descendants_eq_subtree held, pruned.subtree wellFormed held keeps]
  simp only [pruned.kind]

end Pruned

end MarkdownHtml.Document
