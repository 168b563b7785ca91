import MarkdownHtml.Proofs.ChildEdits
import MarkdownHtml.Proofs.NodeTrees

/-! A document that is still being filled, with the trees that its nodes are going to be. An edit is looked at
from its end: what it adds below a node waited before it for a place there, ahead of all that waits afterwards. -/

namespace MarkdownHtml.Document
open NodeTree

/-- The trees that nodes are going to be, given the trees that wait for a place below them. -/
def Foretells (doc : Document) (waiting : NodeId → List NodeTree) (future : NodeId → NodeTree) : Prop :=
  ∀ id, doc.Holds id → future id = .node (doc.kindOf id) ((waiting id).foldl push ((doc.childIds id).map future))

variable {doc : Document} {waiting : NodeId → List NodeTree} {future : NodeId → NodeTree}

theorem WellFormed.foretells (wellFormed : doc.WellFormed) : Foretells doc (fun _ => []) doc.tree :=
  fun _ held => wellFormed.tree_eq held

private theorem Foretells.of_appendNew (linked : doc.Linked) {parent : NodeId} (held : doc.Holds parent)
    {kind : NodeKind} (foretells : Foretells (doc.appendNew parent kind).2 waiting future)
    (grows : push ((doc.childIds parent).map future) (future ⟨doc.size⟩) =
      (doc.childIds parent).map future ++ [future ⟨doc.size⟩])
    {earlier : NodeId → List NodeTree} (same : ∀ id, doc.Holds id → earlier id =
      if id = parent then .node kind (joined (waiting ⟨doc.size⟩)) :: waiting id else waiting id) :
    Foretells doc earlier future := by
  have grown : Grown doc (doc.appendNew parent kind).2 := .append .refl held kind
  have children := linked.childIds_appendNew held kind
  have kinds := linked.kind?_appendNew held kind
  have new : future ⟨doc.size⟩ = .node kind (joined (waiting ⟨doc.size⟩)) := by
    have present : (doc.appendNew parent kind).2.Holds ⟨doc.size⟩ := holds_appendNew doc parent kind
    rw [foretells _ present, kindOf, kinds, if_pos rfl, children, if_neg held.ne_new.symm, linked.childIds_new]
    rfl
  intro id present
  rw [foretells id (grown.holds present), same id present, children, kindOf, kinds, if_neg present.ne_new]
  by_cases here : id = parent
  · subst here
    rw [if_pos rfl, if_pos rfl, List.map_append, List.map_singleton, ← grows, new]
    rfl
  · rw [if_neg here, if_neg here]
    rfl

theorem Foretells.of_appendNew_plain (linked : doc.Linked) {parent : NodeId} (held : doc.Holds parent) {kind : NodeKind}
    (noText : kind.type ≠ .text) (foretells : Foretells (doc.appendNew parent kind).2 waiting future)
    {earlier : NodeId → List NodeTree} (same : ∀ id, doc.Holds id → earlier id =
      if id = parent then .node kind (joined (waiting ⟨doc.size⟩)) :: waiting id else waiting id) :
    Foretells doc earlier future := by
  refine foretells.of_appendNew linked held ?_ same
  have present : (doc.appendNew parent kind).2.Holds ⟨doc.size⟩ := holds_appendNew doc parent kind
  have kinds := linked.kind?_appendNew held kind ⟨doc.size⟩
  rw [if_pos rfl] at kinds
  rw [foretells _ present, kindOf_eq kinds]
  exact push_of_kind noText _ _

private theorem Foretells.of_extend (linked : doc.Linked) {parent last : NodeId} {short literal : String}
    (trailing : doc.lastChild? parent = some last) (found : doc.kind? last = some (.text short))
    (foretells : Foretells (doc.setKind last (.text (short ++ literal))) waiting future)
    {earlier : NodeId → List NodeTree} (same : ∀ id, doc.Holds id → earlier id =
      if id = parent then text literal :: waiting id else waiting id) :
    ∃ before, Foretells doc earlier before ∧ ∀ id, doc.kind? id ≠ some (.text short) → before id = future id := by
  have links : SameLinks doc (doc.setKind last (.text (short ++ literal))) := sameLinks_setKind last _
  have children : ∀ id, (doc.setKind last (.text (short ++ literal))).childIds id = doc.childIds id :=
    childIds_of_sameLinks links linked
  have under := ((linked.last parent last).mp trailing).1
  have present : doc.Holds last := holds_of_parent under
  have grown : Grown doc (doc.setKind last (.text (short ++ literal))) := .extend .refl found _
  have lengthened := foretells last (grown.holds present)
  rw [kindOf, kind?_setKind, if_pos rfl, found, children] at lengthened
  have notOwnParent : last ≠ parent := fun same => linked.noOwnAncestor parent (.single (same ▸ under))
  obtain ⟨front, split⟩ : ∃ front, doc.childIds parent = front ++ [last] :=
    List.getLast?_eq_some_iff.mp ((linked.getLast?_childIds parent).trans trailing)
  -- Only the tree of the text itself is another one.
  let before := fun id => if id = last then .node (.text short) ((waiting last).foldl push ((doc.childIds last).map future))
    else future id
  have elsewhere : ∀ ids : List NodeId, last ∉ ids → ids.map before = ids.map future := fun ids outside =>
    List.map_congr_left fun id member => if_neg fun here : id = last => outside (here ▸ member)
  have onlyHere : ∀ id, id ≠ parent → last ∉ doc.childIds id := by
    intro id different member
    exact different (Option.some.inj ((linked.parent_of_mem_childIds member).symm.trans under))
  refine ⟨before, fun id held => ?_, fun id noText => if_neg ?_⟩
  · by_cases here : id = last
    · subst here
      rw [same id present, if_neg notOwnParent, elsewhere _ (onlyHere id notOwnParent), kindOf_eq found]
      exact if_pos rfl
    · have unchanged : before id = future id := if_neg here
      rw [unchanged, foretells id (grown.holds held), kindOf, kind?_setKind, if_neg here, children, same id held]
      by_cases parental : id = parent
      · subst parental
        have distinct := linked.nodup_childIds id
        rw [split] at distinct ⊢
        have outside : last ∉ front := by
          simpa using (List.nodup_cons.mp (List.nodup_middle.mp distinct)).1
        have extended : before last = .node (.text short) ((waiting last).foldl push ((doc.childIds last).map future)) :=
          if_pos rfl
        rw [if_pos rfl, List.foldl_cons, List.map_append, List.map_append, elsewhere front outside, List.map_singleton,
          List.map_singleton, extended, push_text, lengthened]
        rfl
      · rw [if_neg parental, elsewhere _ (onlyHere id parental)]
        rfl
  · rintro rfl
    exact noText found

private theorem pushText_of_text {parent last : NodeId} {short : String} (trailing : doc.lastChild? parent = some last)
    (found : doc.kind? last = some (.text short)) (literal : String) :
    doc.pushText parent literal = doc.setKind last (.text (short ++ literal)) := by
  simp only [pushText, trailing, found]

private theorem pushText_of_noText {parent : NodeId}
    (noText : ∀ last short, doc.lastChild? parent = some last → doc.kind? last ≠ some (.text short)) (literal : String) :
    doc.pushText parent literal = (doc.appendNew parent (.text literal)).2 := by
  unfold pushText
  split
  · rfl
  next last trailing =>
    split
    next short found => exact absurd found (noText last short trailing)
    · rfl

theorem Foretells.of_pushText (linked : doc.Linked) {parent : NodeId} (held : doc.Holds parent) {literal : String}
    (foretells : Foretells (doc.pushText parent literal) waiting future) (fresh : waiting ⟨doc.size⟩ = [])
    {earlier : NodeId → List NodeTree} (same : ∀ id, doc.Holds id → earlier id =
      if id = parent then text literal :: waiting id else waiting id) :
    ∃ before, Foretells doc earlier before ∧ ∀ id, (doc.kindOf id).type ≠ .text → before id = future id := by
  by_cases isText : ∃ last short, doc.lastChild? parent = some last ∧ doc.kind? last = some (.text short)
  · obtain ⟨last, short, trailing, found⟩ := isText
    rw [pushText_of_text trailing found] at foretells
    obtain ⟨before, earlier, unchanged⟩ := foretells.of_extend linked trailing found same
    refine ⟨before, earlier, fun id noText => unchanged id fun isText => noText ?_⟩
    rw [kindOf_eq isText]
    rfl
  · have noText : ∀ last short, doc.lastChild? parent = some last → doc.kind? last ≠ some (.text short) :=
      fun last short trailing found => isText ⟨last, short, trailing, found⟩
    rw [pushText_of_noText noText] at foretells
    have grown : Grown doc (doc.appendNew parent (.text literal)).2 := .append .refl held _
    refine ⟨future, foretells.of_appendNew linked held (push_of_getLast? ?_ _) ?_, fun _ _ => rfl⟩
    · intro kind children found isText
      rw [List.getLast?_map, linked.getLast?_childIds] at found
      obtain ⟨last, trailing, tree⟩ := Option.map_eq_some_iff.mp found
      have present : doc.Holds last := holds_of_parent ((linked.last parent last).mp trailing).1
      have shown := (foretells last (grown.holds present)).symm.trans tree
      rw [kindOf, linked.kind?_appendNew held, if_neg present.ne_new] at shown
      obtain ⟨rfl, _⟩ := NodeTree.node.inj shown
      obtain ⟨short, isText⟩ := NodeKind.type_eq_text_iff.mp isText
      exact noText last short trailing ((kind?_eq_kindOf present).trans (congrArg some isText))
    · rw [fresh]
      exact same

end MarkdownHtml.Document
