import MarkdownHtml.Proofs.Edits

/-! Runs of edits. No node is moved below itself or beside itself; the edits do not check this, but every
caller keeps to it. Then every document that edits make of the empty one is well formed. -/

namespace MarkdownHtml.Document

variable {doc : Document}

/-- Whether a node may be moved next to another one or below it. -/
def Movable (doc : Document) (id target : NodeId) : Prop := id ≠ target ∧ ¬ doc.Ancestor id target

theorem Movable.child {id parent sibling : NodeId} (movable : doc.Movable id parent)
    (under : doc.parent? sibling = some parent) (different : id ≠ sibling) : doc.Movable id sibling := by
  refine ⟨different, fun above => ?_⟩
  obtain ⟨upper, step, path⟩ := ancestor_iff.mp above
  cases under.symm.trans step
  exact path.elim movable.1 movable.2

namespace Linked

theorem detach (linked : doc.Linked) (id : NodeId) : (doc.detach id).Linked :=
  (linked.removed_detach id).linked linked

theorem placed_detached (linked : doc.Linked) {parent child : NodeId} (held : doc.Holds parent)
    (present : doc.Holds child) (different : parent ≠ child) :
    Placed (doc.detach child) (doc.appendChild parent child) (some parent) ((doc.detach child).lastChild? parent) none
      child := by
  have removed := linked.removed_detach child
  exact placed_appendChild rfl (removed.linked linked) removed.alone ((removed.holds child).mpr present)
    ((removed.holds parent).mpr held) different

theorem appendChild (linked : doc.Linked) {parent child : NodeId} (held : doc.Holds parent) (present : doc.Holds child)
    (movable : doc.Movable child parent) : (doc.appendChild parent child).Linked := by
  have removed := linked.removed_detach child
  have before := removed.linked linked
  have placed := linked.placed_detached held present movable.1.symm
  refine placed.linked before (before.gap_end parent) removed.alone ⟨?_, ?_, ?_, ?_⟩
  · exact (removed.alone.unseen before parent).2.2
  · exact nofun
  · exact fun same => movable.1 (Option.some.inj same).symm
  · intro upper same below
    cases same
    exact movable.2 (removed.ancestor below)

theorem parent?_appendChild (linked : doc.Linked) {parent child : NodeId} (held : doc.Holds parent)
    (present : doc.Holds child) (different : parent ≠ child) (other : NodeId) :
    (doc.appendChild parent child).parent? other = if other = child then some parent else doc.parent? other := by
  rw [(linked.placed_detached held present different).parent, (linked.removed_detach child).parent]
  split <;> rfl

theorem kind?_appendChild (linked : doc.Linked) {parent child : NodeId} (held : doc.Holds parent)
    (present : doc.Holds child) (different : parent ≠ child) (other : NodeId) :
    (doc.appendChild parent child).kind? other = doc.kind? other := by
  rw [(linked.placed_detached held present different).kind, (linked.removed_detach child).kind]

/-- A gap beside a sibling is no closer to a node that may be moved than the sibling itself. -/
private theorem apart_of_movable {before : Document} {id sibling : NodeId} {left right : Option NodeId}
    (removed : Removed doc before id) (movable : doc.Movable id sibling)
    (notLeft : left ≠ some id) (notRight : right ≠ some id) : before.Apart (before.parent? sibling) left right id := by
  refine ⟨notLeft, notRight, ?_, ?_⟩
  · intro under
    exact movable.2 (.single (removed.isParent under))
  · intro upper under below
    exact movable.2 (.tail (removed.ancestor below) (removed.isParent under))

theorem insertBefore (linked : doc.Linked) {sibling id : NodeId} (held : doc.Holds sibling) (present : doc.Holds id)
    (movable : doc.Movable id sibling) : (doc.insertBefore sibling id).Linked := by
  have removed := linked.removed_detach id
  have before := removed.linked linked
  have placed := placed_insertBefore rfl before removed.alone ((removed.holds id).mpr present)
    ((removed.holds sibling).mpr held) movable.1.symm
  refine placed.linked before (before.gap_before sibling) removed.alone (apart_of_movable removed movable ?_ ?_)
  · exact (removed.alone.unseen before sibling).1
  · exact fun same => movable.1 (Option.some.inj same).symm

theorem insertAfter (linked : doc.Linked) {sibling id : NodeId} (held : doc.Holds sibling) (present : doc.Holds id)
    (movable : doc.Movable id sibling) : (doc.insertAfter sibling id).Linked := by
  have removed := linked.removed_detach id
  have before := removed.linked linked
  have placed := placed_insertAfter rfl before removed.alone ((removed.holds id).mpr present)
    ((removed.holds sibling).mpr held) movable.1.symm
  refine placed.linked before (before.gap_behind sibling) removed.alone (apart_of_movable removed movable ?_ ?_)
  · exact fun same => movable.1 (Option.some.inj same).symm
  · exact (removed.alone.unseen before sibling).2.1

theorem prependChild (linked : doc.Linked) {parent child : NodeId} (held : doc.Holds parent)
    (present : doc.Holds child) (movable : doc.Movable child parent) (notFirst : doc.firstChild? parent ≠ some child) :
    (doc.prependChild parent child).Linked := by
  unfold Document.prependChild
  cases leading : doc.firstChild? parent with
  | none => exact linked.appendChild held present movable
  | some first =>
    have under := ((linked.first parent first).mp leading).1
    refine linked.insertBefore (linked.holds_child leading) present (movable.child under fun same => ?_)
    exact notFirst (same ▸ leading)

theorem alloc (linked : doc.Linked) (kind : NodeKind) : (doc.alloc kind).2.Linked :=
  (sameLinks_alloc kind).linked linked

private theorem holds_of_ancestor (linked : doc.Linked) {upper lower : NodeId} (above : doc.Ancestor upper lower) :
    doc.Holds upper := by
  obtain ⟨child, step, _⟩ := Relation.TransGen.head'_iff.mp above
  exact linked.wellFormed.holds_parent step

theorem movable_new (linked : doc.Linked) {parent : NodeId} (held : doc.Holds parent) (kind : NodeKind) :
    (doc.alloc kind).2.Movable ⟨doc.size⟩ parent := by
  have same : SameLinks doc (doc.alloc kind).2 := sameLinks_alloc kind
  refine ⟨held.ne_new.symm, fun above => ?_⟩
  have older : doc.Ancestor ⟨doc.size⟩ parent :=
    Relation.TransGen.mono (fun upper lower step => (same.parent lower).symm.trans step) _ _ above
  exact not_holds_new (linked.holds_of_ancestor older)

theorem appendNew (linked : doc.Linked) {parent : NodeId} (held : doc.Holds parent) (kind : NodeKind) :
    (doc.appendNew parent kind).2.Linked :=
  (linked.alloc kind).appendChild (holds_alloc held) (holds_alloc_new kind) (linked.movable_new held kind)

theorem parent?_appendNew (linked : doc.Linked) {parent : NodeId} (held : doc.Holds parent) (kind : NodeKind)
    (other : NodeId) :
    (doc.appendNew parent kind).2.parent? other = if other = ⟨doc.size⟩ then some parent else doc.parent? other := by
  change ((doc.alloc kind).2.appendChild parent ⟨doc.size⟩).parent? other = _
  rw [(linked.alloc kind).parent?_appendChild (holds_alloc held) (holds_alloc_new kind) held.ne_new,
    (sameLinks_alloc kind).parent]

theorem kind?_appendNew (linked : doc.Linked) {parent : NodeId} (held : doc.Holds parent) (kind : NodeKind)
    (other : NodeId) :
    (doc.appendNew parent kind).2.kind? other = if other = ⟨doc.size⟩ then some kind else doc.kind? other := by
  change ((doc.alloc kind).2.appendChild parent ⟨doc.size⟩).kind? other = _
  rw [(linked.alloc kind).kind?_appendChild (holds_alloc held) (holds_alloc_new kind) held.ne_new, kind?, node?_alloc]
  split <;> rfl

theorem empty : Document.empty.Linked := by
  have bare : ∀ id node, Document.empty.node? id = some node → node = { kind := .document } := by
    intro id node found
    simp only [Document.empty, node?, List.getElem?_toArray, List.getElem?_cons, List.getElem?_nil] at found
    split at found
    · exact (Option.some.inj found).symm
    · cases found
  have free : ∀ field : Node → Option NodeId, field { kind := .document } = none →
      ∀ id, (Document.empty.node? id).bind field = none := by
    intro field blank id
    cases held : Document.empty.node? id with
    | none => rfl
    | some node => rw [bare id node held]; exact blank
  have parent := free (·.parent) rfl
  have first := free (·.firstChild) rfl
  have last := free (·.lastChild) rfl
  have previous := free (·.previous) rfl
  have next := free (·.next) rfl
  constructor <;> simp [parent?, firstChild?, lastChild?, previous?, next?, parent, first, last, previous, next]

end Linked

inductive Edit
  | alloc (kind : NodeKind)
  | appendNew (parent : NodeId) (kind : NodeKind)
  | appendChild (parent child : NodeId)
  | prependChild (parent child : NodeId)
  | insertBefore (sibling id : NodeId)
  | insertAfter (sibling id : NodeId)
  | detach (id : NodeId)

namespace Edit

def apply (doc : Document) : Edit → Document
  | alloc kind => (doc.alloc kind).2
  | appendNew parent kind => (doc.appendNew parent kind).2
  | appendChild parent child => doc.appendChild parent child
  | prependChild parent child => doc.prependChild parent child
  | insertBefore sibling id => doc.insertBefore sibling id
  | insertAfter sibling id => doc.insertAfter sibling id
  | detach id => doc.detach id

/-- What a caller sees to: all nodes are in the arena, the node that moves is not above its target, and
no first child is made the first child again. -/
def Allowed (doc : Document) : Edit → Prop
  | alloc _ => True
  | appendNew parent _ => doc.Holds parent
  | appendChild parent child => doc.Holds parent ∧ doc.Holds child ∧ doc.Movable child parent
  | prependChild parent child =>
    doc.Holds parent ∧ doc.Holds child ∧ doc.Movable child parent ∧ doc.firstChild? parent ≠ some child
  | insertBefore sibling id | insertAfter sibling id => doc.Holds sibling ∧ doc.Holds id ∧ doc.Movable id sibling
  | detach id => doc.Holds id

private theorem linked_apply (linked : doc.Linked) {edit : Edit} (allowed : edit.Allowed doc) :
    (edit.apply doc).Linked := by
  cases edit with
  | alloc kind => exact linked.alloc kind
  | appendNew parent kind => exact linked.appendNew allowed kind
  | appendChild parent child => exact linked.appendChild allowed.1 allowed.2.1 allowed.2.2
  | prependChild parent child => exact linked.prependChild allowed.1 allowed.2.1 allowed.2.2.1 allowed.2.2.2
  | insertBefore sibling id => exact linked.insertBefore allowed.1 allowed.2.1 allowed.2.2
  | insertAfter sibling id => exact linked.insertAfter allowed.1 allowed.2.1 allowed.2.2
  | detach id => exact linked.detach id

/-- One edit after another, each of them allowed in the document that the earlier ones have left. -/
inductive Run : Document → List Edit → Document → Prop
  | done (doc : Document) : Run doc [] doc
  | step {doc after : Document} {edit : Edit} {edits : List Edit} (allowed : edit.Allowed doc)
      (rest : Run (edit.apply doc) edits after) : Run doc (edit :: edits) after

private theorem Run.linked {after : Document} {edits : List Edit} (run : Run doc edits after) (linked : doc.Linked) :
    after.Linked := by
  induction run with
  | done doc => exact linked
  | step allowed _ ih => exact ih (linked_apply linked allowed)

/-- Whatever edits are made of the empty document, as long as each of them is allowed, the document
that they leave is well formed. -/
theorem wellFormed_of_run {edits : List Edit} {doc : Document} (run : Run .empty edits doc) : doc.WellFormed :=
  (run.linked Linked.empty).wellFormed

/-- A run with every edit in it: two nodes change places, and one of them ends below the other. -/
theorem wellFormed_of_run_shuffle :
    let edits : List Edit := [.appendNew root (.heading 1), .appendNew root .paragraph, .alloc .thematicBreak,
      .insertAfter ⟨1⟩ ⟨3⟩, .insertBefore ⟨1⟩ ⟨2⟩, .detach ⟨3⟩, .prependChild root ⟨1⟩, .appendChild ⟨2⟩ ⟨3⟩]
    ∃ doc, Run .empty edits doc ∧ doc.WellFormed ∧ doc.childIds root = [⟨1⟩, ⟨2⟩] ∧ doc.childIds ⟨2⟩ = [⟨3⟩] := by
  intro edits
  have apart : ∀ {doc : Document} {id target : NodeId}, id ≠ target → doc.parent? target = some root → id ≠ root →
      doc.parent? root = none → doc.Movable id target := by
    intro doc id target different under notRoot top
    refine ⟨different, fun above => ?_⟩
    obtain ⟨parent, step, path⟩ := ancestor_iff.mp above
    cases under.symm.trans step
    exact path.elim notRoot (not_ancestor_of_top top)
  have below : ∀ {doc : Document} {id : NodeId}, id ≠ root → doc.parent? root = none → doc.Movable id root :=
    fun notRoot top => ⟨notRoot, not_ancestor_of_top top⟩
  have run : Run .empty edits (edits.foldl apply .empty) := by
    refine .step (by decide : Holds _ _) <| .step (by decide : Holds _ _) <| .step trivial <|
      .step ⟨by decide, by decide, apart (by decide) rfl (by decide) rfl⟩ <|
      .step ⟨by decide, by decide, apart (by decide) rfl (by decide) rfl⟩ <| .step (by decide : Holds _ _) <|
      .step ⟨by decide, by decide, below (by decide) rfl, by decide⟩ <|
      .step ⟨by decide, by decide, apart (by decide) rfl (by decide) rfl⟩ <| .done _
  exact ⟨_, run, wellFormed_of_run run, by decide, by decide⟩

end Edit

end MarkdownHtml.Document
