import MarkdownHtml.Proofs.Relinking

/-! The edits of a document keep its links in agreement, as long as no node is moved below itself or
next to itself. So does every run of edits that begins with the empty document. -/

namespace MarkdownHtml.Document

variable {doc before after : Document}

theorem node?_modify (id : NodeId) (f : Node → Node) (other : NodeId) :
    (doc.modify id f).node? other = if other = id then (doc.node? other).map f else doc.node? other := by
  obtain ⟨index⟩ := id
  obtain ⟨place⟩ := other
  simp [node?, modify, Array.getElem?_modify, eq_comm]

/-- Two documents whose nodes are linked in the same way, whatever their kinds. -/
structure SameLinks (doc after : Document) : Prop where
  parent : ∀ id, after.parent? id = doc.parent? id
  previous : ∀ id, after.previous? id = doc.previous? id
  next : ∀ id, after.next? id = doc.next? id
  first : ∀ id, after.firstChild? id = doc.firstChild? id
  last : ∀ id, after.lastChild? id = doc.lastChild? id

theorem SameLinks.refl (doc : Document) : SameLinks doc doc :=
  ⟨fun _ => rfl, fun _ => rfl, fun _ => rfl, fun _ => rfl, fun _ => rfl⟩

theorem SameLinks.trans {last : Document} (first : SameLinks doc after) (second : SameLinks after last) :
    SameLinks doc last where
  parent id := (second.parent id).trans (first.parent id)
  previous id := (second.previous id).trans (first.previous id)
  next id := (second.next id).trans (first.next id)
  first id := (second.first id).trans (first.first id)
  last id := (second.last id).trans (first.last id)

theorem SameLinks.linked (same : SameLinks doc after) (linked : doc.Linked) : after.Linked := by
  obtain ⟨inverse, sameParent, first, last, position, depth⟩ := linked
  constructor
  · simpa only [same.next, same.previous] using inverse
  · simpa only [same.next, same.parent] using sameParent
  · simpa only [same.first, same.parent, same.previous] using first
  · simpa only [same.last, same.parent, same.next] using last
  · simpa only [same.next] using position
  · simpa only [same.parent] using depth

theorem sameLinks_setKind (id : NodeId) (kind : NodeKind) : SameLinks doc (doc.setKind id kind) := by
  constructor <;> intro other <;> by_cases same : other = id <;> cases held : doc.node? other <;>
    simp_all [setKind, parent?, previous?, next?, firstChild?, lastChild?, node?_modify]

theorem kind?_setKind (id : NodeId) (kind : NodeKind) (other : NodeId) :
    (doc.setKind id kind).kind? other = if other = id then (doc.kind? id).map fun _ => kind else doc.kind? other := by
  by_cases same : other = id <;> cases held : doc.node? other <;> simp_all [setKind, kind?, node?_modify]

theorem node?_alloc (kind : NodeKind) (other : NodeId) :
    (doc.alloc kind).2.node? other = if other = ⟨doc.size⟩ then some { kind } else doc.node? other := by
  obtain ⟨place⟩ := other
  simp only [alloc, node?, size, Array.getElem?_push, NodeId.mk.injEq]

theorem sameLinks_alloc (kind : NodeKind) : SameLinks doc (doc.alloc kind).2 := by
  have free : doc.node? ⟨doc.size⟩ = none := by simp [node?, size]
  constructor <;> intro other <;> by_cases same : other = ⟨doc.size⟩ <;>
    simp_all [parent?, previous?, next?, firstChild?, lastChild?, node?_alloc]

theorem holds_alloc_new (kind : NodeKind) : (doc.alloc kind).2.Holds ⟨doc.size⟩ := by simp [Holds, size, alloc]

theorem holds_alloc {kind : NodeKind} {id : NodeId} (held : doc.Holds id) : (doc.alloc kind).2.Holds id := by
  simp only [Holds, size, alloc, Array.size_push] at held ⊢
  omega

namespace Linked

private theorem holds_neighbours (linked : doc.Linked) (id other : NodeId)
    (near : doc.previous? id = some other ∨ doc.next? id = some other ∨ doc.parent? id = some other) :
    ∃ node, doc.node? other = some node := by
  apply holds_iff.mp
  rcases near with found | found | found
  · exact holds_of_next ((linked.inverse other id).mpr found)
  · exact holds_of_previous ((linked.inverse id other).mp found)
  · exact linked.wellFormed.holds_parent found

theorem removed_detach (linked : doc.Linked) (id : NodeId) : Removed doc (doc.detach id) id := by
  have near := linked.holds_neighbours id
  unfold detach
  cases held : doc.node? id with
  | none =>
    constructor <;> intro other <;>
      simp only [parent?, previous?, next?, firstChild?, lastChild?, kind?, held] <;> grind
  | some node =>
    obtain ⟨kind, parent, firstChild, lastChild, previous, next⟩ := node
    simp only [linkForward, linkBackward]
    cases parent <;> cases previous <;> cases next <;> constructor <;> intro other <;>
      simp only [parent?, previous?, next?, firstChild?, lastChild?, kind?, held, node?_modify] at near ⊢ <;> grind

theorem gap_end (linked : doc.Linked) (parent : NodeId) : doc.Gap (some parent) (doc.lastChild? parent) none := by
  have last := linked.last
  have first := linked.first
  have inverse := linked.inverse
  constructor
  · intro id found
    exact ((last parent id).mp found).symm
  · intro id found
    cases found
  · intro id empty same
    cases same
    cases leading : doc.firstChild? parent with
    | none => rfl
    | some child =>
      have member := linked.mem_childIds.mpr ((first parent child).mp leading).1
      rw [List.getLast?_eq_none_iff.mp ((linked.getLast?_childIds parent).trans empty)] at member
      cases member
  · intro id _ same
    cases same
    rfl

theorem gap_before (linked : doc.Linked) (sibling : NodeId) :
    doc.Gap (doc.parent? sibling) (doc.previous? sibling) (some sibling) where
  behind id found := by
    have step := (linked.inverse id sibling).mpr found
    exact ⟨step, linked.sameParent id sibling step⟩
  before id found := by cases found; exact ⟨rfl, rfl⟩
  first id leading child := linked.leads child leading
  last id impossible := by cases impossible

theorem gap_behind (linked : doc.Linked) (sibling : NodeId) :
    doc.Gap (doc.parent? sibling) (some sibling) (doc.next? sibling) where
  behind id found := by cases found; exact ⟨rfl, rfl⟩
  before id found := ⟨(linked.inverse sibling id).mp found, (linked.sameParent sibling id found).symm⟩
  first id impossible := by cases impossible
  last id trailing child := linked.trails child trailing

end Linked

/-! Each of the three moves puts the node into one gap. What it does before that is a detachment. -/

section
variable {child : NodeId} (unlinked : doc.detach child = before) (linked : before.Linked) (alone : before.Alone child)
  (present : before.Holds child)
include unlinked linked alone present

theorem placed_appendChild {parent : NodeId} (held : before.Holds parent) (different : parent ≠ child) :
    Placed before (doc.appendChild parent child) (some parent) (before.lastChild? parent) none child := by
  have unseen := alone.unseen linked parent
  have last : ∀ other, before.lastChild? parent = some other → ∃ node, before.node? other = some node :=
    fun other found => holds_iff.mp (holds_of_parent ((linked.last parent other).mp found).1)
  obtain ⟨_, held⟩ := holds_iff.mp held
  obtain ⟨_, present⟩ := holds_iff.mp present
  obtain ⟨orphan, leading, trailing⟩ := alone
  unfold appendChild
  simp only [unlinked, linkForward]
  cases end_ : before.lastChild? parent <;> constructor <;> intro other <;>
    simp only [parent?, previous?, next?, firstChild?, lastChild?, kind?, node?_modify]
      at orphan leading trailing unseen end_ last ⊢ <;> grind

theorem placed_insertBefore {sibling : NodeId} (held : before.Holds sibling) (different : sibling ≠ child) :
    Placed before (doc.insertBefore sibling child) (before.parent? sibling) (before.previous? sibling) (some sibling)
      child := by
  have unseen := alone.unseen linked sibling
  have near := linked.holds_neighbours sibling
  obtain ⟨_, held⟩ := holds_iff.mp held
  obtain ⟨_, present⟩ := holds_iff.mp present
  obtain ⟨orphan, leading, trailing⟩ := alone
  unfold insertBefore
  simp only [unlinked, linkForward]
  cases under : before.parent? sibling <;> cases start : before.previous? sibling <;> constructor <;> intro other <;>
    simp only [parent?, previous?, next?, firstChild?, lastChild?, kind?, node?_modify]
      at orphan leading trailing unseen under start near ⊢ <;> grind

theorem placed_insertAfter {sibling : NodeId} (held : before.Holds sibling) (different : sibling ≠ child) :
    Placed before (doc.insertAfter sibling child) (before.parent? sibling) (some sibling) (before.next? sibling)
      child := by
  have unseen := alone.unseen linked sibling
  have near := linked.holds_neighbours sibling
  obtain ⟨_, held⟩ := holds_iff.mp held
  obtain ⟨_, present⟩ := holds_iff.mp present
  obtain ⟨orphan, leading, trailing⟩ := alone
  unfold insertAfter
  simp only [unlinked, linkBackward]
  cases under : before.parent? sibling <;> cases end_ : before.next? sibling <;> constructor <;> intro other <;>
    simp only [parent?, previous?, next?, firstChild?, lastChild?, kind?, node?_modify]
      at orphan leading trailing unseen under end_ near ⊢ <;> grind

end

end MarkdownHtml.Document
