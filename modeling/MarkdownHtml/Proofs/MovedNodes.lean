import MarkdownHtml.Proofs.ChildEdits
import MarkdownHtml.Proofs.Preorder

/-! Edits of links are edits of lists of children. A node that is moved leaves the list that had it and comes to one
place in the list of its new parent; every other list, every kind and all that is below the node stay. The one
exception is a first child that is to become the first child once more: it is lost. -/

namespace MarkdownHtml.Document

variable {doc before after : Document} {id : NodeId} {above left right : Option NodeId}

/-- What a move leaves as it was, wherever the node goes to: below another node, or to none. -/
structure Moved (doc after : Document) (id : NodeId) (above : Option NodeId) : Prop where
  wellFormed : after.WellFormed
  kind : ∀ other, after.kind? other = doc.kind? other
  parent : ∀ other, after.parent? other = if other = id then above else doc.parent? other
  elsewhere : ∀ other, above ≠ some other → after.childIds other = (doc.childIds other).erase id
  descendants : after.descendants id = doc.descendants id
  below : ∀ lower ∈ doc.descendants id, after.childIds lower = doc.childIds lower

private theorem WellFormed.notMem_childIds_of_within (wellFormed : doc.WellFormed) {lower : NodeId}
    (within : doc.Within id lower) : id ∉ doc.childIds lower := fun member =>
  wellFormed.noOwnAncestor id (Relation.TransGen.tail' within (wellFormed.mem_childIds.mp member))

private theorem subtree_congr (wellFormed : doc.WellFormed) (wellFormedAfter : after.WellFormed)
    (held : ∀ other, after.Holds other ↔ doc.Holds other) {top : NodeId}
    (same : ∀ lower, doc.Within top lower → after.childIds lower = doc.childIds lower) (present : doc.Holds top) :
    after.subtree top = doc.subtree top := by
  revert same present
  induction top using wellFormed.child_induction with
  | step top ih =>
    intro same present
    rw [wellFormed.subtree_eq present, wellFormedAfter.subtree_eq ((held top).mpr present), same top .refl,
      List.cons.injEq]
    refine ⟨rfl, List.flatMap_congr fun child member => ?_⟩
    have under := wellFormed.mem_childIds.mp member
    exact ih child member (fun lower within => same lower (.head under within)) (holds_of_parent under)

/-- All that a move has to show: where each list of children has come to, and that the links agree. -/
theorem Moved.of_childIds (wellFormed : doc.WellFormed) (wellFormedAfter : after.WellFormed) (present : doc.Holds id)
    (kind : ∀ other, after.kind? other = doc.kind? other)
    (parent : ∀ other, after.parent? other = if other = id then above else doc.parent? other)
    (elsewhere : ∀ other, above ≠ some other → after.childIds other = (doc.childIds other).erase id)
    (apart : ∀ upper, above = some upper → ¬ doc.Within id upper) : Moved doc after id above := by
  have held : ∀ other, after.Holds other ↔ doc.Holds other := fun other => by
    rw [holds_iff_kind, holds_iff_kind, kind]
  have below : ∀ lower, doc.Within id lower → after.childIds lower = doc.childIds lower := by
    intro lower within
    rw [elsewhere lower fun same => apart lower same within,
      List.erase_of_not_mem (wellFormed.notMem_childIds_of_within within)]
  refine ⟨wellFormedAfter, kind, parent, elsewhere, ?_, fun lower member => ?_⟩
  · rw [wellFormed.descendants_eq_subtree present, wellFormedAfter.descendants_eq_subtree ((held id).mpr present)]
    exact subtree_congr wellFormed wellFormedAfter held below present
  · exact below lower ((wellFormed.mem_descendants present).mp member)

private theorem Placed.moved (placed : Placed (doc.detach id) after above left right id) (linked : doc.Linked)
    (gap : (doc.detach id).Gap above left right) (linkedAfter : after.Linked) (present : doc.Holds id)
    (apart : ∀ upper, above = some upper → ¬ doc.Within id upper) : Moved doc after id above := by
  have removed := linked.removed_detach id
  refine .of_childIds linked.wellFormed linkedAfter.wellFormed present (fun other => ?_) (fun other => ?_)
    (fun other elsewhere => ?_) apart
  · rw [placed.kind, removed.kind]
  · rw [placed.parent, removed.parent]
    split <;> rfl
  · rw [placed.childIds_elsewhere gap removed.alone linkedAfter elsewhere, linked.childIds_detach]

private theorem Placed.exists_row_moved (placed : Placed (doc.detach id) after above left right id)
    (linked : doc.Linked) (gap : (doc.detach id).Gap above left right) (linkedAfter : after.Linked) {parent : NodeId}
    (here : above = some parent) :
    ∃ front rest, (doc.childIds parent).erase id = front ++ rest ∧ after.childIds parent = front ++ id :: rest ∧
      front.getLast? = left ∧ rest.head? = right := by
  have row := placed.exists_row gap (linked.removed_detach id).alone linkedAfter here
  rwa [linked.childIds_detach] at row

private theorem Movable.notWithin {sibling upper : NodeId} (movable : doc.Movable id sibling)
    (under : doc.parent? sibling = some upper) : ¬ doc.Within id upper := fun within =>
  movable.2 (Relation.TransGen.tail' within under)

section
variable (linked : doc.Linked) (present : doc.Holds id)
include linked present

private theorem Linked.moved_detach : Moved doc (doc.detach id) id none := by
  have removed := linked.removed_detach id
  refine .of_childIds linked.wellFormed (linked.detach id).wellFormed present removed.kind removed.parent
    (fun other _ => linked.childIds_detach id other) nofun

private theorem Linked.moved_appendChild {parent : NodeId} (held : doc.Holds parent) (movable : doc.Movable id parent) :
    Moved doc (doc.appendChild parent id) id (some parent) := by
  refine (linked.placed_detached held present movable.1.symm).moved linked ((linked.detach id).gap_end parent)
    (linked.appendChild held present movable) present fun upper same within => ?_
  cases same
  exact (within_iff.mp within).elim (fun same => movable.1 same.symm) movable.2

section
variable {sibling : NodeId} (held : doc.Holds sibling) (movable : doc.Movable id sibling)
include held movable

private theorem Linked.placed_before :
    Placed (doc.detach id) (doc.insertBefore sibling id) (doc.parent? sibling) ((doc.detach id).previous? sibling)
      (some sibling) id ∧
    (doc.detach id).Gap (doc.parent? sibling) ((doc.detach id).previous? sibling) (some sibling) := by
  have removed := linked.removed_detach id
  have detached := removed.linked linked
  have same : (doc.detach id).parent? sibling = doc.parent? sibling := by rw [removed.parent, if_neg movable.1.symm]
  rw [← same]
  exact ⟨placed_insertBefore rfl detached removed.alone ((removed.holds id).mpr present)
    ((removed.holds sibling).mpr held) movable.1.symm, detached.gap_before sibling⟩

private theorem Linked.placed_behind :
    Placed (doc.detach id) (doc.insertAfter sibling id) (doc.parent? sibling) (some sibling)
      ((doc.detach id).next? sibling) id ∧
    (doc.detach id).Gap (doc.parent? sibling) (some sibling) ((doc.detach id).next? sibling) := by
  have removed := linked.removed_detach id
  have detached := removed.linked linked
  have same : (doc.detach id).parent? sibling = doc.parent? sibling := by rw [removed.parent, if_neg movable.1.symm]
  rw [← same]
  exact ⟨placed_insertAfter rfl detached removed.alone ((removed.holds id).mpr present)
    ((removed.holds sibling).mpr held) movable.1.symm, detached.gap_behind sibling⟩

private theorem Linked.moved_insertBefore :
    Moved doc (doc.insertBefore sibling id) id (doc.parent? sibling) ∧
      (doc.insertBefore sibling id).next? id = some sibling ∧
      ∀ parent, doc.parent? sibling = some parent → ∃ front rest,
        (doc.childIds parent).erase id = front ++ sibling :: rest ∧
        (doc.insertBefore sibling id).childIds parent = front ++ id :: sibling :: rest := by
  obtain ⟨placed, gap⟩ := linked.placed_before present held movable
  have linkedAfter := linked.insertBefore held present movable
  refine ⟨placed.moved linked gap linkedAfter present fun upper => movable.notWithin, ?_, fun parent under => ?_⟩
  · rw [placed.next, if_pos rfl]
  · obtain ⟨front, rest, row, moved, _, behind⟩ := placed.exists_row_moved linked gap linkedAfter under
    obtain ⟨rest, rfl⟩ := List.head?_eq_some_iff.mp behind
    exact ⟨front, rest, row, moved⟩

private theorem Linked.moved_insertAfter :
    Moved doc (doc.insertAfter sibling id) id (doc.parent? sibling) ∧
      (doc.insertAfter sibling id).previous? id = some sibling ∧
      ∀ parent, doc.parent? sibling = some parent → ∃ front rest,
        (doc.childIds parent).erase id = front ++ sibling :: rest ∧
        (doc.insertAfter sibling id).childIds parent = front ++ sibling :: id :: rest := by
  obtain ⟨placed, gap⟩ := linked.placed_behind present held movable
  have linkedAfter := linked.insertAfter held present movable
  refine ⟨placed.moved linked gap linkedAfter present fun upper => movable.notWithin, ?_, fun parent under => ?_⟩
  · rw [placed.previous, if_pos rfl]
  · obtain ⟨front, rest, row, moved, ends, _⟩ := placed.exists_row_moved linked gap linkedAfter under
    obtain ⟨front, rfl⟩ := List.getLast?_eq_some_iff.mp ends
    refine ⟨front, rest, ?_, ?_⟩
    · rw [row, List.append_assoc]
      rfl
    · rw [moved, List.append_assoc]
      rfl

end

end

/-- Each edit that moves a node takes it out of the list that has it and puts it into one place of another list: behind
all children of a parent, directly before or behind a sibling, or nowhere. Nothing else changes. -/
theorem WellFormed.childIds_moved (wellFormed : doc.WellFormed) (present : doc.Holds id) :
    (∀ parent, doc.Holds parent → doc.Movable id parent →
      Moved doc (doc.appendChild parent id) id (some parent) ∧
        (doc.appendChild parent id).childIds parent = (doc.childIds parent).erase id ++ [id]) ∧
    (∀ sibling, doc.Holds sibling → doc.Movable id sibling →
      Moved doc (doc.insertBefore sibling id) id (doc.parent? sibling) ∧
        (doc.insertBefore sibling id).next? id = some sibling ∧
        ∀ parent, doc.parent? sibling = some parent → ∃ front rest,
          (doc.childIds parent).erase id = front ++ sibling :: rest ∧
          (doc.insertBefore sibling id).childIds parent = front ++ id :: sibling :: rest) ∧
    (∀ sibling, doc.Holds sibling → doc.Movable id sibling →
      Moved doc (doc.insertAfter sibling id) id (doc.parent? sibling) ∧
        (doc.insertAfter sibling id).previous? id = some sibling ∧
        ∀ parent, doc.parent? sibling = some parent → ∃ front rest,
          (doc.childIds parent).erase id = front ++ sibling :: rest ∧
          (doc.insertAfter sibling id).childIds parent = front ++ sibling :: id :: rest) ∧
    Moved doc (doc.detach id) id none := by
  have linked := wellFormed.linked
  refine ⟨fun parent held movable => ⟨linked.moved_appendChild present held movable, ?_⟩, ?_, ?_, ?_⟩
  · rw [linked.childIds_appendChild held present movable, if_pos rfl]
  · exact fun sibling held movable => linked.moved_insertBefore present held movable
  · exact fun sibling held movable => linked.moved_insertAfter present held movable
  · exact linked.moved_detach present

/-- The second of three children is moved to the end, before and behind its neighbour, and away. -/
theorem childIds_moved_paragraph :
    let doc := ((((empty.appendNew root .paragraph).2.appendNew root .paragraph).2.appendNew ⟨2⟩ (.text "a")).2.appendNew
      root .thematicBreak).2
    doc.WellFormed ∧ doc.Holds ⟨2⟩ ∧ doc.Movable ⟨2⟩ root ∧ doc.Movable ⟨2⟩ ⟨1⟩ ∧
      (Moved doc (doc.appendChild root ⟨2⟩) ⟨2⟩ (some root) ∧ (doc.appendChild root ⟨2⟩).childIds root = [⟨1⟩, ⟨4⟩, ⟨2⟩]) ∧
      (Moved doc (doc.insertBefore ⟨1⟩ ⟨2⟩) ⟨2⟩ (some root) ∧
        (doc.insertBefore ⟨1⟩ ⟨2⟩).childIds root = [⟨2⟩, ⟨1⟩, ⟨4⟩]) ∧
      (Moved doc (doc.insertAfter ⟨1⟩ ⟨2⟩) ⟨2⟩ (some root) ∧ (doc.insertAfter ⟨1⟩ ⟨2⟩).childIds root = [⟨1⟩, ⟨2⟩, ⟨4⟩]) ∧
      (Moved doc (doc.detach ⟨2⟩) ⟨2⟩ none ∧ (doc.detach ⟨2⟩).childIds root = [⟨1⟩, ⟨4⟩]) := by
  intro doc
  have linked : doc.Linked := (((Linked.empty.appendNew (by decide) _).appendNew (by decide) _).appendNew (by decide)
    _).appendNew (by decide) _
  have wellFormed := linked.wellFormed
  have present : doc.Holds ⟨2⟩ := by decide
  have top : doc.parent? root = none := by decide
  have toRoot : doc.Movable ⟨2⟩ root := ⟨by decide, not_ancestor_of_top top⟩
  have beside : doc.Movable ⟨2⟩ ⟨1⟩ := toRoot.child (by decide) (by decide)
  obtain ⟨last, first, second, away⟩ := wellFormed.childIds_moved present
  have leading := first ⟨1⟩ (by decide) beside
  have trailing := second ⟨1⟩ (by decide) beside
  exact ⟨wellFormed, present, toRoot, beside, ⟨(last root (by decide) toRoot).1, by decide⟩, ⟨leading.1, by decide⟩,
    ⟨trailing.1, by decide⟩, ⟨away, by decide⟩⟩

/-! A node that is prepended is put before the first child. Whether it is itself that child is not asked. -/

private theorem chain_congr {fuel : Nat} {start : Option NodeId}
    (same : ∀ other ∈ doc.chain fuel start, after.next? other = doc.next? other) :
    after.chain fuel start = doc.chain fuel start := by
  induction fuel generalizing start with
  | zero => rfl
  | succ fuel ih =>
    cases start with
    | none => rfl
    | some other =>
      rw [chain, List.forall_mem_cons] at same
      rw [chain, chain, same.1, ih same.2]

/-- The links of a first child that is put before itself: its row has closed up without it, and it follows itself. -/
theorem Linked.lost_first (linked : doc.Linked) {parent child : NodeId} (first : doc.firstChild? parent = some child) :
    (doc.prependChild parent child).childIds parent = (doc.childIds parent).erase child ∧
      (doc.prependChild parent child).parent? child = none ∧
      (doc.prependChild parent child).next? child = some child := by
  have removed := linked.removed_detach child
  have alone := removed.alone
  have edited : doc.prependChild parent child = (((doc.detach child).modify child fun node =>
      { node with parent := none, previous := none, next := some child }).modify child
      fun node => { node with previous := some child }) := by
    unfold Document.prependChild Document.insertBefore
    simp only [first, alone.parent, alone.previous, linkForward]
  have present := (removed.holds child).mpr (linked.holds_child first)
  obtain ⟨node, found⟩ := holds_iff.mp present
  have kept : ∀ other, other ≠ child → (doc.prependChild parent child).node? other = (doc.detach child).node? other := by
    intro other different
    rw [edited, node?_modify, if_neg different, node?_modify, if_neg different]
  have here : (doc.prependChild parent child).node? child =
      some { node with parent := none, previous := some child, next := some child } := by
    rw [edited, node?_modify, if_pos rfl, node?_modify, if_pos rfl, found]
    rfl
  have different : parent ≠ child := by
    rintro rfl
    exact linked.noOwnAncestor parent (.single ((linked.first parent parent).mp first).1)
  refine ⟨?_, ?_, ?_⟩
  · rw [← linked.childIds_detach, childIds, childIds, firstChild?, firstChild?, kept parent different]
    have size : (doc.prependChild parent child).size = (doc.detach child).size := by
      rw [edited, size_modify, size_modify]
    rw [size]
    refine chain_congr fun other member => ?_
    have notChild : other ≠ child := by
      rintro rfl
      exact (removed.linked linked).notMem_childIds alone.parent parent member
    rw [next?, next?, kept other notChild]
  · rw [parent?, here]
    rfl
  · rw [next?, here]
    rfl

private theorem Linked.moved_prependChild (linked : doc.Linked) {parent child : NodeId} (held : doc.Holds parent)
    (present : doc.Holds child) (movable : doc.Movable child parent) (notFirst : doc.firstChild? parent ≠ some child) :
    Moved doc (doc.prependChild parent child) child (some parent) ∧
      (doc.prependChild parent child).childIds parent = child :: (doc.childIds parent).erase child := by
  unfold Document.prependChild
  cases leading : doc.firstChild? parent with
  | none =>
    have childless : doc.childIds parent = [] := List.head?_eq_none_iff.mp ((linked.head?_childIds parent).trans leading)
    refine ⟨linked.moved_appendChild present held movable, ?_⟩
    rw [linked.childIds_appendChild held present movable, if_pos rfl, childless]
    rfl
  | some first =>
    have under := ((linked.first parent first).mp leading).1
    have different : child ≠ first := fun same => notFirst (same ▸ leading)
    obtain ⟨moved, _, places⟩ :=
      linked.moved_insertBefore present (linked.holds_child leading) (movable.child under different)
    obtain ⟨front, rest, row, placed⟩ := places parent under
    rw [under] at moved
    -- The first child is still the first one when the other has left, and no child is in the list twice.
    obtain ⟨later, children⟩ := List.head?_eq_some_iff.mp ((linked.head?_childIds parent).trans leading)
    have leads : (doc.childIds parent).erase child = first :: later.erase child := by
      rw [children, List.erase_cons_tail (by simpa using different.symm)]
    have distinct : ((doc.childIds parent).erase child).Nodup := (linked.nodup_childIds parent).erase child
    have nothingBefore : front = [] := by
      cases front with
      | nil => rfl
      | cons other front =>
        rw [row] at leads distinct
        have same : other = first := (List.cons.inj leads).1
        simp [same] at distinct
    refine ⟨moved, ?_⟩
    rw [placed, row, nothingBefore]
    rfl

/-- A prepended node comes before all other children, and nothing else changes, if and only if it is not the first
child already. If it is, it is lost. -/
theorem WellFormed.prependChild_iff (wellFormed : doc.WellFormed) {parent child : NodeId} (held : doc.Holds parent)
    (present : doc.Holds child) (movable : doc.Movable child parent) :
    (Moved doc (doc.prependChild parent child) child (some parent) ∧
        (doc.prependChild parent child).childIds parent = child :: (doc.childIds parent).erase child ↔
      doc.firstChild? parent ≠ some child) ∧
    (doc.firstChild? parent = some child →
      (doc.prependChild parent child).childIds parent = (doc.childIds parent).erase child ∧
        (doc.prependChild parent child).parent? child = none ∧
        (doc.prependChild parent child).next? child = some child) := by
  have linked := wellFormed.linked
  refine ⟨⟨fun both first => ?_, linked.moved_prependChild held present movable⟩, linked.lost_first⟩
  have follows := (linked.lost_first first).2.2
  exact both.1.wellFormed.noSiblingLoop child (.single follows)

/-- The last of three children becomes the first one. -/
theorem prependChild_iff_last :
    let doc := (((empty.appendNew root .paragraph).2.appendNew root .blockQuote).2.appendNew root .thematicBreak).2
    doc.WellFormed ∧ doc.Holds root ∧ doc.Holds ⟨3⟩ ∧ doc.Movable ⟨3⟩ root ∧ doc.firstChild? root ≠ some ⟨3⟩ ∧
      Moved doc (doc.prependChild root ⟨3⟩) ⟨3⟩ (some root) ∧
      (doc.prependChild root ⟨3⟩).childIds root = [⟨3⟩, ⟨1⟩, ⟨2⟩] := by
  intro doc
  have linked : doc.Linked := ((Linked.empty.appendNew (by decide) _).appendNew (by decide) _).appendNew (by decide) _
  have held : doc.Holds root := by decide
  have present : doc.Holds ⟨3⟩ := by decide
  have movable : doc.Movable ⟨3⟩ root := ⟨by decide, not_ancestor_of_top (by decide)⟩
  have notFirst : doc.firstChild? root ≠ some ⟨3⟩ := by decide
  have placed := (linked.wellFormed.prependChild_iff held present movable).1.mpr notFirst
  exact ⟨linked.wellFormed, held, present, movable, notFirst, placed.1, by decide⟩

/-- The only child of the root is to come before all children of the root, and is gone. -/
theorem not_prependChild_first :
    let doc := (empty.appendNew root .paragraph).2
    doc.WellFormed ∧ doc.Holds root ∧ doc.Holds ⟨1⟩ ∧ doc.Movable ⟨1⟩ root ∧
      ¬ (doc.prependChild root ⟨1⟩).WellFormed ∧
      (doc.prependChild root ⟨1⟩).childIds root ≠ ⟨1⟩ :: (doc.childIds root).erase ⟨1⟩ := by
  intro doc
  have linked : doc.Linked := Linked.empty.appendNew (by decide) _
  refine ⟨linked.wellFormed, by decide, by decide, ⟨by decide, not_ancestor_of_top (by decide)⟩, fun wellFormed => ?_,
    by decide⟩
  exact wellFormed.noSiblingLoop ⟨1⟩ (.single (by decide : (doc.prependChild root ⟨1⟩).next? ⟨1⟩ = some ⟨1⟩))

end MarkdownHtml.Document
