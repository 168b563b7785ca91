import MarkdownHtml.Proofs.GrammarPlacement

/-! What edits do to the lists of children. A node that is detached leaves the one list that had it, a node that
is appended comes to the end of a list, and every other list stays as it was. -/

namespace MarkdownHtml.Document

variable {doc after : Document} {id : NodeId}

private theorem row_unique {left right : List NodeId} (chainLeft : left.IsChain doc.Follows)
    (chainRight : right.IsChain doc.Follows) (heads : left.head? = right.head?)
    (endLeft : ∀ last, left.getLast? = some last → doc.next? last = none)
    (endRight : ∀ last, right.getLast? = some last → doc.next? last = none) : left = right := by
  -- Links are followed in one way only, so two rows that begin with the same node are the same.
  induction left generalizing right with
  | nil => exact (List.head?_eq_none_iff.mp heads.symm).symm
  | cons a left ih =>
    obtain ⟨right, rfl⟩ := List.head?_eq_some_iff.mp heads.symm
    rw [List.isChain_cons] at chainLeft chainRight
    have following : ∀ {rest : List NodeId}, (∀ b ∈ rest.head?, doc.Follows a b) →
        (∀ last, (a :: rest).getLast? = some last → doc.next? last = none) → rest.head? = doc.next? a := by
      intro rest steps ends
      cases rest with
      | nil => exact (ends a rfl).symm
      | cons b rest => exact (steps b rfl).symm
    have heads := (following chainLeft.1 endLeft).trans (following chainRight.1 endRight).symm
    have later : ∀ {rest : List NodeId}, (∀ last, (a :: rest).getLast? = some last → doc.next? last = none) →
        ∀ last, rest.getLast? = some last → doc.next? last = none := by
      intro rest ends last found
      exact ends last (by rw [List.getLast?_cons, found]; rfl)
    rw [ih chainLeft.2 chainRight.2 heads (later endLeft) (later endRight)]

private theorem Linked.childIds_eq (linked : doc.Linked) {parent : NodeId} {ids : List NodeId}
    (chain : ids.IsChain doc.Follows) (first : ids.head? = doc.firstChild? parent)
    (ends : ∀ last, ids.getLast? = some last → doc.next? last = none) : doc.childIds parent = ids :=
  row_unique (linked.row_childIds parent).linked chain ((linked.head?_childIds parent).trans first.symm)
    (linked.row_childIds parent).last ends

private theorem Removed.follows (removed : Removed doc after id) (linked : doc.Linked) {first second : NodeId}
    (left : first ≠ id) (right : second ≠ id) (step : doc.Follows first second) : after.Follows first second := by
  rw [Follows, removed.next, if_neg left, if_neg]
  · exact step
  · intro before
    have next : doc.next? first = some id := (linked.inverse first id).mpr before
    rw [Follows, next] at step
    exact right (Option.some.inj step).symm

private theorem Removed.childIds_of_mem (removed : Removed doc after id) (linked : doc.Linked) {parent : NodeId}
    {front rest : List NodeId} (split : doc.childIds parent = front ++ id :: rest) :
    after.childIds parent = front ++ rest := by
  have row := linked.row_childIds parent
  have distinct := linked.nodup_childIds parent
  have under := linked.parent_of_mem_childIds (show id ∈ doc.childIds parent by simp [split])
  have head := linked.head?_childIds parent
  rw [split] at distinct head
  obtain ⟨chain, first, last⟩ := row
  rw [split] at chain first last
  obtain ⟨outside, _⟩ := List.nodup_cons.mp (List.nodup_middle.mp distinct)
  have notFront : ∀ a ∈ front, a ≠ id := fun a member same => outside (by simp [← same, member])
  have notRest : ∀ a ∈ rest, a ≠ id := fun a member same => outside (by simp [← same, member])
  obtain ⟨chainFront, chainRest, junction⟩ := List.isChain_append.mp chain
  obtain ⟨leads, chainRest⟩ := List.isChain_cons.mp chainRest
  have behind : doc.next? id = rest.head? := by
    cases rest with
    | nil => exact last id (by simp)
    | cons b rest => exact leads b rfl
  have before : ∀ a ∈ front.getLast?, doc.previous? id = some a :=
    fun a member => (linked.inverse a id).mp (junction a member id rfl)
  refine (removed.linked linked).childIds_eq (List.isChain_append.mpr ⟨?_, ?_, ?_⟩) ?_ ?_
  · exact chainFront.imp_of_mem_imp fun a b inA inB => removed.follows linked (notFront a inA) (notFront b inB)
  · exact chainRest.imp_of_mem_imp fun a b inA inB => removed.follows linked (notRest a inA) (notRest b inB)
  · intro a memberA b memberB
    rw [Follows, removed.next, if_neg (notFront a (List.mem_of_getLast? memberA)), if_pos (before a memberA), behind]
    exact memberB
  · rw [removed.first]
    cases front with
    | nil => rw [if_pos ⟨first id rfl, under⟩, behind]; rfl
    | cons a front =>
      rw [if_neg]
      · exact head
      · rintro ⟨leading, _⟩
        obtain ⟨b, found⟩ := Option.isSome_iff_exists.mp (List.getLast?_isSome.mpr (List.cons_ne_nil a front))
        rw [before b found] at leading
        cases leading
  · intro b found
    cases rest with
    | nil =>
      rw [List.append_nil] at found
      rw [removed.next, if_neg (notFront b (List.mem_of_getLast? found)), if_pos (before b found), behind]
      rfl
    | cons c rest =>
      rw [List.getLast?_append_of_ne_nil _ (List.cons_ne_nil c rest)] at found
      have ended := last b (by
        rw [List.getLast?_append_of_ne_nil _ (List.cons_ne_nil id (c :: rest)), List.getLast?_cons_cons, found])
      have other := notRest b (List.mem_of_getLast? found)
      rw [removed.next, if_neg other]
      split
      next previous =>
        rw [(linked.inverse b id).mpr previous] at ended
        cases ended
      · exact ended

private theorem Removed.childIds_of_notMem (removed : Removed doc after id) (linked : doc.Linked) {parent : NodeId}
    (outside : id ∉ doc.childIds parent) : after.childIds parent = doc.childIds parent := by
  obtain ⟨chain, first, last⟩ := linked.row_childIds parent
  have other : ∀ a ∈ doc.childIds parent, a ≠ id := fun a member same => outside (same ▸ member)
  refine (removed.linked linked).childIds_eq ?_ ?_ ?_
  · exact chain.imp_of_mem_imp fun a b inA inB => removed.follows linked (other a inA) (other b inB)
  · rw [removed.first, if_neg fun both => outside (linked.mem_childIds.mpr both.2), linked.head?_childIds]
  · intro b found
    have ended := last b found
    rw [removed.next, if_neg (other b (List.mem_of_getLast? found))]
    split
    next previous =>
      rw [(linked.inverse b id).mpr previous] at ended
      cases ended
    · exact ended

theorem Linked.childIds_detach (linked : doc.Linked) (id parent : NodeId) :
    (doc.detach id).childIds parent = (doc.childIds parent).erase id := by
  have removed := linked.removed_detach id
  by_cases member : id ∈ doc.childIds parent
  · obtain ⟨front, rest, split⟩ := List.append_of_mem member
    have distinct := linked.nodup_childIds parent
    rw [split] at distinct
    have outside : id ∉ front := fun inside =>
      (List.nodup_cons.mp (List.nodup_middle.mp distinct)).1 (List.mem_append_left _ inside)
    rw [removed.childIds_of_mem linked split, split, List.erase_append_right _ outside, List.erase_cons_head]
  · rw [removed.childIds_of_notMem linked member, List.erase_of_not_mem member]

section
variable {above left right : Option NodeId} (placed : Placed doc after above left right id)
  (gap : doc.Gap above left right) (alone : doc.Alone id)
include placed gap alone

private theorem Placed.removed : Removed after doc id := by
  obtain ⟨behind, before, first, last⟩ := gap
  obtain ⟨orphan, leading, trailing⟩ := alone
  constructor <;> intro other
  · simp only [placed.parent]
    grind
  · simp only [placed.previous, placed.next]
    grind
  · simp only [placed.previous, placed.next]
    grind
  · simp only [placed.first, placed.previous, placed.parent, placed.next]
    grind
  · simp only [placed.last, placed.previous, placed.parent, placed.next]
    grind
  · exact (placed.kind other).symm

variable (linkedAfter : after.Linked)
include linkedAfter

theorem Placed.childIds_elsewhere {other : NodeId} (elsewhere : above ≠ some other) :
    after.childIds other = doc.childIds other := by
  refine ((placed.removed gap alone).childIds_of_notMem linkedAfter fun member => elsewhere ?_).symm
  have under := linkedAfter.parent_of_mem_childIds member
  rwa [placed.parent, if_pos rfl] at under

/-- A node in a gap stands between the two parts that the gap has parted the row into. -/
theorem Placed.exists_row {parent : NodeId} (here : above = some parent) :
    ∃ front rest, doc.childIds parent = front ++ rest ∧ after.childIds parent = front ++ id :: rest ∧
      front.getLast? = left ∧ rest.head? = right := by
  have member : id ∈ after.childIds parent := linkedAfter.mem_childIds.mpr (by rw [placed.parent, if_pos rfl, here])
  obtain ⟨front, rest, split⟩ := List.append_of_mem member
  obtain ⟨before, behind⟩ := linkedAfter.neighbours split
  refine ⟨front, rest, (placed.removed gap alone).childIds_of_mem linkedAfter split, split, ?_, ?_⟩
  · rw [← before, placed.previous, if_pos rfl]
  · rw [← behind, placed.next, if_pos rfl]

end

private theorem Placed.childIds {parent : NodeId}
    (placed : Placed doc after (some parent) (doc.lastChild? parent) none id)
    (linked : doc.Linked) (linkedAfter : after.Linked) (alone : doc.Alone id) (other : NodeId) :
    after.childIds other = if other = parent then doc.childIds parent ++ [id] else doc.childIds other := by
  have gap := linked.gap_end parent
  split
  next same =>
    subst same
    obtain ⟨front, rest, row, moved, _, ends⟩ := placed.exists_row gap alone linkedAfter rfl
    rw [moved, row, List.head?_eq_none_iff.mp ends, List.append_nil]
  next different =>
    exact placed.childIds_elsewhere gap alone linkedAfter fun same => different (Option.some.inj same).symm

theorem Linked.childIds_appendChild (linked : doc.Linked) {parent child : NodeId} (held : doc.Holds parent)
    (present : doc.Holds child) (movable : doc.Movable child parent) (other : NodeId) :
    (doc.appendChild parent child).childIds other =
      if other = parent then (doc.childIds parent).erase child ++ [child] else (doc.childIds other).erase child := by
  have removed := linked.removed_detach child
  rw [(linked.placed_detached held present movable.1.symm).childIds (removed.linked linked)
    (linked.appendChild held present movable) removed.alone, linked.childIds_detach, linked.childIds_detach]

theorem Linked.holds_of_mem_childIds (linked : doc.Linked) {parent child : NodeId}
    (member : child ∈ doc.childIds parent) : doc.Holds child :=
  holds_of_parent (linked.parent_of_mem_childIds member)

theorem childIds_of_sameLinks (same : SameLinks doc after) (linked : doc.Linked) (parent : NodeId) :
    after.childIds parent = doc.childIds parent := by
  obtain ⟨chain, _, last⟩ := linked.row_childIds parent
  refine (same.linked linked).childIds_eq ?_ ?_ ?_
  · exact chain.imp fun a b step => (same.next a).trans step
  · rw [linked.head?_childIds, same.first]
  · intro b found
    rw [same.next]
    exact last b found

theorem holds_appendNew_iff {parent : NodeId} {kind : NodeKind} :
    (doc.appendNew parent kind).2.Holds id ↔ doc.Holds id ∨ id = ⟨doc.size⟩ := by
  obtain ⟨index⟩ := id
  rw [Holds, size_appendNew, Holds, NodeId.mk.injEq]
  exact Nat.lt_succ_iff_lt_or_eq

theorem Linked.childIds_appendNew (linked : doc.Linked) {parent : NodeId} (held : doc.Holds parent) (kind : NodeKind)
    (other : NodeId) :
    (doc.appendNew parent kind).2.childIds other =
      if other = parent then doc.childIds parent ++ [⟨doc.size⟩] else doc.childIds other := by
  have same : SameLinks doc (doc.alloc kind).2 := sameLinks_alloc kind
  have fresh : ∀ place, ⟨doc.size⟩ ∉ doc.childIds place := fun place member =>
    not_holds_new (linked.holds_of_mem_childIds member)
  change ((doc.alloc kind).2.appendChild parent ⟨doc.size⟩).childIds other = _
  rw [(linked.alloc kind).childIds_appendChild (holds_alloc held) (holds_alloc_new kind) (linked.movable_new held kind)]
  simp only [childIds_of_sameLinks same linked, List.erase_of_not_mem (fresh _)]

end MarkdownHtml.Document
