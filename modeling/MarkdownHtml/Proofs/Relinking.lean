import MarkdownHtml.Proofs.ChildLists

/-! Every edit takes a node out of its row, or puts a lone node into a gap, or does first the one and
then the other. For both it is said which links change, and shown that the links still agree. -/

namespace MarkdownHtml.Document

variable {doc after : Document} {id : NodeId} {above left right : Option NodeId}

/-- What is left when a node has been taken out of its row: its neighbours have closed up. -/
structure Removed (doc after : Document) (id : NodeId) : Prop where
  parent : ∀ other, after.parent? other = if other = id then none else doc.parent? other
  previous : ∀ other, after.previous? other =
    if other = id then none else if doc.next? id = some other then doc.previous? id else doc.previous? other
  next : ∀ other, after.next? other =
    if other = id then none else if doc.previous? id = some other then doc.next? id else doc.next? other
  first : ∀ other, after.firstChild? other =
    if doc.previous? id = none ∧ doc.parent? id = some other then doc.next? id else doc.firstChild? other
  last : ∀ other, after.lastChild? other =
    if doc.next? id = none ∧ doc.parent? id = some other then doc.previous? id else doc.lastChild? other
  kind : ∀ other, after.kind? other = doc.kind? other

/-- A place in a row of siblings, between two of them or at one of its ends. -/
structure Gap (doc : Document) (above left right : Option NodeId) : Prop where
  behind : ∀ id, left = some id → doc.next? id = right ∧ doc.parent? id = above
  before : ∀ id, right = some id → doc.previous? id = left ∧ doc.parent? id = above
  first : ∀ id, left = none → above = some id → doc.firstChild? id = right
  last : ∀ id, right = none → above = some id → doc.lastChild? id = left

/-- A node without parent and siblings. -/
structure Alone (doc : Document) (id : NodeId) : Prop where
  parent : doc.parent? id = none
  previous : doc.previous? id = none
  next : doc.next? id = none

/-- A gap that a node may go into: it is neither next to the node nor below it. -/
structure Apart (doc : Document) (above left right : Option NodeId) (id : NodeId) : Prop where
  notLeft : left ≠ some id
  notRight : right ≠ some id
  notAbove : above ≠ some id
  notBelow : ∀ upper, above = some upper → ¬ doc.Ancestor id upper

/-- What has become of a gap that a node was put into. -/
structure Placed (doc after : Document) (above left right : Option NodeId) (id : NodeId) : Prop where
  parent : ∀ other, after.parent? other = if other = id then above else doc.parent? other
  previous : ∀ other, after.previous? other =
    if other = id then left else if right = some other then some id else doc.previous? other
  next : ∀ other, after.next? other =
    if other = id then right else if left = some other then some id else doc.next? other
  first : ∀ other, after.firstChild? other =
    if left = none ∧ above = some other then some id else doc.firstChild? other
  last : ∀ other, after.lastChild? other =
    if right = none ∧ above = some other then some id else doc.lastChild? other
  kind : ∀ other, after.kind? other = doc.kind? other

namespace Linked

theorem leads (linked : doc.Linked) {parent id : NodeId} (child : doc.parent? id = some parent)
    (leading : doc.previous? id = none) : doc.firstChild? parent = some id :=
  (linked.first parent id).mpr ⟨child, leading⟩

theorem trails (linked : doc.Linked) {parent id : NodeId} (child : doc.parent? id = some parent)
    (trailing : doc.next? id = none) : doc.lastChild? parent = some id :=
  (linked.last parent id).mpr ⟨child, trailing⟩

end Linked

theorem Alone.unseen (alone : doc.Alone id) (linked : doc.Linked) (other : NodeId) :
    doc.previous? other ≠ some id ∧ doc.next? other ≠ some id ∧ doc.lastChild? other ≠ some id := by
  refine ⟨fun found => ?_, fun found => ?_, fun found => ?_⟩
  · have step := (linked.inverse id other).mpr found
    rw [alone.next] at step
    cases step
  · have step := (linked.inverse other id).mp found
    rw [alone.previous] at step
    cases step
  · have under := ((linked.last other id).mp found).1
    rw [alone.parent] at under
    cases under

theorem Removed.holds (removed : Removed doc after id) (other : NodeId) : after.Holds other ↔ doc.Holds other := by
  rw [holds_iff_kind, holds_iff_kind, removed.kind]

theorem Removed.alone (removed : Removed doc after id) : after.Alone id where
  parent := by simp [removed.parent]
  previous := by simp [removed.previous]
  next := by simp [removed.next]

theorem Removed.linked (removed : Removed doc after id) (linked : doc.Linked) : after.Linked := by
  have leads := @linked.leads
  have trails := @linked.trails
  obtain ⟨inverse, sameParent, first, last, ⟨place, grows⟩, ⟨height, rises⟩⟩ := linked
  constructor
  · intro first second
    simp only [removed.next, removed.previous]
    grind
  · intro first second
    simp only [removed.next, removed.parent]
    grind
  · intro parent child
    simp only [removed.first, removed.parent, removed.previous]
    grind
  · intro parent child
    simp only [removed.last, removed.parent, removed.next]
    grind
  · refine ⟨place, fun first second => ?_⟩
    simp only [removed.next]
    grind
  · refine ⟨height, fun child parent => ?_⟩
    simp only [removed.parent]
    grind

theorem Removed.isParent (removed : Removed doc after id) {parent child : NodeId}
    (found : after.IsParent parent child) : doc.IsParent parent child := by
  rw [IsParent, removed.parent] at found
  split at found
  · cases found
  · exact found

theorem Removed.ancestor (removed : Removed doc after id) {upper lower : NodeId}
    (found : after.Ancestor upper lower) : doc.Ancestor upper lower :=
  Relation.TransGen.mono (fun _ _ => removed.isParent) _ _ found

private theorem Placed.position (placed : Placed doc after above left right id) (linked : doc.Linked)
    (gap : doc.Gap above left right) (alone : doc.Alone id) (apart : doc.Apart above left right id) :
    ∃ rank : NodeId → Nat, ∀ first second, after.next? first = some second → rank first < rank second := by
  obtain ⟨rank, grows⟩ := linked.position
  let place := right.elim (left.elim 0 fun leading => 2 * rank leading + 3) fun following => 2 * rank following + 1
  refine ⟨fun other => if other = id then place else 2 * rank other + 2, fun first second => ?_⟩
  have inverse := linked.inverse
  obtain ⟨behind, before, _, _⟩ := gap
  obtain ⟨orphan, leading, trailing⟩ := alone
  have notLeft := apart.notLeft
  have notRight := apart.notRight
  simp only [placed.next]
  cases right <;> cases left <;> simp only [place, Option.elim] <;> grind

private theorem Placed.depth (placed : Placed doc after above left right id) (linked : doc.Linked)
    (apart : doc.Apart above left right id) :
    ∃ rank : NodeId → Nat, ∀ child parent, after.parent? child = some parent → rank parent < rank child := by
  -- The node and all below it are lifted above their new ancestors, which are not among them.
  classical
  obtain ⟨rank, rises⟩ := linked.depth
  let below := fun other => Relation.ReflTransGen doc.IsParent id other
  let lift := above.elim 0 fun upper => rank upper + 1
  refine ⟨fun other => if below other then rank other + lift else rank other, fun child parent found => ?_⟩
  rw [placed.parent] at found
  split at found
  next same =>
    subst same found
    have outside : ¬ below parent := by
      intro inside
      rcases Relation.reflTransGen_iff_eq_or_transGen.mp inside with same | inside
      · exact apart.notAbove (congrArg some same)
      · exact apart.notBelow parent rfl inside
    have inside : below child := .refl
    simp only [outside, inside, lift, Option.elim, if_true, if_false]
    omega
  next other =>
    have less := rises child parent found
    have same : below child ↔ below parent := by
      constructor
      · intro inside
        rcases Relation.ReflTransGen.cases_tail inside with same | ⟨upper, inside, step⟩
        · exact absurd same other
        · have equal : some upper = some parent := step.symm.trans found
          cases equal
          exact inside
      · exact fun inside => .tail inside found
    by_cases inside : below parent <;> simp [inside, same, less]

theorem Placed.linked (placed : Placed doc after above left right id) (linked : doc.Linked)
    (gap : doc.Gap above left right) (alone : doc.Alone id) (apart : doc.Apart above left right id) : after.Linked := by
  have position := placed.position linked gap alone apart
  have depth := placed.depth linked apart
  have leads := @linked.leads
  have trails := @linked.trails
  obtain ⟨inverse, sameParent, first, last, _, _⟩ := linked
  obtain ⟨behind, before, lowest, highest⟩ := gap
  obtain ⟨orphan, leading, trailing⟩ := alone
  have notLeft := apart.notLeft
  have notRight := apart.notRight
  constructor
  · intro first second
    simp only [placed.next, placed.previous]
    grind
  · intro first second
    simp only [placed.next, placed.parent]
    grind
  · intro parent child
    simp only [placed.first, placed.parent, placed.previous]
    grind
  · intro parent child
    simp only [placed.last, placed.parent, placed.next]
    grind
  · exact position
  · exact depth

end MarkdownHtml.Document
