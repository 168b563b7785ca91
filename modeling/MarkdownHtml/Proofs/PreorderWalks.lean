import MarkdownHtml.Proofs.EditRuns
import MarkdownHtml.Proofs.Preorder

/-! Walks that nothing bounds. The stackless walk that begins at a node ends by itself, when it is through with the
subtree of the node, and it has then gone through the listing of the subtree. The way up from a node ends where nothing
is above, and leads through all that has the node below it. -/

namespace MarkdownHtml.Document

variable {doc : Document} {top id : NodeId}

/-- Where a walk goes on that is through with the subtree of a node: behind the first node on the way up that has a
sibling behind it. It ends if the top, or a node without a parent, comes before. -/
inductive GoesOn (doc : Document) (top : NodeId) : NodeId → Option NodeId → Prop
  | top : GoesOn doc top top none
  | behind {id next : NodeId} (below : id ≠ top) (step : doc.next? id = some next) : GoesOn doc top id (some next)
  | above {id parent : NodeId} {result : Option NodeId} (below : id ≠ top) (last : doc.next? id = none)
      (under : doc.parent? id = some parent) (later : GoesOn doc top parent result) : GoesOn doc top id result
  | orphan {id : NodeId} (below : id ≠ top) (last : doc.next? id = none) (orphan : doc.parent? id = none) :
      GoesOn doc top id none

/-- A walk that has come to its end, and the nodes that it has met: down to the first child if there is one. -/
inductive Visits (doc : Document) (top : NodeId) : Option NodeId → List NodeId → Prop
  | ended : Visits doc top none []
  | down {id child : NodeId} {ids : List NodeId} (first : doc.firstChild? id = some child)
      (later : Visits doc top (some child) ids) : Visits doc top (some id) (id :: ids)
  | on {id : NodeId} {next : Option NodeId} {ids : List NodeId} (leaf : doc.firstChild? id = none)
      (goesOn : doc.GoesOn top id next) (later : Visits doc top next ids) : Visits doc top (some id) (id :: ids)

/-- The way up from a node to its end. -/
inductive Ascends (doc : Document) : Option NodeId → List NodeId → Prop
  | ended : Ascends doc none []
  | up {id : NodeId} {ids : List NodeId} (later : Ascends doc (doc.parent? id) ids) : Ascends doc (some id) (id :: ids)

@[simp] theorem walk_none (fuel : Nat) : doc.walk top fuel none = [] := by cases fuel <;> rfl

@[simp] theorem ancestorsFrom_none (fuel : Nat) : doc.ancestorsFrom fuel none = [] := by cases fuel <;> rfl

private theorem goesOn_climb {rank : NodeId → Nat}
    (rises : ∀ id parent, doc.parent? id = some parent → rank parent < rank id)
    (fuel : Nat) (enough : rank id < fuel) : doc.GoesOn top id (doc.climb top fuel id) := by
  induction fuel generalizing id with
  | zero => omega
  | succ fuel ih =>
    unfold climb
    split
    next here => exact here ▸ .top
    next below =>
      cases step : doc.next? id with
      | some next => exact .behind below step
      | none =>
        cases under : doc.parent? id with
        | none => exact .orphan below step under
        | some parent =>
          have higher := rises id parent under
          exact .above below step under (ih (by omega))

private theorem GoesOn.holds (linked : doc.Linked) {next : NodeId} (goesOn : doc.GoesOn top id (some next)) :
    doc.Holds next := by
  generalize result : some next = end_ at goesOn
  induction goesOn with
  | top => cases result
  | behind _ step =>
    cases result
    exact linked.holds_of_follows step
  | above _ _ _ _ ih => exact ih result
  | orphan => cases result

private theorem ascends_ancestorsFrom {rank : NodeId → Nat}
    (rises : ∀ id parent, doc.parent? id = some parent → rank parent < rank id) (fuel : Nat) (enough : rank id < fuel) :
    doc.Ascends (some id) (doc.ancestorsFrom fuel (some id)) := by
  induction fuel generalizing id with
  | zero => omega
  | succ fuel ih =>
    refine .up ?_
    cases under : doc.parent? id with
    | none =>
      rw [ancestorsFrom_none]
      exact .ended
    | some parent =>
      have higher := rises id parent under
      exact ih (by omega)

private theorem Ascends.mem_iff {start : Option NodeId} {ids : List NodeId} (ascends : doc.Ascends start ids)
    {upper : NodeId} : upper ∈ ids ↔ ∃ id, start = some id ∧ (upper = id ∨ doc.Ancestor upper id) := by
  induction ascends with
  | ended => simp
  | @up id ids _ ih => 
    simp only [List.mem_cons, ih, ← ancestor_iff, Option.some.injEq, exists_eq_left']

namespace WellFormed

variable (wellFormed : doc.WellFormed)
include wellFormed

private theorem goesOn_behind (held : doc.Holds id) : doc.GoesOn top id (doc.behind top id) := by
  obtain ⟨rank, rises, bound⟩ := wellFormed.exists_depth
  exact goesOn_climb rises doc.size (bound id held)

private theorem visits_walk (fuel : Nat) {start : Option NodeId} (held : ∀ id, start = some id → doc.Holds id)
    (short : (doc.walk top fuel start).length < fuel) : doc.Visits top start (doc.walk top fuel start) := by
  induction fuel generalizing start with
  | zero => omega
  | succ fuel ih =>
    cases start with
    | none => exact .ended
    | some id =>
      have goesOn : doc.GoesOn top id (doc.behind top id) := wellFormed.goesOn_behind (held id rfl)
      simp only [walk, List.length_cons, Nat.succ_lt_succ_iff, successor] at short ⊢
      cases first : doc.firstChild? id with
      | some child =>
        rw [first] at short
        refine .down first (ih (fun _ same => ?_) short)
        cases same
        exact wellFormed.linked.holds_child first
      | none =>
        rw [first] at short
        refine .on first goesOn (ih (fun next same => ?_) short)
        rw [show doc.climb top doc.size id = some next from same] at short
        exact GoesOn.holds wellFormed.linked (same ▸ goesOn)

private theorem visits_subtree (held : doc.Holds top) : doc.Visits top (some top) (doc.subtree top) := by
  have enough := wellFormed.length_subtree_le held
  have walked := wellFormed.walk_subtree top held .refl (doc.size + 1 - (doc.subtree top).length)
  rw [Nat.sub_add_cancel (by omega), behind_top, walk_none, List.append_nil] at walked
  rw [← walked]
  refine wellFormed.visits_walk (doc.size + 1) (fun id same => ?_) (by rw [walked]; omega)
  cases same
  exact held

private theorem ascends_ancestors (id : NodeId) : doc.Ascends (doc.parent? id) (doc.ancestors id) := by
  obtain ⟨rank, rises, bound⟩ := wellFormed.exists_depth
  unfold ancestors
  cases under : doc.parent? id with
  | none =>
    rw [ancestorsFrom_none]
    exact .ended
  | some parent =>
    have higher := rises id parent under
    have enough := bound id (holds_of_parent under)
    exact ascends_ancestorsFrom rises doc.size (by omega)

private theorem mem_ancestors {upper lower : NodeId} : upper ∈ doc.ancestors lower ↔ doc.Ancestor upper lower := by
  rw [(wellFormed.ascends_ancestors lower).mem_iff, ancestor_iff]

/-- The descendants of a node are met by a walk that ends, they are the listing of its subtree, each once, and they are
what has the node on the way up. -/
theorem descendants_preorder (held : doc.Holds top) :
    doc.Visits top (some top) (doc.descendants top) ∧
      doc.descendants top = doc.subtree top ∧ doc.subtree top = top :: (doc.childIds top).flatMap doc.subtree ∧
      (doc.descendants top).Nodup ∧
      ∀ id, doc.Ascends (doc.parent? id) (doc.ancestors id) ∧
        (id ∈ doc.descendants top ↔ id = top ∨ top ∈ doc.ancestors id) := by
  have listed := wellFormed.descendants_eq_subtree held
  refine ⟨?_, listed, wellFormed.subtree_eq held, wellFormed.nodup_descendants held, fun id => ⟨?_, ?_⟩⟩
  · rw [listed]
    exact wellFormed.visits_subtree held
  · exact wellFormed.ascends_ancestors id
  · rw [wellFormed.mem_descendants held, within_iff, wellFormed.mem_ancestors]

end WellFormed

/-- A paragraph that is detached from between two others, with an emphasis and a text below it. -/
theorem descendants_preorder_detached :
    ∃ doc : Document, doc.WellFormed ∧ doc.Holds ⟨2⟩ ∧ doc.parent? ⟨2⟩ = none ∧
      doc.descendants ⟨2⟩ = [⟨2⟩, ⟨3⟩, ⟨5⟩, ⟨4⟩] ∧ doc.Visits ⟨2⟩ (some ⟨2⟩) [⟨2⟩, ⟨3⟩, ⟨5⟩, ⟨4⟩] ∧
      (⟨5⟩ ∈ doc.descendants ⟨2⟩ ↔ (⟨5⟩ : NodeId) = ⟨2⟩ ∨ ⟨2⟩ ∈ doc.ancestors ⟨5⟩) ∧
      (root ∈ doc.descendants ⟨2⟩ ↔ root = ⟨2⟩ ∨ ⟨2⟩ ∈ doc.ancestors root) := by
  let first := (Document.empty.appendNew root .paragraph).2
  let second := (first.appendNew root .paragraph).2
  let third := (second.appendNew ⟨2⟩ .emphasis).2
  let fourth := (third.appendNew ⟨2⟩ (.text "b")).2
  let fifth := (fourth.appendNew ⟨3⟩ (.text "a")).2
  let sixth := (fifth.appendNew root .paragraph).2
  let doc := sixth.detach ⟨2⟩
  have linked : second.Linked := (Linked.empty.appendNew (by decide) _).appendNew (by decide) _
  have below : fifth.Linked := ((linked.appendNew (by decide) _).appendNew (by decide) _).appendNew (by decide) _
  have wellFormed : doc.WellFormed := ((below.appendNew (by decide) _).detach ⟨2⟩).wellFormed
  have listed : doc.descendants ⟨2⟩ = [⟨2⟩, ⟨3⟩, ⟨5⟩, ⟨4⟩] := by decide
  have held : doc.Holds ⟨2⟩ := by decide
  obtain ⟨visits, _, _, _, members⟩ := wellFormed.descendants_preorder held
  exact ⟨doc, wellFormed, held, by decide, listed, listed ▸ visits, (members ⟨5⟩).2, (members root).2⟩

end MarkdownHtml.Document
