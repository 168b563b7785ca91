import MarkdownHtml.Proofs.Links

/-! The list of the children of a node. Where links agree the walk along a row reaches its end before
it runs out of fuel, so the list has every child once and nothing else. -/

namespace MarkdownHtml.Document

variable {doc after : Document}

@[simp] theorem chain_none (fuel : Nat) : doc.chain fuel none = [] := by cases fuel <;> rfl

private theorem head?_chain (fuel : Nat) (start : Option NodeId) : (doc.chain (fuel + 1) start).head? = start := by
  cases start <;> rfl

private theorem isChain_chain (fuel : Nat) (start : Option NodeId) : (doc.chain fuel start).IsChain doc.Follows := by
  induction fuel generalizing start with
  | zero => exact .nil
  | succ fuel ih =>
    cases start with
    | none => exact .nil
    | some id =>
      refine List.isChain_cons.mpr ⟨?_, ih _⟩
      intro next leading
      cases fuel with
      | zero => cases leading
      | succ fuel =>
        rw [head?_chain] at leading
        exact leading

private theorem next_last_chain {rank : NodeId → Nat} (falls : ∀ a b, doc.Follows a b → rank b < rank a) (fuel : Nat)
    (id : NodeId) (enough : rank id < fuel) (last : NodeId)
    (found : (doc.chain fuel (some id)).getLast? = some last) : doc.next? last = none := by
  induction fuel generalizing id with
  | zero => omega
  | succ fuel ih =>
    cases step : doc.next? id with
    | none =>
      simp only [chain, step, chain_none, List.getLast?_singleton, Option.some.injEq] at found
      exact found ▸ step
    | some next =>
      have closer := falls id next step
      obtain ⟨fuel, rfl⟩ : ∃ smaller, fuel = smaller + 1 := ⟨fuel - 1, by omega⟩
      apply ih next (by omega)
      simpa only [chain, step, List.getLast?_cons_cons] using found

namespace Linked

theorem noSiblingLoop (linked : doc.Linked) (id : NodeId) : ¬ Relation.TransGen doc.Follows id id := by
  obtain ⟨rank, grows⟩ := linked.position
  exact acyclic_of_rank grows id

theorem noOwnAncestor (linked : doc.Linked) (id : NodeId) : ¬ doc.Ancestor id id := by
  obtain ⟨rank, grows⟩ := linked.depth
  exact acyclic_of_rank (fun parent child found => grows child parent found) id

theorem holds_of_follows (linked : doc.Linked) {first second : NodeId} (found : doc.Follows first second) :
    doc.Holds second := holds_of_previous ((linked.inverse first second).mp found)

theorem holds_child (linked : doc.Linked) {parent child : NodeId} (found : doc.firstChild? parent = some child) :
    doc.Holds child := holds_of_parent ((linked.first parent child).mp found).1

private theorem parent_of_mem_chain (linked : doc.Linked) {fuel : Nat} {start id : NodeId}
    (member : id ∈ doc.chain fuel (some start)) : doc.parent? id = doc.parent? start := by
  induction fuel generalizing start with
  | zero => cases member
  | succ fuel ih =>
    rcases List.mem_cons.mp member with rfl | member
    · rfl
    · cases step : doc.next? start with
      | none => simp [step] at member
      | some next =>
        rw [step] at member
        exact (ih member).trans (linked.sameParent start next step).symm

theorem head?_childIds (linked : doc.Linked) (parent : NodeId) :
    (doc.childIds parent).head? = doc.firstChild? parent := by
  cases found : doc.firstChild? parent with
  | none => simp [childIds, found]
  | some child =>
    have held : child.index < doc.size := linked.holds_child found
    obtain ⟨fuel, same⟩ : ∃ fuel, doc.size = fuel + 1 := ⟨doc.size - 1, by omega⟩
    rw [childIds, found, same, head?_chain]

theorem next_last_childIds (linked : doc.Linked) (parent last : NodeId)
    (found : (doc.childIds parent).getLast? = some last) : doc.next? last = none := by
  obtain ⟨rank, falls, bound⟩ := exists_rank (fun _ _ => linked.holds_of_follows) linked.noSiblingLoop
  cases leading : doc.firstChild? parent with
  | none => simp [childIds, leading] at found
  | some child =>
    rw [childIds, leading] at found
    exact next_last_chain falls _ child (bound child (linked.holds_child leading)) last found

theorem parent_of_mem_childIds (linked : doc.Linked) {parent id : NodeId} (member : id ∈ doc.childIds parent) :
    doc.parent? id = some parent := by
  cases leading : doc.firstChild? parent with
  | none => simp [childIds, leading] at member
  | some child =>
    rw [childIds, leading] at member
    exact (linked.parent_of_mem_chain member).trans ((linked.first parent child).mp leading).1

/-- A child is either the first one or stands behind another child, which is in the list already. -/
theorem mem_childIds (linked : doc.Linked) {parent id : NodeId} :
    id ∈ doc.childIds parent ↔ doc.parent? id = some parent := by
  refine ⟨linked.parent_of_mem_childIds, ?_⟩
  obtain ⟨rank, grows⟩ := linked.position
  induction place : rank id using Nat.strongRecOn generalizing id with
  | ind n ih =>
    intro child
    cases before : doc.previous? id with
    | none =>
      apply List.mem_of_mem_head?
      rw [linked.head?_childIds]
      exact (linked.first parent id).mpr ⟨child, before⟩
    | some previous =>
      have step := (linked.inverse previous id).mpr before
      have sibling := (linked.sameParent previous id step).trans child
      have member := ih (rank previous) (place ▸ grows previous id step) rfl sibling
      obtain ⟨front, rest, split⟩ := List.append_of_mem member
      cases rest with
      | nil =>
        have ended := linked.next_last_childIds parent previous (by simp [split])
        rw [step] at ended
        cases ended
      | cons next rest =>
        have row : (doc.childIds parent).IsChain doc.Follows := isChain_chain _ _
        rw [split] at row
        have following : doc.next? previous = some next := (List.isChain_append_cons_cons.mp row).2.1
        rw [step] at following
        cases following
        simp [split]

theorem notMem_childIds (linked : doc.Linked) {child : NodeId} (orphan : doc.parent? child = none) (parent : NodeId) :
    child ∉ doc.childIds parent := by
  rw [linked.mem_childIds, orphan]
  exact nofun

/-- A node is in one list of children at most. -/
theorem eq_of_mem_childIds (linked : doc.Linked) {first second child : NodeId} (left : child ∈ doc.childIds first)
    (right : child ∈ doc.childIds second) : first = second :=
  Option.some.inj ((linked.parent_of_mem_childIds left).symm.trans (linked.parent_of_mem_childIds right))

theorem childIds_new (linked : doc.Linked) : doc.childIds ⟨doc.size⟩ = [] := by
  have free : doc.firstChild? ⟨doc.size⟩ = none :=
    Option.eq_none_iff_forall_ne_some.mpr fun child found => not_holds_new (holds_of_firstChild found)
  exact List.head?_eq_none_iff.mp ((linked.head?_childIds _).trans free)

theorem row_childIds (linked : doc.Linked) (parent : NodeId) : doc.Row (doc.childIds parent) where
  linked := isChain_chain _ _
  first id leading := by
    rw [linked.head?_childIds] at leading
    exact ((linked.first parent id).mp leading).2
  last := linked.next_last_childIds parent

theorem nodup_childIds (linked : doc.Linked) (parent : NodeId) : (doc.childIds parent).Nodup := by
  obtain ⟨rank, grows⟩ := linked.position
  have row : (doc.childIds parent).IsChain doc.Follows := isChain_chain _ _
  have sorted : ((doc.childIds parent).map rank).IsChain (· < ·) :=
    (List.isChain_map rank).mpr (row.imp fun a b step => grows a b step)
  exact List.Nodup.of_map rank (List.isChain_iff_pairwise.mp sorted).nodup

theorem getLast?_childIds (linked : doc.Linked) (parent : NodeId) :
    (doc.childIds parent).getLast? = doc.lastChild? parent := by
  cases found : (doc.childIds parent).getLast? with
  | some last =>
    have child := linked.parent_of_mem_childIds (List.mem_of_getLast? found)
    exact ((linked.last parent last).mpr ⟨child, linked.next_last_childIds parent last found⟩).symm
  | none =>
    cases trailing : doc.lastChild? parent with
    | none => rfl
    | some last =>
      have member := linked.mem_childIds.mpr ((linked.last parent last).mp trailing).1
      rw [List.getLast?_eq_none_iff.mp found] at member
      cases member

theorem neighbours (linked : doc.Linked) {parent id : NodeId} {front rest : List NodeId}
    (split : doc.childIds parent = front ++ id :: rest) :
    doc.previous? id = front.getLast? ∧ doc.next? id = rest.head? := by
  obtain ⟨chain, first, last⟩ := linked.row_childIds parent
  rw [split] at chain first last
  obtain ⟨_, behind, junction⟩ := List.isChain_append.mp chain
  constructor
  · rcases List.eq_nil_or_concat front with rfl | ⟨earlier, previous, rfl⟩
    · exact first id rfl
    · rw [List.concat_eq_append, List.getLast?_concat] at junction ⊢
      exact (linked.inverse previous id).mp (junction previous rfl id rfl)
  · cases rest with
    | nil => exact last id (by simp)
    | cons next rest => exact (List.isChain_cons_cons.mp behind).1

theorem neighbours_congr (linked : doc.Linked) (linkedAfter : after.Linked) {parent child : NodeId}
    (same : after.childIds parent = doc.childIds parent) (member : child ∈ doc.childIds parent) :
    after.previous? child = doc.previous? child ∧ after.next? child = doc.next? child := by
  obtain ⟨front, rest, split⟩ := List.append_of_mem member
  obtain ⟨previous, next⟩ := linked.neighbours split
  obtain ⟨previousAfter, nextAfter⟩ := linkedAfter.neighbours (same.trans split)
  exact ⟨previousAfter.trans previous.symm, nextAfter.trans next.symm⟩

theorem wellFormed (linked : doc.Linked) : doc.WellFormed where
  inverse := linked.inverse
  sameParent := linked.sameParent
  noSiblingLoop := linked.noSiblingLoop
  children parent := ⟨doc.childIds parent, linked.row_childIds parent, (linked.head?_childIds parent).symm,
    (linked.getLast?_childIds parent).symm, fun _ => linked.mem_childIds⟩
  firstWithLast parent := by
    rw [← linked.head?_childIds, ← linked.getLast?_childIds]
    cases doc.childIds parent <;> simp
  noOwnAncestor := linked.noOwnAncestor

end Linked

namespace WellFormed

theorem mem_childIds (wellFormed : doc.WellFormed) {parent id : NodeId} :
    id ∈ doc.childIds parent ↔ doc.parent? id = some parent := wellFormed.linked.mem_childIds

/-- What follows for a node from its children holds of every node. -/
theorem child_induction (wellFormed : doc.WellFormed) {property : NodeId → Prop}
    (step : ∀ id, (∀ child ∈ doc.childIds id, property child) → property id) (id : NodeId) : property id := by
  have inside : ∀ parent child, doc.IsParent parent child → doc.Holds child := fun _ _ => holds_of_parent
  obtain ⟨rank, falls, _⟩ := exists_rank inside wellFormed.noOwnAncestor
  induction height : rank id using Nat.strongRecOn generalizing id with
  | ind n ih =>
    apply step
    intro child member
    exact ih (rank child) (height ▸ falls id child (wellFormed.mem_childIds.mp member)) child rfl

/-- What follows for a node from its parent holds of every node. -/
theorem parent_induction (wellFormed : doc.WellFormed) {property : NodeId → Prop}
    (step : ∀ id, (∀ parent, doc.parent? id = some parent → property parent) → property id) (id : NodeId) :
    property id := by
  obtain ⟨rank, rises, _⟩ := wellFormed.exists_depth
  induction depth : rank id using Nat.strongRecOn generalizing id with
  | ind n ih =>
    apply step
    intro parent under
    exact ih (rank parent) (depth ▸ rises id parent under) parent rfl

end WellFormed

end MarkdownHtml.Document
