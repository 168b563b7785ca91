import MarkdownHtml.Proofs.ChildLists
import Mathlib.Data.List.Perm.Subperm

/-! The stackless walk over a subtree and the listing of it by recursion over the lists of children are
the same. So a subtree is a node and everything that has it as an ancestor, each node once. -/

namespace MarkdownHtml.Document

variable {doc : Document}

/-- A node and the subtrees of its children, as far as the height reaches. -/
def listing (doc : Document) : Nat → NodeId → List NodeId
  | 0, _ => []
  | height + 1, id => id :: (doc.childIds id).flatMap (doc.listing height)

def subtree (doc : Document) (id : NodeId) : List NodeId := doc.listing doc.size id

/-- The first node is the second or an ancestor of it. -/
def Within (doc : Document) : NodeId → NodeId → Prop := Relation.ReflTransGen doc.IsParent

/-- The next node behind a whole subtree, in the walk that began at `top`. -/
def behind (doc : Document) (top id : NodeId) : Option NodeId := doc.climb top doc.size id

theorem within_iff {top id : NodeId} : doc.Within top id ↔ id = top ∨ doc.Ancestor top id :=
  Relation.reflTransGen_iff_eq_or_transGen

theorem parent_unique {child first second : NodeId} (left : doc.IsParent first child)
    (right : doc.IsParent second child) : first = second :=
  Option.some.inj (left.symm.trans right)

private theorem Within.comparable {first second id : NodeId} (left : doc.Within first id)
    (right : doc.Within second id) : doc.Within first second ∨ doc.Within second first := by
  have unique : Relator.RightUnique (Function.swap doc.IsParent) := fun _ _ _ => parent_unique
  have up := Relation.ReflTransGen.total_of_right_unique unique
    (Relation.reflTransGen_swap.mpr left) (Relation.reflTransGen_swap.mpr right)
  rcases up with up | up
  · exact .inr (Relation.reflTransGen_swap.mp up)
  · exact .inl (Relation.reflTransGen_swap.mp up)

theorem Within.holds {top id : NodeId} (within : doc.Within top id) (held : doc.Holds top) : doc.Holds id := by
  rcases Relation.ReflTransGen.cases_tail within with rfl | ⟨parent, _, under⟩
  · exact held
  · exact holds_of_parent under

theorem Ancestor.holds {upper lower : NodeId} (above : doc.Ancestor upper lower) : doc.Holds lower := by
  obtain ⟨parent, under, _⟩ := ancestor_iff.mp above
  exact holds_of_parent under

theorem Ancestor.parent {upper lower parent : NodeId} (above : doc.Ancestor upper lower)
    (under : doc.IsParent parent lower) : doc.Within upper parent := by
  obtain ⟨other, step, path⟩ := ancestor_iff.mp above
  cases parent_unique under step
  exact within_iff.mpr (path.imp_left Eq.symm)

/-! What nodes have because of the nodes below them. -/

section
variable {β : Type} [Inhabited β] {step : (NodeId → β) → NodeId → β}

/-- A value that a node has because of the values of other nodes, as far as the height reaches. -/
def valueTo (step : (NodeId → β) → NodeId → β) : Nat → NodeId → β
  | 0 => step default
  | height + 1 => step (valueTo step height)

def value (doc : Document) (step : (NodeId → β) → NodeId → β) : NodeId → β := valueTo step doc.size

def LooksBelow (doc : Document) (step : (NodeId → β) → NodeId → β) : Prop :=
  ∀ first second id, (∀ child ∈ doc.childIds id, first child = second child) → step first id = step second id

private theorem valueTo_congr {rank : NodeId → Nat} (linked : doc.Linked)
    (falls : ∀ parent child, doc.IsParent parent child → rank child < rank parent) (below : doc.LooksBelow step)
    {first second : Nat} {id : NodeId} (left : rank id ≤ first) (right : rank id ≤ second) :
    valueTo step first id = valueTo step second id := by
  induction first generalizing second id with
  | zero =>
    cases second with
    | zero => rfl
    | succ second =>
      -- Nothing is below a node of the least rank.
      apply below
      intro child member
      have lower := falls id child (linked.mem_childIds.mp member)
      omega
  | succ first ih =>
    cases second with
    | zero =>
      apply below
      intro child member
      have lower := falls id child (linked.mem_childIds.mp member)
      omega
    | succ second =>
      apply below
      intro child member
      have lower := falls id child (linked.mem_childIds.mp member)
      exact ih (by omega) (by omega)

/-- From one less than the size of the arena on, more height makes no difference. -/
theorem WellFormed.valueTo_eq (wellFormed : doc.WellFormed) (below : doc.LooksBelow step) {height : Nat}
    (enough : doc.size ≤ height + 1) {id : NodeId} (held : doc.Holds id) :
    valueTo step height id = step (valueTo step height) id := by
  have inside : ∀ parent child, doc.IsParent parent child → doc.Holds child := fun _ _ => holds_of_parent
  obtain ⟨rank, falls, bound⟩ := exists_rank inside wellFormed.noOwnAncestor
  have few := bound id held
  have same : valueTo step height id = valueTo step (height + 1) id :=
    valueTo_congr wellFormed.linked falls below (by omega) (by omega)
  rw [same, valueTo]

theorem WellFormed.value_eq (wellFormed : doc.WellFormed) (below : doc.LooksBelow step) {id : NodeId}
    (held : doc.Holds id) : doc.value step id = step (doc.value step) id :=
  wellFormed.valueTo_eq below (Nat.le_succ _) held

end

private theorem listing_succ (height : Nat) :
    doc.listing (height + 1) = valueTo (fun below id => id :: (doc.childIds id).flatMap below) height := by
  induction height with
  | zero => rfl
  | succ height ih =>
    funext id
    rw [listing, ih]
    rfl

theorem climb_congr {rank : NodeId → Nat} (rises : ∀ id parent, doc.parent? id = some parent → rank parent < rank id)
    (top : NodeId) {first second : Nat} {id : NodeId} (left : rank id < first) (right : rank id < second) :
    doc.climb top first id = doc.climb top second id := by
  induction first generalizing second id with
  | zero => omega
  | succ first ih =>
    obtain ⟨second, rfl⟩ : ∃ smaller, second = smaller + 1 := ⟨second - 1, by omega⟩
    simp only [climb]
    split
    · rfl
    · cases doc.next? id with
      | some next => rfl
      | none =>
        cases under : doc.parent? id with
        | none => rfl
        | some parent =>
          have higher := rises id parent under
          exact ih (by omega) (by omega)

namespace WellFormed

theorem subtree_eq (wellFormed : doc.WellFormed) {id : NodeId} (held : doc.Holds id) :
    doc.subtree id = id :: (doc.childIds id).flatMap doc.subtree := by
  obtain ⟨height, same⟩ : ∃ height, doc.size = height + 1 := ⟨doc.size - 1, by unfold Holds at held; omega⟩
  have listed : doc.subtree = valueTo (fun below id => id :: (doc.childIds id).flatMap below) height := by
    funext id
    rw [subtree, same, listing_succ]
  have below : doc.LooksBelow fun below id => id :: (doc.childIds id).flatMap below := by
    intro first second id alike
    exact congrArg (id :: ·) (List.flatMap_congr alike)
  rw [listed]
  exact wellFormed.valueTo_eq below (by omega) held

private theorem behind_next (top : NodeId) {id next : NodeId} (held : doc.Holds id) (below : id ≠ top)
    (step : doc.next? id = some next) : doc.behind top id = some next := by
  obtain ⟨fuel, same⟩ : ∃ fuel, doc.size = fuel + 1 := ⟨doc.size - 1, by unfold Holds at held; omega⟩
  rw [behind, same, climb, if_neg below, step]

private theorem behind_last (wellFormed : doc.WellFormed) (top : NodeId) {id parent : NodeId} (below : id ≠ top)
    (last : doc.next? id = none) (under : doc.parent? id = some parent) : doc.behind top id = doc.behind top parent := by
  obtain ⟨rank, rises, bound⟩ := wellFormed.exists_depth
  have enough := bound id (holds_of_parent under)
  have higher := rises id parent under
  obtain ⟨fuel, same⟩ : ∃ fuel, doc.size = fuel + 1 := ⟨doc.size - 1, by omega⟩
  have unfolded : doc.behind top id = doc.climb top fuel parent := by
    rw [behind, same, climb, if_neg below, last, under]
  rw [unfolded]
  exact climb_congr rises top (by omega) (by omega)

theorem behind_top (top : NodeId) : doc.behind top top = none := by
  cases size : doc.size <;> simp [behind, size, climb]

theorem ne_top (wellFormed : doc.WellFormed) {top id child : NodeId} (within : doc.Within top id)
    (under : doc.IsParent id child) : child ≠ top := by
  rintro rfl
  exact wellFormed.noOwnAncestor child (Relation.TransGen.tail' within under)

/-- The walk over what is left of a row, if it goes right through each subtree. -/
theorem walk_row (wellFormed : doc.WellFormed) {top id : NodeId} (within : doc.Within top id)
    (through : ∀ child ∈ doc.childIds id, ∀ fuel, doc.walk top (fuel + (doc.subtree child).length) (some child) =
      doc.subtree child ++ doc.walk top fuel (doc.behind top child))
    (before : List NodeId) (child : NodeId) (later : List NodeId) (row : doc.childIds id = before ++ child :: later)
    (fuel : Nat) :
    doc.walk top (fuel + ((child :: later).flatMap doc.subtree).length) (some child) =
      (child :: later).flatMap doc.subtree ++ doc.walk top fuel (doc.behind top id) := by
  have linked := wellFormed.linked
  have under := linked.parent_of_mem_childIds (show child ∈ doc.childIds id by simp [row])
  have below := wellFormed.ne_top within under
  have first := through child (by simp [row]) (fuel + (later.flatMap doc.subtree).length)
  simp only [List.flatMap_cons, List.length_append, List.append_assoc] at first ⊢
  rw [show fuel + ((doc.subtree child).length + (later.flatMap doc.subtree).length) =
    fuel + (later.flatMap doc.subtree).length + (doc.subtree child).length by omega, first]
  congr 1
  induction later generalizing before child with
  | nil =>
    have last := linked.next_last_childIds id child (by simp [row])
    simp [wellFormed.behind_last top below last under]
  | cons next later ih =>
    have siblings := (linked.row_childIds id).linked
    rw [row] at siblings
    have step : doc.next? child = some next := (List.isChain_append_cons_cons.mp siblings).2.1
    have row : doc.childIds id = (before ++ [child]) ++ next :: later := by simp [row]
    have under := linked.parent_of_mem_childIds (show next ∈ doc.childIds id by simp [row])
    have first := through next (by simp [row]) (fuel + (later.flatMap doc.subtree).length)
    rw [behind_next top (holds_of_next step) below step, List.flatMap_cons, List.length_append, List.append_assoc,
      show fuel + ((doc.subtree next).length + (later.flatMap doc.subtree).length) =
        fuel + (later.flatMap doc.subtree).length + (doc.subtree next).length by omega, first]
    congr 1
    exact ih (before ++ [child]) next row under (wellFormed.ne_top within under) first

theorem walk_subtree (wellFormed : doc.WellFormed) (top : NodeId) {id : NodeId} (held : doc.Holds id)
    (within : doc.Within top id) (fuel : Nat) :
    doc.walk top (fuel + (doc.subtree id).length) (some id) =
      doc.subtree id ++ doc.walk top fuel (doc.behind top id) := by
  revert held within fuel
  induction id using wellFormed.child_induction with
  | step id ih =>
    intro held within fuel
    have through : ∀ child ∈ doc.childIds id, ∀ fuel, doc.walk top (fuel + (doc.subtree child).length) (some child) =
        doc.subtree child ++ doc.walk top fuel (doc.behind top child) := by
      intro child member
      have under := wellFormed.mem_childIds.mp member
      exact ih child member (holds_of_parent under) (.tail within under)
    rw [wellFormed.subtree_eq held, List.length_cons, ← Nat.add_assoc, walk, List.cons_append, List.cons.injEq]
    refine ⟨rfl, ?_⟩
    have head := wellFormed.linked.head?_childIds id
    cases row : doc.childIds id with
    | nil =>
      rw [row] at head
      simp [successor, ← head, behind]
    | cons child later =>
      rw [row] at head
      rw [successor, ← head]
      exact wellFormed.walk_row within through [] child later row fuel

theorem mem_subtree (wellFormed : doc.WellFormed) {top : NodeId} (held : doc.Holds top) {id : NodeId} :
    id ∈ doc.subtree top ↔ doc.Within top id := by
  revert held
  induction top using wellFormed.child_induction with
  | step top ih =>
    intro held
    rw [wellFormed.subtree_eq held, List.mem_cons, List.mem_flatMap]
    constructor
    · rintro (rfl | ⟨child, member, inside⟩)
      · exact .refl
      · have under := wellFormed.mem_childIds.mp member
        exact .head under ((ih child member (holds_of_parent under)).mp inside)
    · intro within
      rcases Relation.ReflTransGen.cases_head within with rfl | ⟨child, under, within⟩
      · exact .inl rfl
      · have member := wellFormed.mem_childIds.mpr under
        exact .inr ⟨child, member, (ih child member (holds_of_parent under)).mpr within⟩

theorem eq_of_siblings (wellFormed : doc.WellFormed) {parent first second id : NodeId}
    (left : doc.IsParent parent first) (right : doc.IsParent parent second)
    (inFirst : doc.Within first id) (inSecond : doc.Within second id) : first = second := by
  have apart : ∀ {upper lower}, doc.IsParent parent upper → doc.IsParent parent lower → doc.Within upper lower →
      lower = upper := by
    intro upper lower high low within
    rcases within_iff.mp within with same | above
    · exact same
    · exact absurd (Relation.TransGen.head' high (above.parent low)) (wellFormed.noOwnAncestor parent)
  rcases inFirst.comparable inSecond with within | within
  · exact (apart left right within).symm
  · exact apart right left within

theorem nodup_subtree (wellFormed : doc.WellFormed) {top : NodeId} (held : doc.Holds top) :
    (doc.subtree top).Nodup := by
  revert held
  induction top using wellFormed.child_induction with
  | step top ih =>
    intro held
    have inside : ∀ child ∈ doc.childIds top, ∀ id ∈ doc.subtree child, doc.Within child id := by
      intro child member id found
      exact (wellFormed.mem_subtree (holds_of_parent (wellFormed.mem_childIds.mp member))).mp found
    rw [wellFormed.subtree_eq held, List.nodup_cons, List.nodup_flatMap]
    refine ⟨?_, ?_, ?_⟩
    · intro found
      obtain ⟨child, member, found⟩ := List.mem_flatMap.mp found
      exact wellFormed.noOwnAncestor top
        (Relation.TransGen.head' (wellFormed.mem_childIds.mp member) (inside child member top found))
    · intro child member
      exact ih child member (holds_of_parent (wellFormed.mem_childIds.mp member))
    · refine (wellFormed.linked.nodup_childIds top).pairwise_of_forall_ne ?_
      intro first left second right different id inFirst inSecond
      exact different (wellFormed.eq_of_siblings (wellFormed.mem_childIds.mp left) (wellFormed.mem_childIds.mp right)
        (inside first left id inFirst) (inside second right id inSecond))

theorem length_subtree_le (wellFormed : doc.WellFormed) {top : NodeId} (held : doc.Holds top) :
    (doc.subtree top).length ≤ doc.size := by
  have distinct : ((doc.subtree top).map NodeId.index).Nodup :=
    (wellFormed.nodup_subtree held).map fun a b same => by cases a; cases b; exact congrArg NodeId.mk same
  have bounded : (doc.subtree top).map NodeId.index ⊆ List.range doc.size := by
    intro index member
    obtain ⟨id, found, rfl⟩ := List.mem_map.mp member
    exact List.mem_range.mpr (((wellFormed.mem_subtree held).mp found).holds held)
  simpa using (distinct.subperm bounded).length_le

/-- What is below a node has a smaller subtree. -/
theorem length_subtree_lt (wellFormed : doc.WellFormed) {upper lower : NodeId} (held : doc.Holds upper)
    (above : doc.Ancestor upper lower) : (doc.subtree lower).length < (doc.subtree upper).length := by
  have distinct : (upper :: doc.subtree lower).Nodup := by
    refine List.nodup_cons.mpr ⟨fun inside => ?_, wellFormed.nodup_subtree above.holds⟩
    have within := (wellFormed.mem_subtree above.holds).mp inside
    exact wellFormed.noOwnAncestor upper (Relation.TransGen.trans_left above within)
  have inside : upper :: doc.subtree lower ⊆ doc.subtree upper := by
    intro id member
    rw [wellFormed.mem_subtree held]
    rcases List.mem_cons.mp member with rfl | member
    · exact .refl
    · exact (Relation.TransGen.trans_left above ((wellFormed.mem_subtree above.holds).mp member)).to_reflTransGen
  have shorter := (distinct.subperm inside).length_le
  rwa [List.length_cons] at shorter

theorem descendants_eq_subtree (wellFormed : doc.WellFormed) {id : NodeId} (held : doc.Holds id) :
    doc.descendants id = doc.subtree id := by
  have enough := wellFormed.length_subtree_le held
  have walked := wellFormed.walk_subtree id held .refl (doc.size - (doc.subtree id).length)
  rw [Nat.sub_add_cancel enough, behind_top] at walked
  have ended : ∀ fuel, doc.walk id fuel none = [] := by intro fuel; cases fuel <;> rfl
  rw [descendants, walked, ended, List.append_nil]

theorem mem_descendants (wellFormed : doc.WellFormed) {top : NodeId} (held : doc.Holds top) {id : NodeId} :
    id ∈ doc.descendants top ↔ doc.Within top id := by
  rw [wellFormed.descendants_eq_subtree held]
  exact wellFormed.mem_subtree held

theorem mem_descendants_child (wellFormed : doc.WellFormed) {top id child : NodeId} (held : doc.Holds top)
    (member : id ∈ doc.descendants top) (inside : child ∈ doc.childIds id) : child ∈ doc.descendants top :=
  (wellFormed.mem_descendants held).mpr
    (((wellFormed.mem_descendants held).mp member).tail (wellFormed.mem_childIds.mp inside))

theorem nodup_descendants (wellFormed : doc.WellFormed) {top : NodeId} (held : doc.Holds top) :
    (doc.descendants top).Nodup := by
  rw [wellFormed.descendants_eq_subtree held]
  exact wellFormed.nodup_subtree held

end WellFormed

end MarkdownHtml.Document
