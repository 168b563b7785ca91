import MarkdownHtml.Document.Edit
import MarkdownHtml.Document.Walk
import Mathlib.Data.Fintype.Card
import Mathlib.Data.List.Chain
import Mathlib.Logic.Relation

/-! What it means that the links of a document agree. The definition speaks of whole rows of siblings;
edits are followed through an equivalent form that speaks of one link at a time, in which the absence
of loops is witnessed by numbers that grow along a row and down a branch. -/

namespace MarkdownHtml.Document

/-- A node of the arena, in reach or not. -/
def Holds (doc : Document) (id : NodeId) : Prop := id.index < doc.size

instance (doc : Document) (id : NodeId) : Decidable (doc.Holds id) :=
  inferInstanceAs (Decidable (id.index < doc.size))

def Follows (doc : Document) (first second : NodeId) : Prop := doc.next? first = some second

def IsParent (doc : Document) (parent child : NodeId) : Prop := doc.parent? child = some parent

/-- The first node is the parent of the second, or the parent of its parent, and so on. -/
def Ancestor (doc : Document) : NodeId → NodeId → Prop := Relation.TransGen doc.IsParent

/-- A whole row of siblings: each one is followed by the next, nothing stands before the first one
and nothing behind the last. -/
structure Row (doc : Document) (ids : List NodeId) : Prop where
  linked : ids.IsChain doc.Follows
  first : ∀ id, ids.head? = some id → doc.previous? id = none
  last : ∀ id, ids.getLast? = some id → doc.next? id = none

structure WellFormed (doc : Document) : Prop where
  inverse : ∀ first second, doc.next? first = some second ↔ doc.previous? second = some first
  sameParent : ∀ first second, doc.next? first = some second → doc.parent? first = doc.parent? second
  noSiblingLoop : ∀ id, ¬ Relation.TransGen doc.Follows id id
  children : ∀ parent, ∃ ids, doc.Row ids ∧ doc.firstChild? parent = ids.head? ∧
    doc.lastChild? parent = ids.getLast? ∧ ∀ id, id ∈ ids ↔ doc.parent? id = some parent
  firstWithLast : ∀ parent, (doc.firstChild? parent).isSome ↔ (doc.lastChild? parent).isSome
  noOwnAncestor : ∀ id, ¬ doc.Ancestor id id

/-- The same agreement, one link at a time. -/
structure Linked (doc : Document) : Prop where
  inverse : ∀ first second, doc.next? first = some second ↔ doc.previous? second = some first
  sameParent : ∀ first second, doc.next? first = some second → doc.parent? first = doc.parent? second
  first : ∀ parent id, doc.firstChild? parent = some id ↔ doc.parent? id = some parent ∧ doc.previous? id = none
  last : ∀ parent id, doc.lastChild? parent = some id ↔ doc.parent? id = some parent ∧ doc.next? id = none
  position : ∃ rank : NodeId → Nat, ∀ first second, doc.next? first = some second → rank first < rank second
  depth : ∃ rank : NodeId → Nat, ∀ id parent, doc.parent? id = some parent → rank parent < rank id

variable {doc : Document}

theorem not_holds_new : ¬ doc.Holds ⟨doc.size⟩ := Nat.lt_irrefl _

theorem Holds.ne_new {id : NodeId} (held : doc.Holds id) : id ≠ ⟨doc.size⟩ := by
  rintro rfl
  exact not_holds_new held

theorem holds_iff {id : NodeId} : doc.Holds id ↔ ∃ node, doc.node? id = some node := by
  simp [Holds, size, node?, Array.getElem?_eq_some_iff]

theorem holds_iff_kind {id : NodeId} : doc.Holds id ↔ ∃ kind, doc.kind? id = some kind := by
  simp [holds_iff, kind?]

private theorem holds_of_link {id other : NodeId} {link : Node → Option NodeId}
    (found : (doc.node? id).bind link = some other) : doc.Holds id := by
  obtain ⟨node, held, _⟩ := Option.bind_eq_some_iff.mp found
  exact holds_iff.mpr ⟨node, held⟩

theorem holds_of_parent {id parent : NodeId} (found : doc.parent? id = some parent) : doc.Holds id :=
  holds_of_link found

theorem holds_of_next {id next : NodeId} (found : doc.next? id = some next) : doc.Holds id := holds_of_link found

theorem holds_of_previous {id previous : NodeId} (found : doc.previous? id = some previous) : doc.Holds id :=
  holds_of_link found

theorem holds_of_firstChild {id child : NodeId} (found : doc.firstChild? id = some child) : doc.Holds id :=
  holds_of_link found

theorem ancestor_iff {upper lower : NodeId} :
    doc.Ancestor upper lower ↔ ∃ parent, doc.parent? lower = some parent ∧ (upper = parent ∨ doc.Ancestor upper parent) := by
  rw [Ancestor, Relation.TransGen.tail'_iff]
  constructor
  · rintro ⟨parent, path, step⟩
    exact ⟨parent, step, (Relation.reflTransGen_iff_eq_or_transGen.mp path).imp Eq.symm id⟩
  · rintro ⟨parent, step, path⟩
    exact ⟨parent, Relation.reflTransGen_iff_eq_or_transGen.mpr (path.imp Eq.symm id), step⟩

theorem not_ancestor_of_top {upper top : NodeId} (orphan : doc.parent? top = none) : ¬ doc.Ancestor upper top := by
  intro above
  obtain ⟨parent, step, _⟩ := ancestor_iff.mp above
  rw [orphan] at step
  cases step

/-- In a finite arena a relation without loops can only be followed for so long. -/
theorem exists_rank {r : NodeId → NodeId → Prop} (inside : ∀ a b, r a b → doc.Holds b)
    (acyclic : ∀ a, ¬ Relation.TransGen r a a) :
    ∃ rank : NodeId → Nat, (∀ a b, r a b → rank b < rank a) ∧ ∀ a, doc.Holds a → rank a < doc.size := by
  classical
  let beyond := fun a : NodeId => Finset.univ.filter fun i : Fin doc.size => Relation.TransGen r a ⟨i⟩
  refine ⟨fun a => (beyond a).card, ?_, ?_⟩
  · intro a b step
    apply Finset.card_lt_card
    refine (Finset.ssubset_iff_of_subset ?_).mpr ⟨⟨b.index, inside a b step⟩, ?_, ?_⟩
    · intro i member
      simp only [beyond, Finset.mem_filter, Finset.mem_univ, true_and] at member ⊢
      exact .head step member
    · simp only [beyond, Finset.mem_filter, Finset.mem_univ, true_and]
      exact .single step
    · simp only [beyond, Finset.mem_filter, Finset.mem_univ, true_and]
      exact acyclic b
  · intro a held
    have missing : beyond a ⊂ Finset.univ := by
      refine (Finset.ssubset_iff_of_subset (Finset.subset_univ _)).mpr ⟨⟨a.index, held⟩, Finset.mem_univ _, ?_⟩
      simp only [beyond, Finset.mem_filter, Finset.mem_univ, true_and]
      exact acyclic a
    simpa using Finset.card_lt_card missing

theorem acyclic_of_rank {r : NodeId → NodeId → Prop} {rank : NodeId → Nat}
    (grows : ∀ a b, r a b → rank a < rank b) (a : NodeId) : ¬ Relation.TransGen r a a := by
  have along : ∀ b, Relation.TransGen r a b → rank a < rank b := by
    intro b path
    induction path with
    | single step => exact grows _ _ step
    | tail _ step ih => exact Nat.lt_trans ih (grows _ _ step)
  intro loop
  exact Nat.lt_irrefl _ (along a loop)

namespace WellFormed

theorem holds_parent (wellFormed : doc.WellFormed) {id parent : NodeId} (found : doc.parent? id = some parent) :
    doc.Holds parent := by
  obtain ⟨ids, _, first, _, members⟩ := wellFormed.children parent
  cases ids with
  | nil => simpa using (members id).mpr found
  | cons child rest => exact holds_of_firstChild first

/-- The way up from a node is no longer than the arena is large. -/
theorem exists_depth (wellFormed : doc.WellFormed) : ∃ rank : NodeId → Nat,
    (∀ id parent, doc.parent? id = some parent → rank parent < rank id) ∧ ∀ id, doc.Holds id → rank id < doc.size := by
  refine exists_rank (fun _ _ => wellFormed.holds_parent) fun a loop => wellFormed.noOwnAncestor a ?_
  rw [Ancestor, ← Relation.transGen_swap]
  exact loop

theorem linked (wellFormed : doc.WellFormed) : doc.Linked where
  inverse := wellFormed.inverse
  sameParent := wellFormed.sameParent
  first parent id := by
    obtain ⟨ids, row, first, _, members⟩ := wellFormed.children parent
    constructor
    · intro found
      have head : ids.head? = some id := first.symm.trans found
      exact ⟨(members id).mp (List.mem_of_mem_head? head), row.first id head⟩
    · rintro ⟨child, leading⟩
      obtain ⟨before, after, rfl⟩ := List.append_of_mem ((members id).mpr child)
      rcases List.eq_nil_or_concat before with rfl | ⟨earlier, previous, rfl⟩
      · simpa using first
      · have step : doc.next? previous = some id := by
          have linked := row.linked
          simp only [List.concat_eq_append, List.append_assoc, List.singleton_append] at linked
          exact (List.isChain_append_cons_cons.mp linked).2.1
        rw [(wellFormed.inverse previous id).mp step] at leading
        cases leading
  last parent id := by
    obtain ⟨ids, row, _, last, members⟩ := wellFormed.children parent
    constructor
    · intro found
      have end_ : ids.getLast? = some id := last.symm.trans found
      exact ⟨(members id).mp (List.mem_of_getLast? end_), row.last id end_⟩
    · rintro ⟨child, trailing⟩
      obtain ⟨before, after, rfl⟩ := List.append_of_mem ((members id).mpr child)
      cases after with
      | nil => simpa using last
      | cons next later =>
        have step : doc.next? id = some next := (List.isChain_append_cons_cons.mp row.linked).2.1
        rw [step] at trailing
        cases trailing
  position := by
    have inside : ∀ a b, doc.previous? a = some b → doc.Holds b :=
      fun a b found => holds_of_next ((wellFormed.inverse b a).mpr found)
    have flipped : ∀ a, ¬ Relation.TransGen (fun a b => doc.previous? a = some b) a a := by
      intro a loop
      apply wellFormed.noSiblingLoop a
      rw [← Relation.transGen_swap]
      exact Relation.TransGen.mono (fun b c found => (wellFormed.inverse c b).mpr found) _ _ loop
    obtain ⟨rank, grows, _⟩ := exists_rank inside flipped
    exact ⟨rank, fun first second found => grows second first ((wellFormed.inverse first second).mp found)⟩
  depth := by
    obtain ⟨rank, grows, _⟩ := wellFormed.exists_depth
    exact ⟨rank, grows⟩

end WellFormed

end MarkdownHtml.Document
