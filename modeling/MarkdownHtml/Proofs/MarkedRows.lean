import MarkdownHtml.Proofs.InsertedContent

/-! The rows of a document in which inserted text is marked. Below each container there is what was there, with marks at
the runs that match, and what is below a new inserted node is the part of such a row between two marks. -/

namespace MarkdownHtml.Document

variable {start doc : Document} {seen : List NodeId} {id container : NodeId}

private theorem WellFormed.infix_items (wellFormed : doc.WellFormed) (start : Document) {parent : NodeId}
    (under : doc.parent? id = some parent) :
    itemizing.adds start doc (start.items doc) id <:+: start.items doc parent := by
  obtain ⟨front, rest, row⟩ := List.append_of_mem (wellFormed.mem_childIds.mpr under)
  have items := wellFormed.accounts_items start parent (wellFormed.holds_parent under)
  rw [items, row, List.append_nil, List.flatMap_append, List.flatMap_cons, ← List.append_assoc]
  exact List.infix_append _ _ _

private theorem infix_between (items : List Item) : items <:+: .mark true :: (items ++ [.mark false]) :=
  ⟨[.mark true], [.mark false], rfl⟩

private theorem WellFormed.entry_cases (wellFormed : start.WellFormed) (held : doc.Holds id)
    (part : itemizing.adds start doc (start.items doc) id <:+: start.markedRow container) :
    (∃ literal, doc.kind? id = some (.text literal)) ∨ id ∈ start.childIds container ∨
      doc.kind? id = some .ins ∧ ¬ start.Holds id ∧
        .mark true :: (start.items doc id ++ [.mark false]) <:+: start.markedRow container := by
  rcases itemizing_cases held with ⟨literal, found, _⟩ | ⟨isInserted, new, adds⟩ | ⟨_, adds⟩
  · exact .inl ⟨literal, found⟩
  · exact .inr (.inr ⟨isInserted, new, adds ▸ part⟩)
  · rw [adds] at part
    exact .inr (.inl (wellFormed.linked.mem_markedRow (part.subset (List.mem_singleton_self _))))

namespace Marking

theorem items_eq (marking : Marking start seen doc) (member : id ∈ seen) : start.items doc id = start.markedRow id :=
  marking.rows _ (marking.linked.wellFormed.accounts_items start) id member

variable (marking : Marking start seen doc) (wellFormed : start.WellFormed)
include marking wellFormed

/-- A new node is a text, or what is below it is the part of the row of a container between two marks. -/
theorem new_cases (held : doc.Holds id) (new : ¬ start.Holds id) :
    (∃ literal, doc.kind? id = some (.text literal)) ∨ doc.kind? id = some .ins ∧
      ∃ container ∈ seen, .mark true :: (start.items doc id ++ [.mark false]) <:+: start.markedRow container := by
  suffices each : ∀ id, doc.Holds id → ¬ start.Holds id → (∃ literal, doc.kind? id = some (.text literal)) ∨
      doc.kind? id = some .ins ∧
        ∃ container ∈ seen, .mark true :: (start.items doc id ++ [.mark false]) <:+: start.markedRow container
    from each id held new
  have after := marking.linked.wellFormed
  refine after.parent_induction fun id ih held new => ?_
  obtain ⟨parent, under, above⟩ := marking.attached id held new
  have part := after.infix_items start under
  obtain ⟨container, member, part⟩ : ∃ container ∈ seen,
      itemizing.adds start doc (start.items doc) id <:+: start.markedRow container := by
    rcases above with inside | newer
    · exact ⟨parent, inside, marking.items_eq inside ▸ part⟩
    · rcases ih parent under (after.holds_parent under) newer with ⟨literal, isText⟩ | ⟨_, container, member, between⟩
      · exact absurd isText (marking.leaves id parent literal under)
      · exact ⟨container, member, part.trans ((infix_between _).trans between)⟩
  rcases wellFormed.entry_cases held part with isText | child | ⟨isInserted, _, between⟩
  · exact .inl isText
  · exact absurd (wellFormed.linked.holds_of_mem_childIds child) new
  · exact .inr ⟨isInserted, container, member, between⟩

end Marking

/-- What is below the nodes of a document in which inserted text is marked. -/
theorem WellFormed.items_markInserted (wellFormed : doc.WellFormed) (held : doc.Holds root) (leaves : doc.LeafTexts)
    (member : id ∈ doc.markInserted.1.descendants root) :
    (∃ literal, doc.markInserted.1.kind? id = some (.text literal)) ∨
      (id ∈ doc.descendants root ∧ doc.items doc.markInserted.1 id = doc.markedRow id) ∨
      ∃ container ∈ doc.descendants root,
        .mark true :: (doc.items doc.markInserted.1 id ++ [.mark false]) <:+: doc.markedRow container := by
  obtain ⟨marking, _⟩ := markInserted_accounts wellFormed held leaves
  have after := marking.linked.wellFormed
  have within := (after.mem_descendants (marking.holds root held)).mp member
  have seen : ∀ {id}, id ∈ doc.descendants root → doc.items doc.markInserted.1 id = doc.markedRow id :=
    fun member => marking.items_eq (List.mem_reverse.mpr member)
  clear member
  induction within with
  | refl =>
    have top := (wellFormed.mem_descendants held).mpr .refl
    exact .inr (.inl ⟨top, seen top⟩)
  | @tail parent id _ under ih =>
    have part := after.infix_items doc under
    obtain ⟨container, among, part⟩ : ∃ container ∈ doc.descendants root,
        itemizing.adds doc doc.markInserted.1 (doc.items doc.markInserted.1) id <:+: doc.markedRow container := by
      rcases ih with ⟨literal, isText⟩ | ⟨among, row⟩ | ⟨container, among, between⟩
      · exact absurd isText (marking.leaves id parent literal under)
      · exact ⟨parent, among, row ▸ part⟩
      · exact ⟨container, among, part.trans ((infix_between _).trans between)⟩
    rcases wellFormed.entry_cases (holds_of_parent under) part with isText | child | ⟨_, _, between⟩
    · exact .inl isText
    · have below := wellFormed.mem_descendants_child held among child
      exact .inr (.inl ⟨below, seen below⟩)
    · exact .inr (.inr ⟨container, among, between⟩)

end MarkdownHtml.Document
