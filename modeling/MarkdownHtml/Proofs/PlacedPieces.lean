import MarkdownHtml.Proofs.WrittenCalls

/-! Where the pieces of a node stand among those of the whole document: in one block, in which every tag that is opened
is closed. No tag outside of the block is made for the node or for anything below it. -/

namespace MarkdownHtml.Renderer
open Html RenderM

variable {renderer : Renderer}

private theorem foldlM_shift_append {pieces : List Piece} {before after : List String}
    (shift : pieces.foldlM Piece.shift before = some after) (below : List String) :
    pieces.foldlM Piece.shift (before ++ below) = some (after ++ below) := by
  induction pieces generalizing before with
  | nil =>
    cases shift
    rfl
  | cons piece rest ih =>
    rw [List.foldlM_cons] at shift ⊢
    obtain ⟨middle, first, later⟩ := Option.bind_eq_some_iff.mp shift
    rw [shift_append first below]
    exact ih later

theorem foldlM_shift_flatMap {below : NodeId → List Piece} {ids : List NodeId}
    (each : ∀ id ∈ ids, (below id).foldlM Piece.shift [] = some []) (stack : List String) :
    (ids.flatMap below).foldlM Piece.shift stack = some stack := by
  induction ids with
  | nil => rfl
  | cons id ids ih =>
    obtain ⟨here, later⟩ := List.forall_mem_cons.mp each
    rw [List.flatMap_cons, List.foldlM_append, show (below id).foldlM Piece.shift stack = some stack from
      foldlM_shift_append here stack]
    exact ih later

section
variable (wellFormed : renderer.document.WellFormed)
include wellFormed

/-- A subtree makes its tags for its own nodes, and for the node that ends in its top if that is a paragraph. -/
theorem madeFor_pieces {id : NodeId} (held : renderer.document.Holds id) : ∀ piece ∈ renderer.pieces id,
    piece.MadeFor fun owner => renderer.document.Within id owner ∨ renderer.FinalParagraph owner id := by
  revert held
  induction id using wellFormed.child_induction with
  | step id ih =>
    intro held piece member
    have inside : ∀ child ∈ renderer.document.childIds id, piece ∈ renderer.pieces child →
        piece.MadeFor fun owner => renderer.document.Within id owner ∨ renderer.FinalParagraph owner id := by
      intro child below here
      have under := wellFormed.mem_childIds.mp below
      refine (ih child below (Document.holds_of_parent under) piece here).mono fun owner => ?_
      rintro (within | ⟨same, _⟩)
      · exact .inl (.head under within)
      · rw [under, Option.some.injEq] at same
        exact .inl (same ▸ .refl)
    have itself : ∀ kind, renderer.document.kind? id = some kind → piece ∈ renderer.own id kind →
        piece.MadeFor fun owner => renderer.document.Within id owner ∨ renderer.FinalParagraph owner id := by
      intro kind found here
      exact (madeFor_own found piece here).mono fun owner => Or.imp (fun same => same ▸ .refl) And.left
    rw [pieces_eq wellFormed held, piecesFrom] at member
    split at member
    · cases member
    next kind found =>
      rcases List.mem_append.mp member with opened | later
      · exact itself kind found (by simp [own, opened])
      · split at later
        · cases later
        · rcases List.mem_append.mp later with between | ends
          · obtain ⟨child, placed, here⟩ := List.mem_flatMap.mp between
            exact inside child (inPlace_subset placed) here
          · rcases mem_ending ends with here | ⟨child, waits, here⟩
            · exact itself kind found here
            · exact inside child (deferred_subset waits) here

/-- What a subtree opens it closes. -/
theorem shift_pieces {id : NodeId} (held : renderer.document.Holds id) :
    (renderer.pieces id).foldlM Piece.shift [] = some [] := by
  revert held
  induction id using wellFormed.child_induction with
  | step id ih =>
    intro held
    have each : ∀ child ∈ renderer.document.childIds id, (renderer.pieces child).foldlM Piece.shift [] = some [] :=
      fun child member => ih child member (Document.holds_of_parent (wellFormed.mem_childIds.mp member))
    have inside := foldlM_shift_flatMap fun child member => each child (inPlace_subset member)
    have after := foldlM_shift_flatMap fun child member => each child (deferred_subset member)
    obtain ⟨kind, found⟩ := Document.holds_iff_kind.mp held
    obtain ⟨left, opens, leaf, closes⟩ := shift_opening_closing renderer id kind
    rw [pieces_eq wellFormed held, piecesFrom]
    simp only [found, List.foldlM_append, opens, Option.bind_eq_bind, Option.bind_some]
    cases descends : descent kind with
    | done => rw [leaf descends]; rfl
    | children =>
      simp only [List.foldlM_append, inside, Option.bind_eq_bind, Option.bind_some]
      by_cases document : kind = .document
      · subst document
        obtain rfl : left = [] := (Option.some.inj opens).symm
        rw [ending]
        split
        · rfl
        · have opened : (sectionOpening id).foldlM Piece.shift [] = some ["ol", "section"] := rfl
          have closed : sectionClosing.foldlM Piece.shift ["ol", "section"] = some [] := rfl
          simp only [List.foldlM_append, opened, after, closed, Option.bind_eq_bind, Option.bind_some]
      · rw [ending_eq document]
        exact closes descends

private theorem apart_sibling {parent id other : NodeId} (under : renderer.document.parent? id = some parent)
    (beside : renderer.document.parent? other = some parent) (different : other ≠ id) :
    ∀ piece ∈ renderer.pieces other, piece.MadeFor fun owner => ¬ renderer.document.Within id owner := by
  intro piece member
  refine (madeFor_pieces wellFormed (Document.holds_of_parent beside) piece member).mono fun owner near within => ?_
  rcases near with inside | ⟨same, _⟩
  · exact different (wellFormed.eq_of_siblings beside under inside within)
  · rw [beside, Option.some.injEq] at same
    subst same
    exact wellFormed.noOwnAncestor parent (Relation.TransGen.head' under within)

private theorem apart_own {parent id : NodeId} {kind : NodeKind} (found : renderer.document.kind? parent = some kind)
    (under : renderer.document.parent? id = some parent) :
    ∀ piece ∈ renderer.own parent kind, piece.MadeFor fun owner => ¬ renderer.document.Within id owner := by
  intro piece member
  refine (madeFor_own found piece member).mono fun owner near within => ?_
  have above : renderer.document.Ancestor parent owner := Relation.TransGen.head' under within
  rcases near with rfl | ⟨⟨higher, _⟩, _⟩
  · exact wellFormed.noOwnAncestor owner above
  · exact wellFormed.noOwnAncestor owner (Relation.TransGen.head higher above)

/-- A child is rendered in one of two rows of children: that of the children in their place, or that of those which
wait. What stands around the row is written by the node itself or by the children of the other row. -/
theorem exists_row_pieces {parent id : NodeId} {kind : NodeKind} (found : renderer.document.kind? parent = some kind)
    (descends : descent kind = .children) (under : renderer.document.parent? id = some parent) :
    ∃ (front : List Piece) (row : List NodeId) (back : List Piece),
      renderer.pieces parent = front ++ row.flatMap renderer.pieces ++ back ∧
      row.Sublist (renderer.document.childIds parent) ∧ id ∈ row ∧
      ∀ piece ∈ front ++ back, piece ∈ renderer.own parent kind ∨
        ∃ other ∈ renderer.document.childIds parent, other ∉ row ∧ piece ∈ renderer.pieces other := by
  have member : id ∈ renderer.document.childIds parent := wellFormed.mem_childIds.mpr under
  rw [pieces_eq wellFormed (Document.holds_iff_kind.mpr ⟨kind, found⟩), piecesFrom]
  simp only [found, descends]
  cases waits : isDeferred renderer.document id with
  | false =>
    refine ⟨renderer.opening parent kind, renderer.inPlace parent, renderer.ending renderer.pieces parent kind,
      (List.append_assoc ..).symm, List.filter_sublist, List.mem_filter.mpr ⟨member, by rw [waits]; rfl⟩, ?_⟩
    refine List.forall_mem_append.mpr ⟨fun piece here => .inl (by simp [own, here]), fun piece here => ?_⟩
    rcases mem_ending here with mine | ⟨other, later, inside⟩
    · exact .inl mine
    refine .inr ⟨other, deferred_subset later, fun placed => ?_, inside⟩
    rw [inPlace, List.mem_filter, (List.mem_filter.mp later).2] at placed
    exact Bool.false_ne_true placed.2
  | true =>
    obtain rfl := kind_of_isDeferred found under waits
    have place : id ∈ renderer.deferred parent := List.mem_filter.mpr ⟨member, waits⟩
    simp only [ending_of_mem_deferred place]
    refine ⟨renderer.opening parent .document ++ (renderer.inPlace parent).flatMap renderer.pieces ++
      sectionOpening parent, renderer.deferred parent, sectionClosing, by simp only [List.append_assoc],
      List.filter_sublist, place, ?_⟩
    simp only [List.forall_mem_append]
    refine ⟨⟨⟨fun piece here => .inl (by simp [own, here]), fun piece here => ?_⟩,
      fun piece here => .inl (by simp [own, here])⟩, fun piece here => .inl (by simp [own, here])⟩
    obtain ⟨other, placed, inside⟩ := List.mem_flatMap.mp here
    refine .inr ⟨other, inPlace_subset placed, fun later => ?_, inside⟩
    rw [inPlace, List.mem_filter, (List.mem_filter.mp later).2] at placed
    exact Bool.false_ne_true placed.2

/-- Among what a node writes, what one of its children writes is one block. -/
theorem exists_block_parent {parent id : NodeId} {kind : NodeKind}
    (found : renderer.document.kind? parent = some kind) (descends : descent kind = .children)
    (under : renderer.document.parent? id = some parent) :
    ∃ front back, renderer.pieces parent = front ++ renderer.pieces id ++ back ∧
      ∀ piece ∈ front ++ back, piece.MadeFor fun owner => ¬ renderer.document.Within id owner := by
  obtain ⟨front, row, back, same, sublist, member, around⟩ := exists_row_pieces wellFormed found descends under
  have beside : ∀ other ∈ renderer.document.childIds parent, other ≠ id → ∀ piece ∈ renderer.pieces other,
      piece.MadeFor fun owner => ¬ renderer.document.Within id owner := fun other inside =>
    apart_sibling wellFormed under (wellFormed.mem_childIds.mp inside)
  obtain ⟨before, later, rfl⟩ := List.append_of_mem member
  have distinct := sublist.nodup (wellFormed.linked.nodup_childIds parent)
  have outside := (List.nodup_cons.mp (List.nodup_middle.mp distinct)).1
  have inRow : ∀ others ⊆ before ++ later, ∀ piece ∈ others.flatMap renderer.pieces,
      piece.MadeFor fun owner => ¬ renderer.document.Within id owner := by
    intro others subset piece here
    obtain ⟨other, place, here⟩ := List.mem_flatMap.mp here
    have child : other ∈ before ++ id :: later := by
      have := subset place
      grind
    exact beside other (sublist.subset child) (fun same => outside (same ▸ subset place)) piece here
  have around : ∀ piece ∈ front ++ back, piece.MadeFor fun owner => ¬ renderer.document.Within id owner := by
    intro piece here
    rcases around piece here with mine | ⟨other, child, notInRow, here⟩
    · exact apart_own wellFormed found under piece mine
    · exact beside other child (fun same => notInRow (same ▸ member)) piece here
  obtain ⟨apartFront, apartBack⟩ := List.forall_mem_append.mp around
  refine ⟨front ++ before.flatMap renderer.pieces, later.flatMap renderer.pieces ++ back, ?_, ?_⟩
  · rw [same]
    simp only [List.flatMap_append, List.flatMap_cons, List.append_assoc]
  · refine List.forall_mem_append.mpr ⟨List.forall_mem_append.mpr ⟨apartFront, ?_⟩,
      List.forall_mem_append.mpr ⟨?_, apartBack⟩⟩
    · exact inRow before (List.subset_append_left ..)
    · exact inRow later (List.subset_append_right ..)

/-- Among what the document writes, what a node writes is one block, and nothing outside of it is made for the node or
for what is below it. -/
theorem Rendered.exists_block {id : NodeId} (rendered : Rendered renderer.document id) :
    ∃ front back, renderer.pieces Document.root = front ++ renderer.pieces id ++ back ∧
      ∀ piece ∈ front ++ back, piece.MadeFor fun owner => ¬ renderer.document.Within id owner := by
  induction rendered with
  | root => exact ⟨[], [], by simp, nofun⟩
  | @child parent id kind _ found descends under ih =>
    obtain ⟨front, back, whole, apart⟩ := ih
    obtain ⟨before, behind, block, near⟩ := exists_block_parent wellFormed found descends under
    have further : ∀ piece ∈ front ++ back, piece.MadeFor fun owner => ¬ renderer.document.Within id owner := by
      intro piece here
      exact (apart piece here).mono fun owner outside within => outside (.head under within)
    refine ⟨front ++ before, behind ++ back, by simp only [whole, block, List.append_assoc], ?_⟩
    simp only [List.forall_mem_append] at near further ⊢
    exact ⟨⟨further.1, near.1⟩, near.2, further.2⟩

end

end MarkdownHtml.Renderer
