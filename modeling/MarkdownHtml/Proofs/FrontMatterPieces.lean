import MarkdownHtml.Proofs.FrontMatterRemoval
import MarkdownHtml.Proofs.WrittenCalls

/-! What a document writes without its front matter. A block writes nothing itself, but four rules look at what
stands beside a node or below it. Where none of them notices that the blocks are gone, the same calls are made. -/

namespace MarkdownHtml.Document

variable {doc : Document}

theorem mem_frontMatter (wellFormed : doc.WellFormed) {id : NodeId} :
    id ∈ doc.frontMatter ↔ doc.Holds root ∧ doc.Within root id ∧ doc.isFrontMatter id := by
  rw [frontMatter, List.mem_filter]
  by_cases held : doc.Holds root
  · rw [wellFormed.mem_descendants held]
    simp [held]
  · have empty : doc.size = 0 := Nat.eq_zero_of_not_pos held
    simp [held, descendants, empty, walk]

private theorem getLast?_eq_iff_next {parent id : NodeId} (linked : doc.Linked) (under : doc.parent? id = some parent) :
    (doc.childIds parent).getLast? = some id ↔ doc.next? id = none := by
  rw [linked.getLast?_childIds, linked.last]
  simp [under]

private theorem head?_eq_iff_previous {parent id : NodeId} (linked : doc.Linked)
    (under : doc.parent? id = some parent) : (doc.childIds parent).head? = some id ↔ doc.previous? id = none := by
  rw [linked.head?_childIds, linked.first]
  simp [under]

end MarkdownHtml.Document

namespace MarkdownHtml.Renderer
open Document (root)
open Html RenderM

def withoutFrontMatter (renderer : Renderer) : Renderer :=
  { renderer with document := renderer.document.withoutFrontMatter }

@[simp] theorem document_withoutFrontMatter (renderer : Renderer) :
    renderer.withoutFrontMatter.document = renderer.document.withoutFrontMatter := rfl

/-- What a node writes does not show whether the front matter is there. A paragraph that is alone without it is
alone, and one that is the last of a definition without it is the last. What is read as the text of a heading or
an image has no part in front matter. -/
structure UnnoticedAt (renderer : Renderer) (id : NodeId) : Prop where
  alone : renderer.options.omitSingleParagraphP = true → renderer.document.type? id = some .paragraph →
    ∀ parent, renderer.document.parent? id = some parent → renderer.document.type? parent = some .document →
      renderer.document.withoutFrontMatter.childIds parent = [id] → renderer.document.childIds parent = [id]
  last : renderer.document.type? id = some .paragraph →
    ∀ definition, renderer.document.parent? id = some definition →
      renderer.document.type? definition = some .footnoteDefinition →
      (renderer.document.withoutFrontMatter.childIds definition).getLast? = some id →
      (renderer.document.childIds definition).getLast? = some id
  heading : renderer.headingAnchors = true → renderer.document.type? id = some .heading →
    renderer.document.withoutFrontMatter.textContent id = renderer.document.textContent id
  image : renderer.document.type? id = some .image →
    renderer.document.withoutFrontMatter.textContent id = renderer.document.textContent id

/-- No node that is rendered without the front matter notices it. -/
def Unnoticed (renderer : Renderer) : Prop :=
  ∀ id, Rendered renderer.document.withoutFrontMatter id → renderer.UnnoticedAt id

theorem isLoneTopLevel_iff {doc : Document} (linked : doc.Linked) {id : NodeId} :
    isLoneTopLevel doc id = true ↔
      ∃ parent, doc.parent? id = some parent ∧ doc.type? parent = some .document ∧ doc.childIds parent = [id] := by
  cases under : doc.parent? id with
  | none => simp [isLoneTopLevel, under]
  | some parent =>
    have ends : doc.childIds parent = [id] ↔ doc.previous? id = none ∧ doc.next? id = none := by
      rw [← Document.head?_eq_iff_previous linked under, ← Document.getLast?_eq_iff_next linked under]
      constructor
      · intro alone
        simp [alone]
      · rintro ⟨first, last⟩
        obtain ⟨rest, row⟩ := List.head?_eq_some_iff.mp first
        have distinct := linked.nodup_childIds parent
        rw [row] at last distinct ⊢
        cases rest with
        | nil => rfl
        | cons next rest =>
          rw [List.getLast?_cons_cons] at last
          exact absurd (List.mem_of_getLast? last) (List.nodup_cons.mp distinct).1
    simp [isLoneTopLevel, under, ends, and_assoc]

variable {renderer : Renderer}

private theorem flatMap_filter_of_nil {ids : List NodeId} {stays : NodeId → Bool} {below : NodeId → List β}
    (silent : ∀ id ∈ ids, stays id = false → below id = []) : (ids.filter stays).flatMap below = ids.flatMap below := by
  induction ids with
  | nil => rfl
  | cons id rest ih =>
    have rest := ih fun other member => silent other (List.mem_cons_of_mem _ member)
    cases kept : stays id with
    | true => rw [List.filter_cons_of_pos kept, List.flatMap_cons, List.flatMap_cons, rest]
    | false =>
      rw [List.filter_cons_of_neg (by simp [kept]), List.flatMap_cons, silent id (List.mem_cons_self ..) kept, rest]
      rfl

section
variable (wellFormed : renderer.document.WellFormed)
include wellFormed

private theorem pieces_frontMatter {id : NodeId} (block : renderer.document.isFrontMatter id = true) :
    renderer.pieces id = [] := by
  have found := Document.kind?_frontMatterBlock (eq_of_beq block)
  rw [pieces_eq wellFormed (Document.holds_iff_kind.mpr ⟨_, found⟩), piecesFrom, found]
  rfl

omit wellFormed in
theorem stays_of_type {id : NodeId} (type : renderer.document.type? id ≠ some .frontMatterBlock) :
    id ∉ renderer.document.frontMatter := by
  intro gone
  have block := Document.isFrontMatter_of_mem gone
  exact type (by simpa [Document.isFrontMatter] using block)

private theorem isDeferred_withoutFrontMatter {id : NodeId} (stays : id ∉ renderer.document.frontMatter) :
    isDeferred renderer.document.withoutFrontMatter id = isDeferred renderer.document id := by
  have type := wellFormed.pruned.type
  simp only [isDeferred, wellFormed.pruned.parent_of_notMem stays, type]

omit wellFormed in
private theorem not_isDeferred_of_mem {id : NodeId} (gone : id ∈ renderer.document.frontMatter) :
    isDeferred renderer.document id = false := by
  have block := Document.isFrontMatter_of_mem gone
  simp only [Document.isFrontMatter, beq_iff_eq] at block
  simp [isDeferred, block]

private theorem inPlace_withoutFrontMatter (id : NodeId) :
    renderer.withoutFrontMatter.inPlace id =
      (renderer.inPlace id).filter fun child => child ∉ renderer.document.frontMatter := by
  simp only [inPlace, withoutFrontMatter, wellFormed.pruned.children, List.filter_filter]
  refine List.filter_congr fun child _ => ?_
  by_cases gone : child ∈ renderer.document.frontMatter
  · simp [gone]
  · simp [gone, isDeferred_withoutFrontMatter wellFormed gone]

theorem flatMap_inPlace (id : NodeId) :
    (renderer.withoutFrontMatter.inPlace id).flatMap renderer.pieces =
      (renderer.inPlace id).flatMap renderer.pieces := by
  rw [inPlace_withoutFrontMatter wellFormed]
  refine flatMap_filter_of_nil fun child _ gone => pieces_frontMatter wellFormed ?_
  exact Document.isFrontMatter_of_mem (by simpa using gone)

theorem deferred_withoutFrontMatter (id : NodeId) :
    renderer.withoutFrontMatter.deferred id = renderer.deferred id := by
  simp only [deferred, withoutFrontMatter, wellFormed.pruned.children, List.filter_filter]
  refine List.filter_congr fun child _ => ?_
  by_cases gone : child ∈ renderer.document.frontMatter
  · simp [gone, not_isDeferred_of_mem gone]
  · simp [gone, isDeferred_withoutFrontMatter wellFormed gone]

private theorem Rendered.parent_stays {id parent : NodeId} (rendered : Rendered renderer.document.withoutFrontMatter id)
    (under : renderer.document.parent? id = some parent) : parent ∉ renderer.document.frontMatter := by
  intro gone
  obtain ⟨_, within, block⟩ := (Document.mem_frontMatter wellFormed).mp gone
  cases rendered with
  | root => exact wellFormed.noOwnAncestor _ (Relation.TransGen.tail' within under)
  | @child _ _ kind _ found descends below =>
    obtain rfl := Document.parent_unique under (wellFormed.pruned.isParent below)
    rw [wellFormed.pruned.kind, Document.kind?_frontMatterBlock (eq_of_beq block)] at found
    cases found
    cases descends

private theorem backrefsPieces_withoutFrontMatter (id : NodeId) :
    renderer.withoutFrontMatter.backrefsPieces id = renderer.backrefsPieces id := by
  simp only [backrefsPieces, withoutFrontMatter, wellFormed.pruned.kind]

private theorem isLast_withoutFrontMatter {id definition : NodeId} (unnoticed : renderer.UnnoticedAt id)
    (type : renderer.document.type? id = some .paragraph)
    (under : renderer.document.parent? id = some definition)
    (footnote : renderer.document.type? definition = some .footnoteDefinition) :
    (renderer.document.withoutFrontMatter.childIds definition).getLast? = some id ↔
      (renderer.document.childIds definition).getLast? = some id := by
  have stays := stays_of_type (by rw [type]; decide)
  refine ⟨unnoticed.last type definition under footnote, fun last => ?_⟩
  obtain ⟨front, row⟩ := List.getLast?_eq_some_iff.mp last
  simp [wellFormed.pruned.children, row, stays]

private theorem paragraphBackrefs_withoutFrontMatter {id : NodeId} (unnoticed : renderer.UnnoticedAt id)
    (type : renderer.document.type? id = some .paragraph) :
    renderer.withoutFrontMatter.paragraphBackrefs id = renderer.paragraphBackrefs id := by
  have pruned := wellFormed.pruned
  have stays := stays_of_type (by rw [type]; decide)
  have above := pruned.parent_of_notMem stays
  unfold paragraphBackrefs
  rw [document_withoutFrontMatter, above]
  cases under : renderer.document.parent? id with
  | none => rfl
  | some definition =>
    simp only [pruned.type, backrefsPieces_withoutFrontMatter wellFormed]
    by_cases footnote : renderer.document.type? definition = some .footnoteDefinition
    · have last : renderer.document.withoutFrontMatter.next? id = none ↔ renderer.document.next? id = none := by
        rw [← Document.getLast?_eq_iff_next wellFormed.linked under,
          ← Document.getLast?_eq_iff_next pruned.linked (above.trans under)]
        exact isLast_withoutFrontMatter wellFormed unnoticed type under footnote
      simp only [Bool.and_eq_true, Option.isNone_iff_eq_none, last]
    · simp [footnote]

private theorem definitionBackrefs_withoutFrontMatter {id : NodeId}
    (type : renderer.document.type? id = some .footnoteDefinition)
    (below : ∀ child ∈ renderer.document.withoutFrontMatter.childIds id, renderer.UnnoticedAt child) :
    renderer.withoutFrontMatter.definitionBackrefs id = renderer.definitionBackrefs id := by
  have pruned := wellFormed.pruned
  have ends : (renderer.document.withoutFrontMatter.lastChild? id).bind renderer.document.withoutFrontMatter.type? =
      some .paragraph ↔ (renderer.document.lastChild? id).bind renderer.document.type? = some .paragraph := by
    rw [← pruned.linked.getLast?_childIds, ← wellFormed.linked.getLast?_childIds]
    simp only [Option.bind_eq_some_iff, pruned.type]
    constructor
    · rintro ⟨child, last, paragraph⟩
      have member := List.mem_of_getLast? last
      have under := wellFormed.mem_childIds.mp (pruned.mem_childIds.mp member).1
      exact ⟨child, (isLast_withoutFrontMatter wellFormed (below child member) paragraph under type).mp last, paragraph⟩
    · rintro ⟨child, last, paragraph⟩
      have member := List.mem_of_getLast? last
      have stays := stays_of_type (by rw [paragraph]; decide)
      have notices := below child (pruned.mem_childIds.mpr ⟨member, stays⟩)
      have under := wellFormed.mem_childIds.mp member
      exact ⟨child, (isLast_withoutFrontMatter wellFormed notices paragraph under type).mpr last, paragraph⟩
  unfold definitionBackrefs
  simp only [backrefsPieces_withoutFrontMatter wellFormed, beq_iff_eq]
  exact if_congr ends rfl rfl

section
variable {id : NodeId} (rendered : Rendered renderer.document.withoutFrontMatter id)
  (unnoticed : renderer.UnnoticedAt id)
include rendered unnoticed

private theorem omitsParagraphTag_withoutFrontMatter (type : renderer.document.type? id = some .paragraph) :
    renderer.withoutFrontMatter.omitsParagraphTag id = renderer.omitsParagraphTag id := by
  have pruned := wellFormed.pruned
  have stays := stays_of_type (by rw [type]; decide) 
  have tight : inTightList renderer.document.withoutFrontMatter id = inTightList renderer.document id := by
    unfold inTightList
    rw [pruned.parent_of_notMem stays]
    cases under : renderer.document.parent? id with
    | none => rfl
    | some parent =>
      have above := pruned.parent_of_notMem (rendered.parent_stays wellFormed under)
      simp only [Option.bind_some, above, pruned.kind]
  have lone (omits : renderer.options.omitSingleParagraphP = true) :
      isLoneTopLevel renderer.document.withoutFrontMatter id = isLoneTopLevel renderer.document id := by
    rw [Bool.eq_iff_iff, isLoneTopLevel_iff pruned.linked, isLoneTopLevel_iff wellFormed.linked]
    simp only [pruned.parent_of_notMem stays, pruned.type]
    constructor
    · rintro ⟨parent, under, document, alone⟩
      exact ⟨parent, under, document, unnoticed.alone omits type parent under document alone⟩
    · rintro ⟨parent, under, document, alone⟩
      exact ⟨parent, under, document, by simp [pruned.children, alone, stays]⟩
  unfold omitsParagraphTag withoutFrontMatter
  cases omits : renderer.options.omitSingleParagraphP with
  | false => simp [tight]
  | true => simp only [tight, lone omits]

private theorem opening_withoutFrontMatter {kind : NodeKind} (found : renderer.document.kind? id = some kind) :
    renderer.withoutFrontMatter.opening id kind = renderer.opening id kind := by
  have type : renderer.document.type? id = some kind.type := by rw [Document.type?, found]; rfl
  cases kind with
  | paragraph =>
    simp only [opening, omitsParagraphTag_withoutFrontMatter wellFormed rendered unnoticed type]
  | image destination title =>
    simp only [opening, withoutFrontMatter, unnoticed.image type]
  | _ => rfl

private theorem closing_withoutFrontMatter {kind : NodeKind} (found : renderer.document.kind? id = some kind)
    (below : ∀ child ∈ renderer.document.withoutFrontMatter.childIds id, renderer.UnnoticedAt child) :
    renderer.withoutFrontMatter.closing id kind = renderer.closing id kind := by
  have type : renderer.document.type? id = some kind.type := by rw [Document.type?, found]; rfl
  cases kind with
  | paragraph =>
    unfold closing
    rw [omitsParagraphTag_withoutFrontMatter wellFormed rendered unnoticed type,
      paragraphBackrefs_withoutFrontMatter wellFormed unnoticed type]
  | footnoteDefinition label number references =>
    unfold closing
    rw [definitionBackrefs_withoutFrontMatter wellFormed type below]
  | _ => rfl

end

/-- Where no node below it notices the front matter, a node writes the same with it and without. -/
theorem pieces_withoutFrontMatter {id : NodeId} (rendered : Rendered renderer.document.withoutFrontMatter id)
    (held : renderer.document.Holds id)
    (unnoticed : ∀ below, renderer.document.withoutFrontMatter.Within id below →
      Rendered renderer.document.withoutFrontMatter below → renderer.UnnoticedAt below) :
    renderer.withoutFrontMatter.pieces id = renderer.pieces id := by
  have pruned := wellFormed.pruned
  have after : renderer.withoutFrontMatter.document.WellFormed := pruned.linked.wellFormed
  induction id using after.child_induction with
  | step id ih =>
    obtain ⟨kind, found⟩ := Document.holds_iff_kind.mp held
    have foundAfter : renderer.withoutFrontMatter.document.kind? id = some kind := (pruned.kind id).trans found
    rw [pieces_eq after (Document.holds_iff_kind.mpr ⟨kind, foundAfter⟩), pieces_eq wellFormed held, piecesFrom,
      piecesFrom, found, foundAfter]
    simp only [opening_withoutFrontMatter wellFormed rendered (unnoticed id .refl rendered) found]
    cases descends : descent kind with
    | done => rfl
    | children =>
      have each : ∀ child ∈ renderer.withoutFrontMatter.document.childIds id,
          Rendered renderer.document.withoutFrontMatter child ∧
            renderer.withoutFrontMatter.pieces child = renderer.pieces child := by
        intro child member
        have under := after.mem_childIds.mp member
        have below : Rendered renderer.document.withoutFrontMatter child := .child rendered foundAfter descends under
        refine ⟨below, ih child member below ((pruned.holds child).mp (Document.holds_of_parent under)) ?_⟩
        exact fun other within => unnoticed other (.head under within)
      have inside : (renderer.withoutFrontMatter.inPlace id).flatMap renderer.withoutFrontMatter.pieces =
          (renderer.inPlace id).flatMap renderer.pieces := by
        rw [← flatMap_inPlace wellFormed]
        exact List.flatMap_congr fun child member => (each child (inPlace_subset member)).2
      have waiting : (renderer.withoutFrontMatter.deferred id).flatMap renderer.withoutFrontMatter.pieces =
          (renderer.deferred id).flatMap renderer.pieces := by
        rw [List.flatMap_congr fun child member => (each child (deferred_subset member)).2,
          deferred_withoutFrontMatter wellFormed]
      have closes := closing_withoutFrontMatter wellFormed rendered (unnoticed id .refl rendered) found
        fun child member => unnoticed child (.single (after.mem_childIds.mp member)) (each child member).1
      have ends : renderer.withoutFrontMatter.ending renderer.withoutFrontMatter.pieces id kind =
          renderer.ending renderer.pieces id kind := by
        cases kind with
        | document => simp only [ending, deferred_withoutFrontMatter wellFormed, ← waiting]
        | _ => exact closes
      simp only [inside, ends]

private theorem imageAttributesOf_withoutFrontMatter (image : NodeId) :
    imageAttributesOf renderer.document.withoutFrontMatter image = imageAttributesOf renderer.document image := by
  simp only [imageAttributesOf, wellFormed.pruned.kind, wellFormed.pruned.children]
  refine flatMap_filter_of_nil fun child _ gone => ?_
  have block := Document.isFrontMatter_of_mem (by simpa using gone)
  rw [Document.kind?_frontMatterBlock (eq_of_beq block)]

private theorem decorateBuiltin_withoutFrontMatter {id : NodeId} (base : AttributeSet)
    (reads : renderer.headingAnchors = true → renderer.document.type? id = some .heading →
      renderer.document.withoutFrontMatter.textContent id = renderer.document.textContent id) :
    renderer.withoutFrontMatter.decorateBuiltin id base = renderer.decorateBuiltin id base := by
  unfold decorateBuiltin
  rw [document_withoutFrontMatter, wellFormed.pruned.kind, imageAttributesOf_withoutFrontMatter wellFormed]
  cases found : renderer.document.kind? id with
  | none => rfl
  | some kind =>
    cases kind with
    | heading level =>
      cases anchors : renderer.headingAnchors with
      | false => simp [withoutFrontMatter, anchors]
      | true =>
        have same := reads anchors (by rw [Document.type?, found]; rfl)
        have made : renderer.withoutFrontMatter.headingId id = renderer.headingId id := by
          simp only [headingId, document_withoutFrontMatter, same]
        have anchorsAfter : renderer.withoutFrontMatter.headingAnchors = true := anchors
        simp only [anchorsAfter, made]
    | _ => rfl

/-- A piece that is written without the front matter is written by the same call with it. -/
theorem call_withoutFrontMatter (noRules : renderer.rules.attributeRules = #[])
    (held : renderer.document.Holds root)
    (reads : ∀ id, Rendered renderer.document.withoutFrontMatter id → renderer.headingAnchors = true →
      renderer.document.type? id = some .heading →
      renderer.document.withoutFrontMatter.textContent id = renderer.document.textContent id)
    {piece : Piece} (member : piece ∈ renderer.withoutFrontMatter.pieces root) :
    renderer.withoutFrontMatter.call piece = renderer.call piece := by
  have after : renderer.withoutFrontMatter.document.WellFormed := wellFormed.pruned.linked.wellFormed
  obtain ⟨owner, kind, rendered, found, own⟩ := exists_own after ((wellFormed.pruned.holds root).mpr held) .root member
  have attributes {id : NodeId} (tag : String) (base : AttributeSet) (allowed : id = owner ∨
      renderer.withoutFrontMatter.document.type? id = some .footnoteDefinition) :
      renderer.withoutFrontMatter.attributes id tag base = renderer.attributes id tag base := by
    rw [attributes_eq noRules, @attributes_eq renderer.withoutFrontMatter noRules]
    refine decorateBuiltin_withoutFrontMatter wellFormed base fun anchors type => ?_
    rcases allowed with rfl | footnote
    · exact reads id rendered anchors type
    · rw [document_withoutFrontMatter, wellFormed.pruned.type, type] at footnote
      cases footnote
  have made := (madeFor_own found piece own).mono fun _ => Or.imp_right And.right
  cases piece with
  | write call => rfl
  | openTag id tag base => simp only [call, attributes tag base made]
  | voidTag id tag base => simp only [call, attributes tag base made]

omit wellFormed in
theorem calls_congr {other : Renderer} {pieces : List Piece}
    (same : ∀ piece ∈ pieces, other.call piece = renderer.call piece) (state : RenderState) :
    other.calls pieces state = renderer.calls pieces state := by
  induction pieces generalizing state with
  | nil => rfl
  | cons piece rest ih =>
    have rest := ih fun later member => same later (List.mem_cons_of_mem _ member)
    simp only [calls, same piece (List.mem_cons_self ..), rest]

/-- Where no node notices the front matter, the document is written by the same calls without it. -/
theorem written_withoutFrontMatter (noRules : renderer.rules.attributeRules = #[]) (unnoticed : renderer.Unnoticed)
    (held : renderer.document.Holds root) : renderer.withoutFrontMatter.written = renderer.written := by
  rw [written, written, ← pieces_withoutFrontMatter wellFormed .root held fun below _ => unnoticed below]
  refine calls_congr (fun piece member => call_withoutFrontMatter wellFormed noRules held ?_ member) {}
  exact fun id rendered => (unnoticed id rendered).heading

end

end MarkdownHtml.Renderer
