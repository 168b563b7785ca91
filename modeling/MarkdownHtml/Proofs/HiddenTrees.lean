import MarkdownHtml.Proofs.ChildEdits
import MarkdownHtml.Proofs.FixedRules

/-! What is below a node with a text of its own does not show in the HTML. The built-in rules look at parents, at
siblings and at the last child of a node, but never into a child, except for the text of an image. So two documents
that differ only below such nodes, and in no image, are written by the same calls. -/

namespace MarkdownHtml

namespace NodeTree

mutual

/-- A tree without what is below the nodes of some types. An image keeps all that is in it. -/
def cut (stops : NodeType → Bool) : NodeTree → NodeTree
  | .node kind children =>
    if stops kind.type then .node kind []
    else if kind.type = .image then .node kind children
    else .node kind (cutRow stops children)

def cutRow (stops : NodeType → Bool) : List NodeTree → List NodeTree
  | [] => []
  | tree :: rest => cut stops tree :: cutRow stops rest

end

mutual

def kinds : NodeTree → List NodeKind
  | .node kind children => kind :: kindsOfRow children

def kindsOfRow : List NodeTree → List NodeKind
  | [] => []
  | tree :: rest => kinds tree ++ kindsOfRow rest

end

variable {stops : NodeType → Bool}

private theorem cutRow_eq (trees : List NodeTree) : cutRow stops trees = trees.map (cut stops) := by
  induction trees with
  | nil => rfl
  | cons tree rest ih => rw [cutRow, ih, List.map_cons]

private theorem kindsOfRow_eq (trees : List NodeTree) : kindsOfRow trees = trees.flatMap kinds := by
  induction trees with
  | nil => rfl
  | cons tree rest ih => rw [kindsOfRow, ih, List.flatMap_cons]

private theorem kind_cut (stops : NodeType → Bool) (tree : NodeTree) : (tree.cut stops).kind = tree.kind := by
  obtain ⟨kind, children⟩ := tree
  unfold cut
  split
  · rfl
  · split <;> rfl

end NodeTree

namespace Document

variable {doc first second : Document} {stops : NodeType → Bool} {a b : NodeId}

private theorem WellFormed.kind_tree (wellFormed : doc.WellFormed) (held : doc.Holds a) :
    (doc.tree a).kind = doc.kindOf a := by
  rw [wellFormed.tree_eq held]
  rfl

private theorem WellFormed.kinds_tree (wellFormed : doc.WellFormed) (held : doc.Holds a) :
    (doc.tree a).kinds = (doc.subtree a).map doc.kindOf := by
  induction a using wellFormed.child_induction with
  | step a ih =>
    rw [wellFormed.tree_eq held, wellFormed.subtree_eq held, NodeTree.kinds, NodeTree.kindsOfRow_eq, List.map_cons,
      List.map_flatMap, List.flatMap_map]
    congr 1
    exact List.flatMap_congr fun child member => ih child member (wellFormed.linked.holds_of_mem_childIds member)

private theorem WellFormed.textContent_eq (wellFormed : doc.WellFormed) (held : doc.Holds a) :
    doc.textContent a = (doc.tree a).kinds.foldl (fun text kind => text ++ plainText kind) "" := by
  rw [wellFormed.kinds_tree held, textContent, wellFormed.descendants_eq_subtree held, List.foldl_map]
  refine List.foldl_ext _ _ _ fun text id member => ?_
  have inside := ((wellFormed.mem_subtree held).mp member).holds held
  rw [kind?_eq_kindOf inside]
  rfl

private theorem WellFormed.map_kind_tree (wellFormed : doc.WellFormed) (a : NodeId) :
    ((doc.childIds a).map doc.tree).map NodeTree.kind = (doc.childIds a).map doc.kindOf := by
  rw [List.map_map]
  exact List.map_congr_left fun child member => wellFormed.kind_tree (wellFormed.linked.holds_of_mem_childIds member)

/-- Two nodes that stand alike: below parents of one kind and grandparents of one kind, and at the same ends of the
rows of their parents. -/
structure SamePlace (first second : Document) (a b : NodeId) : Prop where
  parent : (first.parent? a).bind first.kind? = (second.parent? b).bind second.kind?
  above : ((first.parent? a).bind first.parent?).bind first.kind? =
    ((second.parent? b).bind second.parent?).bind second.kind?
  leads : (first.parent? a).isSome → (first.previous? a).isNone = (second.previous? b).isNone
  trails : (first.parent? a).isSome → (first.next? a).isNone = (second.next? b).isNone

private theorem Rooted.samePlace (left : first.Rooted) (right : second.Rooted) : SamePlace first second root root where
  parent := by rw [left.top, right.top]; rfl
  above := by rw [left.top, right.top]; rfl
  leads := by rw [left.top]; exact nofun
  trails := by rw [left.top]; exact nofun

private theorem Linked.ends_of_childIds (linked : doc.Linked) {parent : NodeId} {i : Nat}
    (inside : i < (doc.childIds parent).length) :
    ((doc.previous? (doc.childIds parent)[i]).isNone ↔ i = 0) ∧
      ((doc.next? (doc.childIds parent)[i]).isNone ↔ (doc.childIds parent).length = i + 1) := by
  have split : doc.childIds parent =
      (doc.childIds parent).take i ++ (doc.childIds parent)[i] :: (doc.childIds parent).drop (i + 1) := by
    rw [List.getElem_cons_drop, List.take_append_drop]
  obtain ⟨previous, next⟩ := linked.neighbours split
  rw [previous, next, List.head?_drop]
  constructor
  · rw [Option.isNone_iff_eq_none, List.getLast?_eq_none_iff, List.take_eq_nil_iff]
    exact ⟨fun none_ => none_.resolve_right fun empty => by simp [empty] at inside, .inl⟩
  · rw [Option.isNone_iff_eq_none, List.getElem?_eq_none_iff]
    omega

private theorem SamePlace.children (place : SamePlace first second a b) (left : first.Linked) (right : second.Linked)
    (kinds : first.kind? a = second.kind? b) {related : NodeId → NodeId → Prop}
    (rows : List.Forall₂ related (first.childIds a) (second.childIds b)) :
    List.Forall₂ (fun c d => first.IsParent a c ∧ second.IsParent b d ∧ related c d ∧ SamePlace first second c d)
      (first.childIds a) (second.childIds b) := by
  obtain ⟨lengths, each⟩ := List.forall₂_iff_get.mp rows
  refine List.forall₂_iff_get.mpr ⟨lengths, fun i insideLeft insideRight => ?_⟩
  have underLeft := left.parent_of_mem_childIds (List.getElem_mem insideLeft)
  have underRight := right.parent_of_mem_childIds (List.getElem_mem insideRight)
  obtain ⟨headLeft, lastLeft⟩ := left.ends_of_childIds insideLeft
  obtain ⟨headRight, lastRight⟩ := right.ends_of_childIds insideRight
  refine ⟨underLeft, underRight, each i insideLeft insideRight, ?_, ?_, fun _ => ?_, fun _ => ?_⟩
  · simp only [List.get_eq_getElem, underLeft, underRight]
    exact kinds
  · simp only [List.get_eq_getElem, underLeft, underRight]
    exact place.parent
  · rw [Bool.eq_iff_iff]
    exact headLeft.trans headRight.symm
  · rw [← lengths] at lastRight
    rw [Bool.eq_iff_iff]
    exact lastLeft.trans lastRight.symm

section
variable (left : first.WellFormed) (right : second.WellFormed) (heldLeft : first.Holds a) (heldRight : second.Holds b)
include left right heldLeft heldRight

private theorem kindOf_of_cut (same : (first.tree a).cut stops = (second.tree b).cut stops) :
    first.kindOf a = second.kindOf b := by
  rw [← left.kind_tree heldLeft, ← right.kind_tree heldRight, ← NodeTree.kind_cut stops, same,
    NodeTree.kind_cut]

private theorem rows_of_cut (same : (first.tree a).cut stops = (second.tree b).cut stops)
    (open_ : stops (first.kindOf a).type = false) (noImage : (first.kindOf a).type ≠ .image) :
    List.Forall₂ (fun c d => (first.tree c).cut stops = (second.tree d).cut stops) (first.childIds a)
      (second.childIds b) := by
  have kinds := kindOf_of_cut left right heldLeft heldRight same
  rw [left.tree_eq heldLeft, right.tree_eq heldRight, NodeTree.cut, NodeTree.cut, ← kinds, open_] at same
  simp only [Bool.false_eq_true, if_false, noImage, NodeTree.cutRow_eq, List.map_map] at same
  have rows := List.forall₂_eq_eq_eq.symm ▸ (NodeTree.node.inj same).2
  exact List.forall₂_map_right_iff.mp (List.forall₂_map_left_iff.mp rows)

private theorem tree_of_cut (same : (first.tree a).cut stops = (second.tree b).cut stops)
    (open_ : stops (first.kindOf a).type = false) (image : (first.kindOf a).type = .image) :
    first.tree a = second.tree b := by
  have kinds := kindOf_of_cut left right heldLeft heldRight same
  rw [left.tree_eq heldLeft, right.tree_eq heldRight, NodeTree.cut, NodeTree.cut, ← kinds, open_] at same
  rw [left.tree_eq heldLeft, right.tree_eq heldRight, ← kinds]
  simpa only [Bool.false_eq_true, if_false, image, if_true] using same

end

end Document

namespace Renderer
open Document (root SamePlace)
open Html

variable {renderer : Renderer} {other : Document} {a b : NodeId}

def withDocument (renderer : Renderer) (document : Document) : Renderer := { renderer with document }

@[simp] theorem document_withDocument : (renderer.withDocument other).document = other := rfl

@[simp] theorem options_withDocument : (renderer.withDocument other).options = renderer.options := rfl

@[simp] theorem imageAttributes_withDocument :
    (renderer.withDocument other).imageAttributes = renderer.imageAttributes := rfl

/-- Two nodes of which the built-in rules see the same: what they are, where they stand, what is read as the text and
the attributes of an image, and whether the last child is a paragraph. -/
structure SeenAlike (first second : Document) (a b : NodeId) : Prop where
  kind : first.kind? a = second.kind? b
  place : SamePlace first second a b
  image : first.type? a = some .image →
    first.textContent a = second.textContent b ∧ imageAttributesOf first a = imageAttributesOf second b
  last : first.type? a = some .footnoteDefinition →
    (first.lastChild? a).bind first.type? = (second.lastChild? b).bind second.type?

private theorem decorated_withDocument (kind : renderer.document.kind? a = other.kind? b)
    (image : renderer.document.type? a = some .image →
      imageAttributesOf renderer.document a = imageAttributesOf other b)
    (base : AttributeSet) : (renderer.withDocument other).decorated b base = renderer.decorated a base := by
  unfold decorated
  rw [document_withDocument, ← kind]
  cases found : renderer.document.kind? a with
  | none => rfl
  | some found_ =>
    cases found_ with
    | image destination title => rw [image (by rw [Document.type?, found]; rfl), imageAttributes_withDocument]
    | _ => rfl

private theorem bind_type? (doc : Document) (found : Option NodeId) :
    found.bind doc.type? = (found.bind doc.kind?).map NodeKind.type := by
  cases found <;> rfl

section
variable (alike : SeenAlike renderer.document other a b)
include alike

private theorem omitsParagraphTag_withDocument :
    (renderer.withDocument other).omitsParagraphTag b = renderer.omitsParagraphTag a := by
  have tight : inTightList other b = inTightList renderer.document a := by
    rw [inTightList, inTightList, alike.place.above]
  have lone : isLoneTopLevel other b = isLoneTopLevel renderer.document a := by
    unfold isLoneTopLevel
    rw [bind_type?, bind_type?, alike.place.parent]
    cases under : renderer.document.parent? a with
    | none =>
      have above := alike.place.parent
      rw [under, Option.bind_none] at above
      rw [← above]
      rfl
    | some parent => rw [alike.place.leads (by rw [under]; rfl), alike.place.trails (by rw [under]; rfl)]
  simp only [omitsParagraphTag, document_withDocument, options_withDocument, tight, lone]

private theorem opening_withDocument {kind : NodeKind} (found : renderer.document.kind? a = some kind) :
    ((renderer.withDocument other).opening b kind).map (renderer.withDocument other).settled =
      (renderer.opening a kind).map renderer.settled := by
  have same := decorated_withDocument alike.kind fun image => (alike.image image).2
  cases kind with
  | paragraph =>
    rw [opening, opening, omitsParagraphTag_withDocument alike]
    split <;> simp only [List.map_nil, List.map_cons, settled, same]
  | image destination title =>
    have text := (alike.image (by rw [Document.type?, found]; rfl)).1
    simp only [opening, List.map_nil, List.map_cons, settled, same, document_withDocument, options_withDocument, text]
  | htmlBlock literal => cases escaped : renderer.options.escapeHtml <;> simp [opening, escaped, settled, same]
  | htmlInline literal => cases escaped : renderer.options.escapeHtml <;> simp [opening, escaped, settled]
  | _ => simp only [opening, codePieces, List.map_nil, List.map_cons, settled, same, options_withDocument]

end

private theorem paragraphBackrefs_of_none (none_ : (renderer.document.parent? a).bind renderer.document.kind? = none) :
    renderer.paragraphBackrefs a = [] := by
  unfold paragraphBackrefs
  cases under : renderer.document.parent? a with
  | none => rfl
  | some parent =>
    rw [under, Option.bind_some] at none_
    have type : renderer.document.type? parent = none := by rw [Document.type?, none_]; rfl
    simp [type]

private theorem backrefsPieces_withDocument (kind : renderer.document.kind? a = other.kind? b) :
    ((renderer.withDocument other).backrefsPieces b).map (renderer.withDocument other).settled =
      (renderer.backrefsPieces a).map renderer.settled := by
  unfold backrefsPieces
  rw [document_withDocument, ← kind]
  cases found : renderer.document.kind? a with
  | none => rfl
  | some found_ =>
    cases found_ with
    | footnoteDefinition label number references =>
      have same := decorated_withDocument kind fun image => by rw [Document.type?, found] at image; cases image
      simp only [List.map_flatMap]
      refine List.flatMap_congr fun earlier _ => ?_
      unfold backrefPieces
      by_cases later : earlier + 1 > 1 <;> by_cases more : earlier + 1 < references <;>
        simp [later, more, settled, same]
    | _ => rfl

section
variable (alike : SeenAlike renderer.document other a b)
include alike

private theorem paragraphBackrefs_withDocument :
    ((renderer.withDocument other).paragraphBackrefs b).map (renderer.withDocument other).settled =
      (renderer.paragraphBackrefs a).map renderer.settled := by
  have kinds := alike.place.parent
  cases above : (renderer.document.parent? a).bind renderer.document.kind? with
  | none =>
    have aboveOther : (other.parent? b).bind other.kind? = none := kinds.symm.trans above
    rw [paragraphBackrefs_of_none above, @paragraphBackrefs_of_none (renderer.withDocument other) b aboveOther]
    rfl
  | some kind =>
    obtain ⟨parent, under, found⟩ := Option.bind_eq_some_iff.mp above
    obtain ⟨parentOther, underOther, foundOther⟩ := Option.bind_eq_some_iff.mp (kinds.symm.trans above)
    have trails := alike.place.trails (by rw [under]; rfl)
    have types : other.type? parentOther = renderer.document.type? parent := by
      rw [Document.type?, Document.type?, found, foundOther]
    simp only [paragraphBackrefs, document_withDocument, under, underOther, types, trails]
    split
    · rw [List.map_cons, List.map_cons, backrefsPieces_withDocument (found.trans foundOther.symm)]
      rfl
    · rfl

private theorem definitionBackrefs_withDocument (type : renderer.document.type? a = some .footnoteDefinition) :
    ((renderer.withDocument other).definitionBackrefs b).map (renderer.withDocument other).settled =
      (renderer.definitionBackrefs a).map renderer.settled := by
  unfold definitionBackrefs
  rw [document_withDocument, ← alike.last type]
  split
  · rfl
  · rw [List.map_cons, List.map_cons, backrefsPieces_withDocument alike.kind]
    rfl

private theorem closing_withDocument {kind : NodeKind} (found : renderer.document.kind? a = some kind) :
    ((renderer.withDocument other).closing b kind).map (renderer.withDocument other).settled =
      (renderer.closing a kind).map renderer.settled := by
  cases kind with
  | paragraph =>
    unfold closing
    rw [List.map_append, List.map_append, paragraphBackrefs_withDocument alike, omitsParagraphTag_withDocument alike]
    split <;> rfl
  | footnoteDefinition label number references =>
    have type : renderer.document.type? a = some .footnoteDefinition := by rw [Document.type?, found]; rfl
    unfold closing
    rw [List.map_append, List.map_append, definitionBackrefs_withDocument alike type]
    rfl
  | _ => rfl

end

private theorem map_of_forall₂ {α β γ : Type} {f : α → γ} {g : β → γ} {left : List α} {right : List β}
    (rows : List.Forall₂ (fun a b => f a = g b) left right) : left.map f = right.map g := by
  induction rows with
  | nil => rfl
  | cons same _ ih => rw [List.map_cons, List.map_cons, same, ih]

private theorem flatMap_of_forall₂ {α β γ : Type} {f : α → List γ} {g : β → List γ} {left : List α} {right : List β}
    (rows : List.Forall₂ (fun a b => f a = g b) left right) : left.flatMap f = right.flatMap g := by
  rw [List.flatMap_def, List.flatMap_def, map_of_forall₂ rows]

def attributesIn : NodeKind → List (String × String)
  | .imageAttributes attributes => attributes
  | _ => []

private theorem imageAttributesOf_eq {doc : Document} (wellFormed : doc.WellFormed) (image : NodeId) :
    imageAttributesOf doc image = ((doc.childIds image).map doc.kindOf).flatMap attributesIn := by
  rw [imageAttributesOf, List.flatMap_map]
  refine List.flatMap_congr fun child member => ?_
  rw [Document.kind?_eq_kindOf (wellFormed.linked.holds_of_mem_childIds member)]
  cases doc.kindOf child <;> rfl

private theorem lastChild_type {doc : Document} (wellFormed : doc.WellFormed) (id : NodeId) :
    (doc.lastChild? id).bind doc.type? = ((doc.childIds id).map doc.kindOf).getLast?.map NodeKind.type := by
  rw [← wellFormed.linked.getLast?_childIds, List.getLast?_map]
  cases last : (doc.childIds id).getLast? with
  | none => rfl
  | some child =>
    have held := wellFormed.linked.holds_of_mem_childIds (List.mem_of_getLast? last)
    rw [Option.bind_some, Document.type?, Document.kind?_eq_kindOf held]
    rfl

section
variable {stops : NodeType → Bool} {first second : Document} (left : first.WellFormed) (right : second.WellFormed)
  (heldLeft : first.Holds a) (heldRight : second.Holds b)
  (same : (first.tree a).cut stops = (second.tree b).cut stops) (open_ : stops (first.kindOf a).type = false)
include left right heldLeft heldRight same open_

/-- A node that is not cut off is seen alike in both documents, if it stands alike. -/
theorem seenAlike (place : SamePlace first second a b) : SeenAlike first second a b where
  kind := by
    rw [Document.kind?_eq_kindOf heldLeft, Document.kind?_eq_kindOf heldRight,
      Document.kindOf_of_cut left right heldLeft heldRight same]
  place := place
  image type := by
    rw [Document.type?, Document.kind?_eq_kindOf heldLeft] at type
    have trees := Document.tree_of_cut left right heldLeft heldRight same open_ (Option.some.inj type)
    have rows := trees
    rw [left.tree_eq heldLeft, right.tree_eq heldRight] at rows
    rw [left.textContent_eq heldLeft, right.textContent_eq heldRight, trees, imageAttributesOf_eq left,
      imageAttributesOf_eq right, ← left.map_kind_tree, ← right.map_kind_tree, (NodeTree.node.inj rows).2]
    exact ⟨rfl, rfl⟩
  last type := by
    rw [Document.type?, Document.kind?_eq_kindOf heldLeft] at type
    have noImage : (first.kindOf a).type ≠ .image := fun image => by
      rw [Option.map_some, image] at type
      cases type
    have rows := (Document.rows_of_cut left right heldLeft heldRight same open_ noImage).imp
      fun c d cut => show (first.tree c).kind = (second.tree d).kind by
        rw [← NodeTree.kind_cut stops, cut, NodeTree.kind_cut]
    rw [lastChild_type left, lastChild_type right, ← left.map_kind_tree, ← right.map_kind_tree, List.map_map,
      List.map_map]
    exact congrArg (fun kinds => (List.getLast? kinds).map NodeKind.type) (map_of_forall₂ rows)

end

private theorem noImage_of_descent {kind : NodeKind} (descends : descent kind = .children) : kind.type ≠ .image := by
  cases kind <;> simp_all [descent, NodeKind.type]

private theorem isDeferred_alike {first second : Document} (kinds : first.kind? a = second.kind? b)
    (place : SamePlace first second a b) : isDeferred first a = isDeferred second b := by
  rw [isDeferred, isDeferred, bind_type?, bind_type?, place.parent, Document.type?, Document.type?, kinds]

section
variable {below : NodeId → List Piece} {belowOther : NodeId → List Piece}
  (rows : List.Forall₂ (fun c d => isDeferred renderer.document c = isDeferred other d ∧
    (below c).map renderer.settled = (belowOther d).map (renderer.withDocument other).settled)
    (renderer.document.childIds a) (other.childIds b))
include rows

private theorem inPlace_withDocument : ((renderer.inPlace a).flatMap below).map renderer.settled =
    (((renderer.withDocument other).inPlace b).flatMap belowOther).map (renderer.withDocument other).settled := by
  have kept := List.rel_filter (p := fun c => !isDeferred renderer.document c) (q := fun d => !isDeferred other d)
    (fun c d both => by simp [both.1]) rows
  rw [List.map_flatMap, List.map_flatMap]
  exact flatMap_of_forall₂ (kept.imp fun c d both => both.2)

private theorem ending_withDocument {kind : NodeKind} (alike : SeenAlike renderer.document other a b)
    (found : renderer.document.kind? a = some kind) : (renderer.ending below a kind).map renderer.settled =
      ((renderer.withDocument other).ending belowOther b kind).map (renderer.withDocument other).settled := by
  have waiting : List.Forall₂ _ (renderer.deferred a) ((renderer.withDocument other).deferred b) :=
    List.rel_filter (p := isDeferred renderer.document) (q := isDeferred other) (fun c d both => by simp [both.1]) rows
  have same := decorated_withDocument alike.kind fun image => (alike.image image).2
  cases kind with
  | document =>
    have empty_ : (renderer.deferred a).isEmpty = ((renderer.withDocument other).deferred b).isEmpty := by
      rw [Bool.eq_iff_iff, List.isEmpty_iff_length_eq_zero, List.isEmpty_iff_length_eq_zero, waiting.length_eq]
    rw [ending, ending, empty_]
    split
    · rfl
    · simp only [List.map_append, List.map_flatMap, flatMap_of_forall₂ (waiting.imp fun c d both => both.2)]
      simp [sectionOpening, sectionClosing, settled, same]
  | _ => exact (closing_withDocument alike found).symm

end

private theorem fixedPieces_withDocument {texts : NodeType → Option (List Write)} (left : renderer.document.WellFormed)
    (right : other.WellFormed) (heldLeft : renderer.document.Holds a) (heldRight : other.Holds b)
    (place : SamePlace renderer.document other a b)
    (same : (renderer.document.tree a).cut (fun type => (texts type).isSome) =
      (other.tree b).cut fun type => (texts type).isSome) :
    ((renderer.withDocument other).fixedPieces texts b).map (renderer.withDocument other).settled =
      (renderer.fixedPieces texts a).map renderer.settled := by
  induction a using left.child_induction generalizing b with
  | step a ih =>
    have kinds := Document.kindOf_of_cut left right heldLeft heldRight same
    have found := Document.kind?_eq_kindOf heldLeft
    have foundOther : (renderer.withDocument other).document.kind? b = some (renderer.document.kindOf a) := by
      rw [kinds]
      exact Document.kind?_eq_kindOf heldRight
    rw [fixedPieces_eq left heldLeft, @fixedPieces_eq (renderer.withDocument other) _ right b heldRight, fixedFrom,
      fixedFrom, Document.type?, Document.type?, found, foundOther, Option.map_some, Option.bind_some]
    cases given : texts (renderer.document.kindOf a).type with
    | some calls =>
      simp only [List.map_map]
      rfl
    | none =>
      have open_ : (texts (renderer.document.kindOf a).type).isSome = false := by rw [given]; rfl
      have alike := seenAlike left right heldLeft heldRight same open_ place
      simp only [piecesFrom, found, foundOther, List.map_append, opening_withDocument alike found]
      cases descends : descent (renderer.document.kindOf a) with
      | done => rfl
      | children =>
        have inside := Document.rows_of_cut left right heldLeft heldRight same open_ (noImage_of_descent descends)
        have rows := place.children left.linked right.linked alike.kind inside
        have written : List.Forall₂ _ _ _ := rows.imp fun c d both => by
          obtain ⟨under, underOther, cut, stands⟩ := both
          have heldC := Document.holds_of_parent under
          have heldD := Document.holds_of_parent underOther
          have kinds : renderer.document.kind? c = other.kind? d := by
            rw [Document.kind?_eq_kindOf heldC, Document.kind?_eq_kindOf heldD,
              Document.kindOf_of_cut left right heldC heldD cut]
          exact And.intro (isDeferred_alike kinds stands)
            (ih c (left.mem_childIds.mpr under) heldC heldD stands cut).symm
        simp only [List.map_append, ← inPlace_withDocument written, ← ending_withDocument written alike found]

/-- Nothing below nodes that write fixed texts shows: two documents that differ only there, and in no image, have the
same HTML. -/
theorem renderDocument_hidden {first second : Document} (left : first.Rooted) (right : second.Rooted)
    {extensions : List Extension} (noAnchors : Extension.headingAnchors ∉ extensions) (options : RendererOptions)
    {rules : RuleSet} {texts : NodeType → Option (List Write)} (fixed : rules.Fixed texts)
    (same : (first.tree root).cut (fun type => (texts type).isSome) =
      (second.tree root).cut fun type => (texts type).isSome) :
    ∃ html, renderDocument first extensions options rules = some (.ok html) ∧
      renderDocument second extensions options rules = some (.ok html) := by
  have leftFormed := left.linked.wellFormed
  have rightFormed := right.linked.wellFormed
  have writes := @fixedPieces_withDocument (ofExtensions first extensions options rules) second root root texts
    leftFormed rightFormed left.held right.held (left.samePlace right) same
  refine ⟨_, renderDocument_fixed leftFormed left.held noAnchors options fixed, ?_⟩
  rw [renderDocument_fixed rightFormed right.held noAnchors options fixed, ← writes]
  rfl

private theorem tree_of_kind {doc : Document} (wellFormed : doc.WellFormed) {id : NodeId} {kind : NodeKind}
    {ids : List NodeId} (found : doc.kind? id = some kind) (row : doc.childIds id = ids) :
    doc.tree id = .node kind (ids.map doc.tree) := by
  rw [wellFormed.tree_eq (Document.holds_iff_kind.mpr ⟨kind, found⟩), Document.kindOf_eq found, row]

theorem renderDocument_hidden_quote :
    let quote := (Document.empty.appendNew root .blockQuote).2
    let first := ((quote.appendNew ⟨1⟩ (.text "a")).2.appendNew root .thematicBreak).2
    let second := (quote.appendNew root .thematicBreak).2
    let rules := RuleSet.addRenderRules {} [(.singleton .blockQuote, fixedRule [.raw "<aside>hidden</aside>"])]
    let html := "<aside>hidden</aside>\n<hr />\n"
    first.Rooted ∧ second.Rooted ∧ first.tree root ≠ second.tree root ∧
      renderDocument first [.imageAttributes] {} rules = some (.ok html) ∧
      renderDocument second [.imageAttributes] {} rules = some (.ok html) := by
  intro quote first second rules html
  have quoted : quote.Rooted := Document.rooted_empty.appendNew (by decide) _
  have left : first.Rooted := (quoted.appendNew (by decide) _).appendNew (by decide) _
  have right : second.Rooted := quoted.appendNew (by decide) _
  have firstTree : first.tree root =
      .node .document [.node .blockQuote [.node (.text "a") []], .node .thematicBreak []] := by
    have formed := left.linked.wellFormed
    simp only [@tree_of_kind first formed root .document [⟨1⟩, ⟨3⟩] (by decide +kernel) (by decide +kernel),
      @tree_of_kind first formed ⟨1⟩ .blockQuote [⟨2⟩] (by decide +kernel) (by decide +kernel),
      @tree_of_kind first formed ⟨2⟩ (.text "a") [] (by decide +kernel) (by decide +kernel),
      @tree_of_kind first formed ⟨3⟩ .thematicBreak [] (by decide +kernel) (by decide +kernel), List.map_cons,
      List.map_nil]
  have secondTree : second.tree root = .node .document [.node .blockQuote [], .node .thematicBreak []] := by
    have formed := right.linked.wellFormed
    simp only [@tree_of_kind second formed root .document [⟨1⟩, ⟨2⟩] (by decide +kernel) (by decide +kernel),
      @tree_of_kind second formed ⟨1⟩ .blockQuote [] (by decide +kernel) (by decide +kernel),
      @tree_of_kind second formed ⟨2⟩ .thematicBreak [] (by decide +kernel) (by decide +kernel), List.map_cons,
      List.map_nil]
  have fixed := RuleSet.fixed_addRenderRules [(.singleton .blockQuote, [.raw "<aside>hidden</aside>"])]
  have noAnchors : Extension.headingAnchors ∉ [Extension.imageAttributes] := by decide
  obtain ⟨found, plain, other⟩ :=
    renderDocument_hidden left right noAnchors {} fixed (by rw [firstTree, secondTree]; rfl)
  have output : ((ofExtensions first [.imageAttributes] {} rules).render 9 root {}).map
      (fun outcome => (outcome.1.map fun _ => outcome.2.writer.html).toOption) = some (some html) := by decide +kernel
  obtain rfl := Except.ok.inj (ok_of_render plain output)
  exact ⟨left, right, by rw [firstTree, secondTree]; simp, plain, other⟩

end Renderer

end MarkdownHtml
