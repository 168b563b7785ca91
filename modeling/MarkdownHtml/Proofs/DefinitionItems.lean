import MarkdownHtml.Proofs.FootnoteLinks
import MarkdownHtml.Proofs.FrontMatterPieces
import MarkdownHtml.Proofs.PlacedPieces

/-! The item of a footnote definition in the HTML of a document. Its links back are written at the end of its last
paragraph or behind all of its children, and it is rendered in its place or at the end of the document. Wherever that
is, there is one item with one link back to each reference. -/

namespace MarkdownHtml.Html

/-- What a call does to the tags that are open, innermost first. -/
def Write.nest (stack : List String) : Write → Option (List String)
  | .raw _ | .text _ | .line | .voidTag .. => some stack
  | .tag name | .tagWith name _ => some (if name = "input" then stack else name :: stack)
  | .closeTag name =>
    match stack with
    | top :: below => if top = name then some below else none
    | [] => none

end MarkdownHtml.Html

namespace MarkdownHtml.Renderer
open Document (root)
open Html RenderM

/-- The attributes of a call that opens a tag for a node. -/
def tagFor (id : NodeId) (tag : String) : Option NodeId × Write → Option AttributeSet
  | (some owner, .tagWith name attributes) => if owner = id ∧ name = tag then some attributes else none
  | _ => none

/-- The attributes of all tags of a name that are opened for a node, in order. -/
def tagsFor (id : NodeId) (tag : String) (calls : List (Option NodeId × Write)) : List AttributeSet :=
  calls.filterMap (tagFor id tag)

/-- Calls that close each tag they open, and no other one. -/
def ClosesOwnTags (calls : List (Option NodeId × Write)) : Prop := (calls.map (·.2)).foldlM Write.nest [] = some []

/-- The tag of a definition, and its links back, first to last. -/
def itemAttributes (label : String) : AttributeSet := .ofList [("id", definitionId label)]

def linksBack (label : String) (number references : Nat) : List AttributeSet :=
  (List.range references).map fun earlier => backrefAttributes label number (earlier + 1)

/-- One item is written for a definition, and one link back to each reference, all of them inside of the item. -/
structure WritesItem (calls : List (Option NodeId × Write)) (id : NodeId) (label : String) (number references : Nat) :
    Prop where
  item : tagsFor id "li" calls = [itemAttributes label]
  links : tagsFor id "a" calls = linksBack label number references
  enclosed : ∃ before inside after,
    calls = before ++ (some id, .tagWith "li" (itemAttributes label)) :: inside ++ (none, .closeTag "li") :: after ∧
      ClosesOwnTags inside ∧ tagsFor id "a" inside = linksBack label number references

def Piece.tagFor (id : NodeId) (tag : String) : Piece → Option AttributeSet
  | .openTag owner name base => if owner = id ∧ name = tag then some base else none
  | _ => none

variable {renderer : Renderer}

@[simp] theorem Piece.tagFor_write (id : NodeId) (tag : String) (call : Write) :
    (Piece.write call).tagFor id tag = none := rfl

private theorem Piece.tagFor_of_apart {id : NodeId} {piece : Piece} (apart : piece.MadeFor (· ≠ id)) (tag : String) :
    piece.tagFor id tag = none := by
  cases piece with
  | openTag owner name base => exact if_neg fun same => apart same.1
  | _ => rfl

private theorem filterMap_tagFor_of_apart {id : NodeId} {pieces : List Piece}
    (apart : ∀ piece ∈ pieces, piece.MadeFor (· ≠ id)) (tag : String) : pieces.filterMap (Piece.tagFor id tag) = [] :=
  List.filterMap_eq_nil_iff.mpr fun piece member => Piece.tagFor_of_apart (apart piece member) tag

section
variable (noRules : renderer.rules.attributeRules = #[])
include noRules

private theorem exists_calls_append (first second : List Piece) (state : RenderState) :
    ∃ after, renderer.calls (first ++ second) state = renderer.calls first state ++ renderer.calls second after := by
  induction first generalizing state with
  | nil => exact ⟨state, rfl⟩
  | cons piece rest ih =>
    obtain ⟨made, middle, ran, _⟩ := settles_call noRules piece state
    obtain ⟨after, split⟩ := ih { middle with writer := middle.writer.perform made.2 }
    exact ⟨after, by simp only [List.cons_append, calls, ran, split]⟩

private theorem nest_calls {pieces : List Piece} {before after : List String}
    (shift : pieces.foldlM Piece.shift before = some after) (state : RenderState) :
    ((renderer.calls pieces state).map (·.2)).foldlM Write.nest before = some after := by
  induction pieces generalizing before state with
  | nil => exact shift
  | cons piece rest ih =>
    obtain ⟨made, middle, ran, _⟩ := settles_call noRules piece state
    rw [List.foldlM_cons] at shift
    obtain ⟨between, first, later⟩ := Option.bind_eq_some_iff.mp shift
    have here : made.2.nest before = some between := by
      cases piece with
      | write call =>
        cases ran
        cases call <;> first | exact first | cases first
      | openTag id tag base =>
        obtain ⟨_, _, _, made_⟩ := ok_of_bind ran
        cases made_
        exact first
      | voidTag id tag base =>
        obtain ⟨_, _, _, made_⟩ := ok_of_bind ran
        cases made_
        exact first
    simp only [calls, ran, List.map_cons, List.foldlM_cons, here, Option.bind_eq_bind, Option.bind_some]
    exact ih later _

section
variable {id : NodeId} {kind : NodeKind} (found : renderer.document.kind? id = some kind)
  (undecorated : Undecorated kind)
include found undecorated

/-- The tags of a node whose attributes nothing decorates are those of its pieces, in their order. -/
theorem tagsFor_calls (tag : String) (pieces : List Piece) (state : RenderState) :
    tagsFor id tag (renderer.calls pieces state) = pieces.filterMap (Piece.tagFor id tag) := by
  induction pieces generalizing state with
  | nil => rfl
  | cons piece rest ih =>
    obtain ⟨made, middle, ran, _⟩ := settles_call noRules piece state
    have here : tagFor id tag made = piece.tagFor id tag := by
      cases piece with
      | write call =>
        cases ran
        rfl
      | openTag owner name base =>
        by_cases same : owner = id
        · subst same
          rw [call_openTag noRules found undecorated] at ran
          cases ran
          rfl
        · obtain ⟨_, _, _, made_⟩ := ok_of_bind ran
          cases made_
          simp only [tagFor, Piece.tagFor, same, false_and, if_false]
      | voidTag owner name base =>
        obtain ⟨_, _, _, made_⟩ := ok_of_bind ran
        cases made_
        rfl
    have rest_ := ih { middle with writer := middle.writer.perform made.2 }
    rw [tagsFor] at rest_ ⊢
    simp only [calls, ran, List.filterMap_cons, here, rest_]

private theorem calls_openTag (tag : String) (base : AttributeSet) (rest : List Piece) (state : RenderState) :
    renderer.calls (.openTag id tag base :: rest) state = (some id, .tagWith tag base) ::
      renderer.calls rest { state with writer := state.writer.perform (.tagWith tag base) } := by
  rw [calls, call_openTag noRules found undecorated]
  rfl

private theorem exists_calls_enclosed (front inside back : List Piece) (tag : String) (base : AttributeSet)
    (state : RenderState) : ∃ middle last,
      renderer.calls (front ++ .openTag id tag base :: inside ++ .closeTag tag :: back) state =
        renderer.calls front state ++ (some id, .tagWith tag base) :: renderer.calls inside middle ++
          (none, .closeTag tag) :: renderer.calls back last := by
  rw [List.append_assoc, List.cons_append]
  obtain ⟨opened, first⟩ :=
    exists_calls_append noRules front (.openTag id tag base :: (inside ++ .closeTag tag :: back)) state
  rw [first, calls_openTag noRules found undecorated]
  obtain ⟨closed, second⟩ := exists_calls_append noRules inside (.closeTag tag :: back)
    { opened with writer := opened.writer.perform (.tagWith tag base) }
  rw [second]
  simp only [List.append_assoc, List.cons_append]
  exact ⟨_, { closed with writer := closed.writer.perform (.closeTag tag) }, rfl⟩

end

end

private theorem filterMap_backrefPieces (id : NodeId) (label : String) (number references occurrence : Nat) :
    (backrefPieces id label number references occurrence).filterMap (Piece.tagFor id "a") =
        [backrefAttributes label number occurrence] ∧
      (backrefPieces id label number references occurrence).filterMap (Piece.tagFor id "li") = [] := by
  by_cases later : occurrence > 1 <;> by_cases more : occurrence < references <;>
    simp [backrefPieces, later, more, Piece.tagFor, backrefAttributes]

section
variable {id : NodeId} {label : String} {number references : Nat}
  (found : renderer.document.kind? id = some (.footnoteDefinition label number references))
include found

private theorem links_backrefsPieces :
    (renderer.backrefsPieces id).filterMap (Piece.tagFor id "a") = linksBack label number references := by
  simp only [backrefsPieces, found, List.filterMap_flatMap, filterMap_backrefPieces, linksBack]
  exact List.flatMap_pure_eq_map ..

private theorem item_backrefsPieces : (renderer.backrefsPieces id).filterMap (Piece.tagFor id "li") = [] := by
  simp only [backrefsPieces, found, List.filterMap_flatMap, filterMap_backrefPieces]
  exact List.flatMap_eq_nil_iff.mpr fun _ _ => rfl

end

section
variable (wellFormed : renderer.document.WellFormed)
include wellFormed

private theorem finalParagraph_iff {parent id : NodeId} : renderer.FinalParagraph parent id ↔
    renderer.document.lastChild? parent = some id ∧ renderer.document.type? id = some .paragraph := by
  rw [FinalParagraph, wellFormed.linked.last, and_assoc]

private theorem filterMap_below {id : NodeId} {lowers : List NodeId}
    (above : ∀ lower ∈ lowers, renderer.document.Ancestor id lower)
    (others : ∀ lower ∈ lowers, ¬ renderer.FinalParagraph id lower) (tag : String) :
    (lowers.flatMap renderer.pieces).filterMap (Piece.tagFor id tag) = [] := by
  refine filterMap_tagFor_of_apart (fun piece member => ?_) tag
  obtain ⟨lower, inside, here⟩ := List.mem_flatMap.mp member
  refine (madeFor_pieces wellFormed (above lower inside).holds piece here).mono fun owner near same => ?_
  subst same
  rcases near with within | final
  · exact wellFormed.noOwnAncestor owner ((above lower inside).trans_left within)
  · exact others lower inside final

private theorem filterMap_finalParagraph {id last : NodeId}
    (type : renderer.document.type? id = some .footnoteDefinition) (final : renderer.FinalParagraph id last)
    (tag : String) : (renderer.pieces last).filterMap (Piece.tagFor id tag) =
      (renderer.backrefsPieces id).filterMap (Piece.tagFor id tag) := by
  obtain ⟨under, ends, paragraph⟩ := final
  have different : last ≠ id := by
    rintro rfl
    exact wellFormed.noOwnAncestor last (.single under)
  have opens : (renderer.opening last .paragraph).filterMap (Piece.tagFor id tag) = [] := by
    refine filterMap_tagFor_of_apart (fun piece member => ?_) tag
    exact (madeFor_opening last .paragraph piece member).mono fun owner same => ne_of_eq_of_ne same different
  have below : ∀ lower ∈ renderer.inPlace last, renderer.document.parent? lower = some last :=
    fun lower placed => wellFormed.mem_childIds.mp (inPlace_subset placed)
  have inside := filterMap_below wellFormed (fun lower placed => .tail (.single under) (below lower placed))
    (fun lower placed final => different (Option.some.inj ((below lower placed).symm.trans final.1))) tag
  have closes : (renderer.closing last .paragraph).filterMap (Piece.tagFor id tag) =
      (renderer.backrefsPieces id).filterMap (Piece.tagFor id tag) := by
    rw [closing_paragraph, paragraphBackrefs_last under type ends]
    cases renderer.omitsParagraphTag last <;> simp [List.filterMap_cons]
  rw [pieces_eq wellFormed (Document.holds_of_parent under), piecesFrom, Document.kind?_paragraph paragraph]
  simp only [descent, ending, List.filterMap_append, opens, inside, closes, List.nil_append]

private theorem filterMap_inside {id : NodeId} (type : renderer.document.type? id = some .footnoteDefinition)
    (tag : String) :
    ((renderer.document.childIds id).flatMap renderer.pieces ++ renderer.definitionBackrefs id).filterMap
      (Piece.tagFor id tag) = (renderer.backrefsPieces id).filterMap (Piece.tagFor id tag) := by
  have above : ∀ child ∈ renderer.document.childIds id, renderer.document.Ancestor id child :=
    fun child member => .single (wellFormed.mem_childIds.mp member)
  by_cases last : (renderer.document.lastChild? id).bind renderer.document.type? = some .paragraph
  · obtain ⟨child, trailing, paragraph⟩ := Option.bind_eq_some_iff.mp last
    have final : renderer.FinalParagraph id child := (finalParagraph_iff wellFormed).mpr ⟨trailing, paragraph⟩
    have ends : (renderer.document.childIds id).getLast? = some child :=
      (wellFormed.linked.getLast?_childIds id).trans trailing
    obtain ⟨front, row⟩ := List.getLast?_eq_some_iff.mp ends
    have distinct := wellFormed.linked.nodup_childIds id
    rw [row] at above distinct
    have others : ∀ other ∈ front, ¬ renderer.FinalParagraph id other := by
      intro other inside otherFinal
      have same : some other = some child := ((finalParagraph_iff wellFormed).mp otherFinal).1.symm.trans trailing
      exact (List.nodup_append.mp distinct).2.2 other inside child (List.mem_singleton_self _) (Option.some.inj same)
    have before := filterMap_below wellFormed (fun other inside => above other (List.mem_append_left _ inside)) others tag
    rw [definitionBackrefs_of_paragraph last, row, List.append_nil, List.flatMap_append, List.filterMap_append, before,
      List.flatMap_singleton, filterMap_finalParagraph wellFormed type final]
    rfl
  · have others : ∀ child ∈ renderer.document.childIds id, ¬ renderer.FinalParagraph id child := by
      intro child _ final
      obtain ⟨trailing, paragraph⟩ := (finalParagraph_iff wellFormed).mp final
      exact last (by rw [trailing, Option.bind_some, paragraph])
    rw [definitionBackrefs_of_no_paragraph last, List.filterMap_append, filterMap_below wellFormed above others]
    rfl

def itemPieces (renderer : Renderer) (id : NodeId) : List Piece :=
  .line :: ((renderer.document.childIds id).flatMap renderer.pieces ++ renderer.definitionBackrefs id) ++ [.line]

private theorem shift_itemPieces (id : NodeId) : (renderer.itemPieces id).foldlM Piece.shift [] = some [] := by
  have children : ((renderer.document.childIds id).flatMap renderer.pieces).foldlM Piece.shift [] = some [] :=
    foldlM_shift_flatMap (fun child member =>
      shift_pieces wellFormed (Document.holds_of_parent (wellFormed.mem_childIds.mp member))) []
  simp only [itemPieces, List.cons_append, List.foldlM_cons, List.foldlM_append, Piece.shift, children,
    shift_definitionBackrefs, Option.bind_eq_bind, Option.bind_some]
  rfl

section
variable {id : NodeId} {label : String} {number references : Nat}
  (found : renderer.document.kind? id = some (.footnoteDefinition label number references))
include found

private theorem pieces_definition : renderer.pieces id =
    [.line] ++ .openTag id "li" (itemAttributes label) :: renderer.itemPieces id ++ .closeTag "li" :: [.line] := by
  have noDocument : renderer.document.type? id ≠ some .document := by
    rw [Document.type?, found]
    simp [NodeKind.type]
  rw [pieces_eq wellFormed (Document.holds_iff_kind.mpr ⟨_, found⟩), piecesFrom]
  simp only [found, opening, descent, ending, closing_definition, itemPieces, itemAttributes,
    inPlace_eq wellFormed noDocument, List.cons_append, List.nil_append, List.append_assoc]

private theorem filterMap_itemPieces (tag : String) : (renderer.itemPieces id).filterMap (Piece.tagFor id tag) =
    (renderer.backrefsPieces id).filterMap (Piece.tagFor id tag) := by
  have type : renderer.document.type? id = some .footnoteDefinition := by rw [Document.type?, found]; rfl
  simp only [itemPieces, List.filterMap_append, List.filterMap_cons, List.filterMap_nil, Piece.tagFor_write,
    List.append_nil, List.cons_append]
  rw [← List.filterMap_append, filterMap_inside wellFormed type]

/-- A definition writes its item, wherever it is rendered. -/
theorem writesItem (noRules : renderer.rules.attributeRules = #[]) (rendered : Rendered renderer.document id) :
    WritesItem renderer.written id label number references := by
  obtain ⟨front, back, whole, apart⟩ := rendered.exists_block wellFormed
  have split : renderer.pieces root = (front ++ [.line]) ++ .openTag id "li" (itemAttributes label) ::
      renderer.itemPieces id ++ .closeTag "li" :: (.line :: back) := by
    rw [whole, pieces_definition wellFormed found]
    simp only [List.append_assoc, List.cons_append, List.nil_append]
  have tags : ∀ tag, tagsFor id tag renderer.written =
      (if "li" = tag then [itemAttributes label] else []) ++
        (renderer.backrefsPieces id).filterMap (Piece.tagFor id tag) := by
    intro tag
    have outside : (front ++ back).filterMap (Piece.tagFor id tag) = [] := filterMap_tagFor_of_apart
      (fun piece member => (apart piece member).mono fun owner below same => below (same ▸ .refl)) tag
    rw [List.filterMap_append, List.append_eq_nil_iff] at outside
    rw [written, tagsFor_calls noRules found trivial, split]
    by_cases named : "li" = tag <;>
      simp [List.filterMap_cons, outside, filterMap_itemPieces wellFormed found, Piece.tagFor, named]
  refine ⟨?_, ?_, ?_⟩
  · rw [tags, item_backrefsPieces found]
    rfl
  · rw [tags, links_backrefsPieces found]
    rfl
  · obtain ⟨middle, last, enclosed⟩ := exists_calls_enclosed noRules found trivial (front ++ [.line])
      (renderer.itemPieces id) (.line :: back) "li" (itemAttributes label) {}
    have whole_ := (congrArg (renderer.calls · {}) split).trans enclosed
    refine ⟨_, renderer.calls (renderer.itemPieces id) middle, _, whole_,
      nest_calls noRules (shift_itemPieces wellFormed id) middle, ?_⟩
    rw [tagsFor_calls noRules found trivial, filterMap_itemPieces wellFormed found, links_backrefsPieces found]

end

end

/-- Without rules of a caller, every definition that is rendered has one item in the HTML, with its links back. -/
theorem renderDocument_writesItem {doc : Document} (wellFormed : doc.WellFormed) (extensions : List Extension)
    (options : RendererOptions) {id : NodeId} {label : String} {number references : Nat}
    (rendered : Rendered doc id) (found : doc.kind? id = some (.footnoteDefinition label number references)) :
    renderDocument doc extensions options {} =
        some (.ok (htmlOf (ofExtensions doc extensions options {}).written)) ∧
      WritesItem (ofExtensions doc extensions options {}).written id label number references := by
  refine ⟨renderDocument_written wellFormed (rendered.holds_root found) extensions options, ?_⟩
  exact @writesItem (ofExtensions doc extensions options {}) wellFormed _ _ _ _ found rfl rendered

theorem renderDocument_writesItem_listed :
    let listed := ((Document.empty.appendNew root (.bulletList true '-')).2.appendNew ⟨1⟩ .listItem).2
    let doc := ((listed.appendNew ⟨2⟩ (.footnoteDefinition "a" 1 2)).2.appendNew ⟨3⟩ .paragraph).2
    let calls := (ofExtensions doc [] {} {}).written
    let first := "<a href=\"#fnref-a\" class=\"footnote-backref\" data-footnote-backref=\"\" " ++
      "data-footnote-backref-idx=\"1\" aria-label=\"Back to reference 1\">↩</a>"
    let second := "<a href=\"#fnref-a-2\" class=\"footnote-backref\" data-footnote-backref=\"\" " ++
      "data-footnote-backref-idx=\"1-2\" aria-label=\"Back to reference 1-2\"><sup class=\"footnote-ref\">2</sup>↩</a>"
    doc.WellFormed ∧ Rendered doc ⟨3⟩ ∧ doc.kind? ⟨3⟩ = some (.footnoteDefinition "a" 1 2) ∧
      htmlOf calls =
        "<ul>\n<li>\n<li id=\"fn-a\">\n<p> " ++ first ++ " " ++ second ++ "</p>\n</li>\n</li>\n</ul>\n" ∧
      renderDocument doc [] {} {} = some (.ok (htmlOf calls)) ∧ WritesItem calls ⟨3⟩ "a" 1 2 := by
  intro listed doc calls first second
  have linked : doc.Linked :=
    (((Document.Linked.empty.appendNew (by decide) _).appendNew (by decide) _).appendNew (by decide) _).appendNew
      (by decide) _
  have found : doc.kind? ⟨3⟩ = some (.footnoteDefinition "a" 1 2) := by decide
  have list : Rendered doc ⟨1⟩ := .child .root (show doc.kind? root = some .document by decide) rfl (by decide)
  have item : Rendered doc ⟨2⟩ :=
    .child list (show doc.kind? ⟨1⟩ = some (.bulletList true '-') by decide) rfl (by decide)
  have rendered : Rendered doc ⟨3⟩ := .child item (show doc.kind? ⟨2⟩ = some .listItem by decide) rfl (by decide)
  exact ⟨linked.wellFormed, rendered, found, by decide +kernel,
    renderDocument_writesItem linked.wellFormed [] {} rendered found⟩

end MarkdownHtml.Renderer
