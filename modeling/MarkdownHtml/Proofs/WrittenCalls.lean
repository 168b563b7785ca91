import MarkdownHtml.Proofs.NodeTrees
import MarkdownHtml.Proofs.RenderedHtml

/-! The calls that write a document which no rule of a caller touches, each with the node it is made for. They
are read off from the tree, so what a node says about itself in the HTML can be found without any parsing. -/

namespace MarkdownHtml.Renderer
open Html RenderM

/-- What comes after the children of a node, given what the children write. -/
def ending (renderer : Renderer) (below : NodeId → List Piece) (id : NodeId) : NodeKind → List Piece
  | .document =>
    if (renderer.deferred id).isEmpty then []
    else sectionOpening id ++ (renderer.deferred id).flatMap below ++ sectionClosing
  | kind => renderer.closing id kind

/-- What a node writes, given what its children write. -/
def piecesFrom (renderer : Renderer) (below : NodeId → List Piece) (id : NodeId) : List Piece :=
  match renderer.document.kind? id with
  | none => []
  | some kind => renderer.opening id kind ++ match descent kind with
    | .done => []
    | .children => (renderer.inPlace id).flatMap below ++ renderer.ending below id kind

/-- All that a node and the nodes below it write. -/
def pieces (renderer : Renderer) : NodeId → List Piece := renderer.document.value renderer.piecesFrom

/-- The call that writes a piece, with the node that it is made for. -/
def call (renderer : Renderer) : Piece → RenderM (Option NodeId × Write)
  | .write call => return (none, call)
  | .openTag id tag base => return (some id, .tagWith tag (← renderer.attributes id tag base))
  | .voidTag id tag base => return (some id, .voidTag tag (← renderer.attributes id tag base))

/-- The calls that write pieces one after another. -/
def calls (renderer : Renderer) : List Piece → RenderState → List (Option NodeId × Write)
  | [], _ => []
  | piece :: rest, state => match renderer.call piece state with
    | some (.ok call, after) => call :: renderer.calls rest { after with writer := after.writer.perform call.2 }
    | _ => []

/-- The calls that write the document. -/
def written (renderer : Renderer) : List (Option NodeId × Write) :=
  renderer.calls (renderer.pieces Document.root) {}

/-- A tag with attributes is written for a node. -/
def Tagged (renderer : Renderer) (id : NodeId) (tag : String) (attributes : AttributeSet) : Prop :=
  (some id, .tagWith tag attributes) ∈ renderer.written

/-- What calls write. -/
def htmlOf (calls : List (Option NodeId × Write)) : String :=
  ((calls.map (·.2)).foldl Writer.perform {}).html

variable {renderer : Renderer}

theorem inPlace_subset {id child : NodeId} (member : child ∈ renderer.inPlace id) :
    child ∈ renderer.document.childIds id := List.mem_of_mem_filter member

/-- Only the children of a document wait for its end. -/
theorem kind_of_isDeferred {parent id : NodeId} {kind : NodeKind} (found : renderer.document.kind? parent = some kind)
    (under : renderer.document.parent? id = some parent) (waits : isDeferred renderer.document id = true) :
    kind = .document := by
  simp only [isDeferred, under, Option.bind_some, Document.type?, found, Option.map_some, Bool.and_eq_true,
    beq_iff_eq, Option.some.injEq] at waits
  cases kind <;> simp [NodeKind.type] at waits ⊢

theorem ending_of_mem_deferred {parent id : NodeId} (waits : id ∈ renderer.deferred parent)
    (below : NodeId → List Piece) : renderer.ending below parent .document =
      sectionOpening parent ++ (renderer.deferred parent).flatMap below ++ sectionClosing := by
  apply if_neg
  rw [List.isEmpty_iff]
  exact List.ne_nil_of_mem waits

theorem deferred_subset {id child : NodeId} (member : child ∈ renderer.deferred id) :
    child ∈ renderer.document.childIds id := List.mem_of_mem_filter member

theorem piecesFrom_congr {first second : NodeId → List Piece} {id : NodeId}
    (same : ∀ child ∈ renderer.document.childIds id, first child = second child) :
    renderer.piecesFrom first id = renderer.piecesFrom second id := by
  have inside : (renderer.inPlace id).flatMap first = (renderer.inPlace id).flatMap second :=
    List.flatMap_congr fun child member => same child (inPlace_subset member)
  have after : (renderer.deferred id).flatMap first = (renderer.deferred id).flatMap second :=
    List.flatMap_congr fun child member => same child (deferred_subset member)
  have ends : ∀ kind, renderer.ending first id kind = renderer.ending second id kind := by
    intro kind
    cases kind <;> simp only [ending, after]
  unfold piecesFrom
  simp only [inside, ends]

theorem pieces_eq (wellFormed : renderer.document.WellFormed) {id : NodeId} (held : renderer.document.Holds id) :
    renderer.pieces id = renderer.piecesFrom renderer.pieces id := by
  refine wellFormed.value_eq (fun first second id same => ?_) held
  exact piecesFrom_congr same

/-- Only a document has more at its end than what it writes itself. -/
theorem ending_eq {kind : NodeKind} (noDocument : kind ≠ .document) (below : NodeId → List Piece) (id : NodeId) :
    renderer.ending below id kind = renderer.closing id kind := by
  cases kind with
  | document => exact absurd rfl noDocument
  | _ => rfl

private theorem forM_emits {render : NodeId → RenderM Unit} {below : NodeId → List Piece} {ids : List NodeId}
    (each : ∀ id ∈ ids, render id = renderer.emit (below id)) : ids.forM render = renderer.emit (ids.flatMap below) := by
  induction ids with
  | nil => rfl
  | cons id ids ih =>
    rw [List.flatMap_cons, emit_append, ← each id (List.mem_cons_self ..),
      ← ih fun other member => each other (List.mem_cons_of_mem _ member)]
    rfl

private theorem exit_emits {render : NodeId → RenderM Unit} {below : NodeId → List Piece} {id : NodeId}
    {kind : NodeKind} (found : renderer.document.kind? id = some kind)
    (each : ∀ child ∈ renderer.deferred id, render child = renderer.emit (below child)) :
    renderer.exit render id = renderer.emit (renderer.ending below id kind) := by
  by_cases document : kind = .document
  · subst document
    rw [exit_document found, ending]
    split
    · rfl
    · simp only [emit_append, bind_assoc, forM_emits each]
  · rw [exit_eq found document, ending_eq document]

theorem renderTree_emits_node {below : NodeId → List Piece} {depth : Nat} {id : NodeId} {kind : NodeKind}
    (found : renderer.document.kind? id = some kind) (free : renderer.rules.renderRule? kind.type = none)
    (each : ∀ child ∈ renderer.document.childIds id, renderer.renderTree depth child = renderer.emit (below child)) :
    renderer.renderTree (depth + 1) id = renderer.emit (renderer.piecesFrom below id) := by
  have inside := forM_emits fun child member => each child (inPlace_subset member)
  have after := exit_emits found fun child member => each child (deferred_subset member)
  simp only [renderTree, piecesFrom, Document.type?, found, Option.map_some, free, enter_eq found, bind_assoc,
    pure_bind, emit_append]
  cases descent kind with
  | done => rfl
  | children => simp only [inside, after, emit_append]

/-- Where no rule takes over a node, the recursion emits its pieces. -/
theorem renderTree_emits (wellFormed : renderer.document.WellFormed)
    (noRules : ∀ type, renderer.rules.renderRule? type = none) {rank : NodeId → Nat}
    (falls : ∀ parent child, renderer.document.IsParent parent child → rank child < rank parent) {depth : Nat}
    {id : NodeId} (held : renderer.document.Holds id) (enough : rank id < depth) :
    renderer.renderTree depth id = renderer.emit (renderer.pieces id) := by
  induction depth generalizing id with
  | zero => omega
  | succ depth ih =>
    obtain ⟨kind, found⟩ := Document.holds_iff_kind.mp held
    rw [pieces_eq wellFormed held]
    refine renderTree_emits_node found (noRules _) fun child member => ?_
    have under := wellFormed.mem_childIds.mp member
    have lower := falls id child under
    exact ih (Document.holds_of_parent under) (by omega)

private theorem emitPiece_eq (piece : Piece) :
    renderer.emitPiece piece = (do let call ← renderer.call piece; RenderM.write call.2) := by
  cases piece <;> simp [emitPiece, call, openTag, voidTag]

section
variable (noRules : renderer.rules.attributeRules = #[])
include noRules

theorem attributes_eq (id : NodeId) (tag : String) (base : AttributeSet) :
    renderer.attributes id tag base = renderer.decorateBuiltin id base := by
  have none_ : ∀ type, renderer.rules.attributeRulesFor type = [] := by
    intro type
    simp [RuleSet.attributeRulesFor, noRules]
  unfold attributes
  simp only [none_, applyRules]
  cases renderer.document.type? id <;> exact bind_pure _

theorem settles_call (piece : Piece) : Settles (renderer.call piece) := by
  cases piece with
  | write call => exact .pure _
  | openTag id tag base =>
    refine .bind ?_ fun _ => .pure _
    rw [attributes_eq noRules]
    exact settles_decorateBuiltin id base
  | voidTag id tag base =>
    refine .bind ?_ fun _ => .pure _
    rw [attributes_eq noRules]
    exact settles_decorateBuiltin id base

private theorem emit_calls (pieces : List Piece) (state : RenderState) : ∃ final,
    renderer.emit pieces state = some (.ok (), final) ∧
      final.writer = ((renderer.calls pieces state).map (·.2)).foldl Writer.perform state.writer := by
  induction pieces generalizing state with
  | nil => exact ⟨state, rfl, rfl⟩
  | cons piece rest ih =>
    obtain ⟨call, after, ran, kept⟩ := settles_call noRules piece state
    obtain ⟨final, ends, written⟩ := ih { after with writer := after.writer.perform call.2 }
    refine ⟨final, ?_, ?_⟩
    · rw [emit, emitPiece_eq, bind_assoc, bind_apply, ran]
      exact ends
    · simp only [written, calls, ran, kept, List.map_cons, List.foldl_cons]

end

theorem render_emits {id : NodeId} {budget enough : Nat} (halts : Halts (renderer.render budget id))
    {pieces : List Piece} (emits : ∀ depth, enough ≤ depth → renderer.renderTree depth id = renderer.emit pieces) :
    renderer.render budget id = renderer.emit pieces := by
  funext state
  obtain ⟨outcome, ran⟩ := halts state
  obtain ⟨depth, atDepth⟩ := render_approximated _ id state _ ran
  rw [ran, ← emits _ (Nat.le_max_right depth enough)]
  exact (atDepth _ (Nat.le_max_left depth enough)).symm

/-- Where the recursion emits pieces, from some depth on, the calls that write them are the rendering. -/
theorem renderDocument_emitted {doc : Document} (wellFormed : doc.WellFormed) {extensions : List Extension}
    {options : RendererOptions} {rules : RuleSet} (noRules : rules.attributeRules = #[])
    (descends : (ofExtensions doc extensions options rules).RulesDescend) {pieces : List Piece} {enough : Nat}
    (emits : ∀ depth, enough ≤ depth → (ofExtensions doc extensions options rules).renderTree depth Document.root =
      (ofExtensions doc extensions options rules).emit pieces) :
    renderDocument doc extensions options rules =
      some (.ok (htmlOf ((ofExtensions doc extensions options rules).calls pieces {}))) := by
  have halts : Halts ((ofExtensions doc extensions options rules).render (defaultBudget doc) Document.root) :=
    render_root_halts_of_descends wellFormed descends (le_defaultBudget doc)
  have noAttributeRules : (ofExtensions doc extensions options rules).rules.attributeRules = #[] := noRules
  obtain ⟨final, ends, written⟩ := emit_calls noAttributeRules pieces {}
  rw [← render_emits halts emits] at ends
  rw [renderDocument_eq ends, htmlOf, ← written]
  rfl

/-- Without rules of a caller, the calls are the rendering. -/
theorem renderDocument_written {doc : Document} (wellFormed : doc.WellFormed) (held : doc.Holds Document.root)
    (extensions : List Extension) (options : RendererOptions) :
    renderDocument doc extensions options {} =
      some (.ok (htmlOf (ofExtensions doc extensions options {}).written)) := by
  have noRule := renderRule?_none (rfl : ({} : RuleSet).renderRules = #[])
  have inside : ∀ parent child, doc.IsParent parent child → doc.Holds child := fun _ _ => Document.holds_of_parent
  obtain ⟨rank, falls, _⟩ := Document.exists_rank inside wellFormed.noOwnAncestor
  exact renderDocument_emitted wellFormed rfl (rulesDescend_of_none noRule) fun depth enough =>
    renderTree_emits wellFormed noRule falls held enough

/-- The nodes that are rendered: all nodes above them have their children rendered. -/
inductive Rendered (doc : Document) : NodeId → Prop
  | root : Rendered doc Document.root
  | child {parent id : NodeId} {kind : NodeKind} (rendered : Rendered doc parent)
    (found : doc.kind? parent = some kind) (descends : descent kind = .children) (under : doc.parent? id = some parent) :
    Rendered doc id

private theorem Rendered.holds {doc : Document} {id : NodeId} (rendered : Rendered doc id)
    (held : doc.Holds Document.root) : doc.Holds id := by
  cases rendered with
  | root => exact held
  | child _ _ _ under => exact Document.holds_of_parent under

theorem Rendered.holds_root {doc : Document} {id : NodeId} (rendered : Rendered doc id) {kind : NodeKind}
    (found : doc.kind? id = some kind) : doc.Holds Document.root := by
  induction rendered generalizing kind with
  | root => exact Document.holds_iff_kind.mpr ⟨kind, found⟩
  | child _ above _ _ ih => exact ih above

/-- A kind whose tags have the attributes that their rule gives them. -/
def Undecorated : NodeKind → Prop
  | .heading _ | .image .. => False
  | _ => True

def own (renderer : Renderer) (id : NodeId) (kind : NodeKind) : List Piece :=
  renderer.opening id kind ++ renderer.closing id kind ++
    if kind = .document then sectionOpening id ++ sectionClosing else []

theorem mem_ending {below : NodeId → List Piece} {id : NodeId} {kind : NodeKind} {piece : Piece}
    (member : piece ∈ renderer.ending below id kind) :
    piece ∈ renderer.own id kind ∨ ∃ child ∈ renderer.deferred id, piece ∈ below child := by
  by_cases document : kind = .document
  · subst document
    rw [ending] at member
    split at member
    · cases member
    · simp only [List.mem_append, List.mem_flatMap] at member
      rcases member with (opened | ⟨child, waits, inside⟩) | closed
      · exact .inl (by simp [own, opened])
      · exact .inr ⟨child, waits, inside⟩
      · exact .inl (by simp [own, closed])
  · rw [ending_eq document] at member
    exact .inl (by simp [own, member])

/-- If a piece is a tag with attributes, the node that they are decorated for is an allowed one. -/
def Piece.MadeFor (allowed : NodeId → Prop) : Piece → Prop
  | .write _ => True
  | .openTag id _ _ | .voidTag id _ _ => allowed id

theorem Piece.MadeFor.mono {first second : NodeId → Prop} {piece : Piece} (made : piece.MadeFor first)
    (implies : ∀ id, first id → second id) : piece.MadeFor second := by
  cases piece with
  | write call => trivial
  | _ => exact implies _ made

theorem madeFor_opening (owner : NodeId) (kind : NodeKind) :
    ∀ piece ∈ renderer.opening owner kind, piece.MadeFor (· = owner) := by
  cases kind with
  | paragraph => cases omitted : renderer.omitsParagraphTag owner <;> simp [opening, omitted, Piece.MadeFor]
  | htmlBlock literal => cases escapes : renderer.options.escapeHtml <;> simp [opening, escapes, Piece.MadeFor]
  | htmlInline literal => cases escapes : renderer.options.escapeHtml <;> simp [opening, escapes, Piece.MadeFor]
  | _ => simp [opening, codePieces, Piece.MadeFor]

private theorem madeFor_backrefPieces (owner : NodeId) (label : String) (number references occurrence : Nat) :
    ∀ piece ∈ backrefPieces owner label number references occurrence, piece.MadeFor (· = owner) := by
  by_cases later : occurrence > 1 <;> by_cases more : occurrence < references <;>
    simp [backrefPieces, later, more, Piece.MadeFor]

private theorem madeFor_backrefsPieces (owner : NodeId) : ∀ piece ∈ renderer.backrefsPieces owner,
    piece.MadeFor fun id => id = owner ∧ renderer.document.type? id = some .footnoteDefinition := by
  unfold backrefsPieces
  split
  next label number references found =>
    intro piece member
    obtain ⟨earlier, _, member⟩ := List.mem_flatMap.mp member
    refine (madeFor_backrefPieces _ _ _ _ _ piece member).mono ?_
    rintro id rfl
    rw [Document.type?, found]
    exact ⟨rfl, rfl⟩
  · simp

def FinalParagraph (renderer : Renderer) (parent id : NodeId) : Prop :=
  renderer.document.parent? id = some parent ∧ renderer.document.next? id = none ∧
    renderer.document.type? id = some .paragraph

/-- Behind its children, a node writes no tags with attributes but links back: those of itself, or those of its parent
if it is the last paragraph there. -/
theorem madeFor_closing {owner : NodeId} {kind : NodeKind} (found : renderer.document.kind? owner = some kind) :
    ∀ piece ∈ renderer.closing owner kind, piece.MadeFor fun id =>
      (id = owner ∨ renderer.FinalParagraph id owner) ∧ renderer.document.type? id = some .footnoteDefinition := by
  cases kind with
  | paragraph =>
    have type : renderer.document.type? owner = some .paragraph := by rw [Document.type?, found]; rfl
    unfold closing paragraphBackrefs
    refine List.forall_mem_append.mpr ⟨?_, ?_⟩
    · split
      next definition under =>
        split
        next here =>
          have ends : renderer.document.next? owner = none :=
            Option.isNone_iff_eq_none.mp (Bool.and_eq_true_iff.mp here).2
          refine List.forall_mem_cons.mpr ⟨trivial, fun piece member => ?_⟩
          refine (madeFor_backrefsPieces definition piece member).mono fun id => And.imp_left fun same => ?_
          exact .inr ⟨same ▸ under, ends, type⟩
        · exact List.forall_mem_nil _
      · exact List.forall_mem_nil _
    · cases renderer.omitsParagraphTag owner <;> simp [Piece.MadeFor]
  | footnoteDefinition label number references =>
    unfold closing
    refine List.forall_mem_append.mpr ⟨?_, by simp [Piece.MadeFor]⟩
    unfold definitionBackrefs
    split
    · exact List.forall_mem_nil _
    · refine List.forall_mem_cons.mpr ⟨trivial, fun piece member => ?_⟩
      exact (madeFor_backrefsPieces owner piece member).mono fun id => And.imp_left .inl
  | _ => simp [closing.eq_def, Piece.MadeFor]

theorem madeFor_own {owner : NodeId} {kind : NodeKind} (found : renderer.document.kind? owner = some kind) :
    ∀ piece ∈ renderer.own owner kind, piece.MadeFor fun id =>
      id = owner ∨ renderer.FinalParagraph id owner ∧ renderer.document.type? id = some .footnoteDefinition := by
  refine List.forall_mem_append.mpr ⟨List.forall_mem_append.mpr ⟨?_, ?_⟩, ?_⟩
  · exact fun piece member => (madeFor_opening owner kind piece member).mono fun _ => .inl
  · refine fun piece member => (madeFor_closing found piece member).mono fun id near => ?_
    exact near.1.imp_right fun final => ⟨final, near.2⟩
  · split
    · simp [sectionOpening, sectionClosing, Piece.MadeFor]
    · simp

section
variable (wellFormed : renderer.document.WellFormed)
include wellFormed

private theorem pieces_subset_parent {parent id : NodeId} {kind : NodeKind}
    (found : renderer.document.kind? parent = some kind) (descends : descent kind = .children)
    (under : renderer.document.parent? id = some parent) : renderer.pieces id ⊆ renderer.pieces parent := by
  have member : id ∈ renderer.document.childIds parent := wellFormed.mem_childIds.mpr under
  rw [pieces_eq wellFormed (Document.holds_iff_kind.mpr ⟨kind, found⟩), piecesFrom]
  simp only [found, descends]
  cases waits : isDeferred renderer.document id with
  | false =>
    have inside : id ∈ renderer.inPlace parent := List.mem_filter.mpr ⟨member, by rw [waits]; rfl⟩
    intro piece here
    simp only [List.mem_append, List.mem_flatMap]
    exact .inr (.inl ⟨id, inside, here⟩)
  | true =>
    obtain rfl := kind_of_isDeferred found under waits
    have inside : id ∈ renderer.deferred parent := List.mem_filter.mpr ⟨member, waits⟩
    intro piece here
    simp only [ending_of_mem_deferred inside, List.mem_append, List.mem_flatMap]
    exact .inr (.inr (.inl (.inr ⟨id, inside, here⟩)))

private theorem Rendered.pieces_subset {id : NodeId} (rendered : Rendered renderer.document id) :
    renderer.pieces id ⊆ renderer.pieces Document.root := by
  induction rendered with
  | root => exact List.Subset.refl _
  | child _ found descends under ih => exact List.Subset.trans (pieces_subset_parent wellFormed found descends under) ih

theorem Rendered.opening_subset (held : renderer.document.Holds Document.root) {id : NodeId}
    (rendered : Rendered renderer.document id) {kind : NodeKind} (found : renderer.document.kind? id = some kind) :
    renderer.opening id kind ⊆ renderer.pieces Document.root := by
  refine List.Subset.trans (fun piece here => ?_) (rendered.pieces_subset wellFormed)
  rw [pieces_eq wellFormed (rendered.holds held), piecesFrom]
  simp only [found, List.mem_append]
  exact .inl here

theorem Rendered.closing_subset (held : renderer.document.Holds Document.root) {id : NodeId}
    (rendered : Rendered renderer.document id) {kind : NodeKind} (found : renderer.document.kind? id = some kind)
    (descends : descent kind = .children) (noDocument : kind ≠ .document) :
    renderer.closing id kind ⊆ renderer.pieces Document.root := by
  refine List.Subset.trans (fun piece here => ?_) (rendered.pieces_subset wellFormed)
  rw [pieces_eq wellFormed (rendered.holds held), piecesFrom]
  simp only [found, descends, ending_eq noDocument, List.mem_append]
  exact .inr (.inr here)

/-- Each piece is one that a rendered node writes itself. -/
theorem exists_own (held : renderer.document.Holds Document.root) {id : NodeId}
    (rendered : Rendered renderer.document id) {piece : Piece} (member : piece ∈ renderer.pieces id) :
    ∃ owner kind, Rendered renderer.document owner ∧ renderer.document.kind? owner = some kind ∧
      piece ∈ renderer.own owner kind := by
  induction id using wellFormed.child_induction with
  | step id below =>
    rw [pieces_eq wellFormed (rendered.holds held), piecesFrom] at member
    split at member
    · cases member
    next kind found =>
      have step : ∀ child ∈ renderer.document.childIds id, descent kind = .children → piece ∈ renderer.pieces child →
          ∃ owner kind, Rendered renderer.document owner ∧ renderer.document.kind? owner = some kind ∧
            piece ∈ renderer.own owner kind := fun child inside descends =>
        below child inside (.child rendered found descends (wellFormed.mem_childIds.mp inside))
      rcases List.mem_append.mp member with opened | later
      · exact ⟨id, kind, rendered, found, by simp [own, opened]⟩
      · split at later
        · cases later
        next descends =>
          rcases List.mem_append.mp later with inside | ends
          · obtain ⟨child, placed, here⟩ := List.mem_flatMap.mp inside
            exact step child (inPlace_subset placed) descends here
          · rcases mem_ending ends with here | ⟨child, waits, here⟩
            · exact ⟨id, kind, rendered, found, here⟩
            · exact step child (deferred_subset waits) descends here

end

section
variable (noRules : renderer.rules.attributeRules = #[]) {id : NodeId} {kind : NodeKind}
  (found : renderer.document.kind? id = some kind) (undecorated : Undecorated kind)
include noRules found undecorated

theorem call_openTag (tag : String) (base : AttributeSet) :
    renderer.call (.openTag id tag base) = pure (some id, .tagWith tag base) := by
  have same : renderer.attributes id tag base = pure base := by
    rw [attributes_eq noRules]
    unfold decorateBuiltin
    cases kind <;> simp_all [Undecorated]
  rw [call, same, pure_bind]

/-- The tags of a node whose attributes nothing decorates are those of its pieces. -/
theorem mem_calls {tag : String} {attributes : AttributeSet} (pieces : List Piece) (state : RenderState) :
    (some id, .tagWith tag attributes) ∈ renderer.calls pieces state ↔ .openTag id tag attributes ∈ pieces := by
  induction pieces generalizing state with
  | nil => simp [calls]
  | cons piece rest ih =>
    obtain ⟨made, after, ran, _⟩ := settles_call noRules piece state
    have here : (some id, .tagWith tag attributes) = made ↔ .openTag id tag attributes = piece := by
      cases piece with
      | write call =>
        cases ran
        simp
      | openTag other name base =>
        by_cases same : other = id
        · subst same
          rw [call_openTag noRules found undecorated] at ran
          cases ran
          simp
        · obtain ⟨_, _, _, made_⟩ := ok_of_bind ran
          cases made_
          simp [Ne.symm same]
      | voidTag other name base =>
        obtain ⟨_, _, _, made_⟩ := ok_of_bind ran
        cases made_
        simp
    simp only [calls, ran, List.mem_cons, here, ih]

theorem tagged_iff {tag : String} {attributes : AttributeSet} : renderer.Tagged id tag attributes ↔
    .openTag id tag attributes ∈ renderer.pieces Document.root :=
  mem_calls noRules found undecorated _ _

end

end MarkdownHtml.Renderer
