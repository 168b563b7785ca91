import MarkdownHtml.Proofs.RenderLimit

/-! What the built-in rule of a node writes, as a list of pieces that does not depend on what has been
written before. Both halves of every rule write exactly such a list; only the end of a document has
nodes rendered in the middle of it. -/

namespace MarkdownHtml.Renderer
open Html RenderM

/-- The children that are rendered in their place. -/
def inPlace (renderer : Renderer) (id : NodeId) : List NodeId :=
  (renderer.document.childIds id).filter fun child => !isDeferred renderer.document child

/-- The children that wait for the end of the document. -/
def deferred (renderer : Renderer) (id : NodeId) : List NodeId :=
  (renderer.document.childIds id).filter (isDeferred renderer.document)

inductive Piece
  | write (call : Write)
  /-- A tag whose attributes are decorated for a node. -/
  | openTag (id : NodeId) (tag : String) (base : AttributeSet)
  | voidTag (id : NodeId) (tag : String) (base : AttributeSet)

namespace Piece

abbrev line : Piece := .write .line

abbrev raw (text : String) : Piece := .write (.raw text)

abbrev text (content : String) : Piece := .write (.text content)

abbrev closeTag (tag : String) : Piece := .write (.closeTag tag)

end Piece

def emitPiece (renderer : Renderer) : Piece → RenderM Unit
  | .write call => RenderM.write call
  | .openTag id tag base => renderer.openTag id tag base
  | .voidTag id tag base => renderer.voidTag id tag base

def emit (renderer : Renderer) : List Piece → RenderM Unit
  | [] => return
  | piece :: rest => do
    renderer.emitPiece piece
    renderer.emit rest

def backrefPieces (id : NodeId) (label : String) (number references occurrence : Nat) : List Piece :=
  let index := backrefIndex number occurrence
  [.openTag id "a" (.ofList
    [("href", "#" ++ referenceId label occurrence), ("class", "footnote-backref"), ("data-footnote-backref", ""),
      ("data-footnote-backref-idx", index), ("aria-label", "Back to reference " ++ index)])] ++
  (if occurrence > 1 then
    [.openTag id "sup" (.ofList [("class", "footnote-ref")]), .raw (toString occurrence), .closeTag "sup"] else []) ++
  [.raw backArrow, .closeTag "a"] ++
  (if occurrence < references then [.raw " "] else [])

def backrefsPieces (renderer : Renderer) (id : NodeId) : List Piece :=
  match renderer.document.kind? id with
  | some (.footnoteDefinition label number references) =>
    (List.range references).flatMap fun earlier => backrefPieces id label number references (earlier + 1)
  | _ => []

def codePieces (id : NodeId) (literal : String) (base : AttributeSet) : List Piece :=
  [.line, .openTag id "pre" {}, .openTag id "code" base, .text literal, .closeTag "code", .closeTag "pre", .line]

/-- What comes before the children. -/
def opening (renderer : Renderer) (id : NodeId) : NodeKind → List Piece
  | .document => []
  | .heading level => [.line, .openTag id s!"h{level}" {}]
  | .paragraph => if renderer.omitsParagraphTag id then [] else [.line, .openTag id "p" {}]
  | .blockQuote => [.line, .openTag id "blockquote" {}, .line]
  | .bulletList .. => [.line, .openTag id "ul" {}, .line]
  | .orderedList _ start _ => [.line, .openTag id "ol" (startAttribute start), .line]
  | .listItem => [.openTag id "li" {}]
  | .fencedCodeBlock info literal _ _ => codePieces id literal (languageClass info)
  | .indentedCodeBlock literal => codePieces id literal {}
  | .thematicBreak => [.line, .voidTag id "hr" {}, .line]
  | .htmlBlock literal =>
    [.line] ++ (if renderer.options.escapeHtml then [.openTag id "p" {}, .text literal, .closeTag "p"]
      else [.raw literal]) ++ [.line]
  | .text literal => [.text literal]
  | .emphasis => [.openTag id "em" {}]
  | .strongEmphasis => [.openTag id "strong" {}]
  | .code literal => [.openTag id "code" {}, .text literal, .closeTag "code"]
  | .link destination title => [.openTag id "a" (linkAttributes renderer.options destination title)]
  | .image destination title => [.voidTag id "img" (withTitle title
      [("src", prepareUrl renderer.options destination), ("alt", renderer.document.textContent id)])]
  | .htmlInline literal => [if renderer.options.escapeHtml then .text literal else .raw literal]
  | .softLineBreak => [.raw renderer.options.softbreak]
  | .hardLineBreak => [.voidTag id "br" {}, .line]
  | .strikethrough => [.openTag id "del" {}]
  | .ins => [.openTag id "ins" {}]
  | .tableBlock => [.line, .openTag id "table" {}]
  | .tableHead => [.line, .openTag id "thead" {}]
  | .tableBody => [.line, .openTag id "tbody" {}]
  | .tableRow => [.line, .openTag id "tr" {}]
  | .tableCell header alignment =>
    [.line, .openTag id (tableTag (.tableCell header alignment)) (cellAlignment (.tableCell header alignment))]
  | .taskListMarker checked => [.openTag id "input" (checkboxAttributes checked), .text " "]
  | .footnoteReference label number occurrence =>
    [.openTag id "sup" (.ofList [("class", "footnote-ref")]),
      .openTag id "a" (.ofList
        [("href", "#" ++ definitionId label), ("id", referenceId label occurrence), ("data-footnote-ref", "")]),
      .raw (toString number), .closeTag "a", .closeTag "sup"]
  | .footnoteDefinition label _ _ => [.line, .openTag id "li" (.ofList [("id", definitionId label)]), .line]
  | .frontMatterBlock | .frontMatterEntry .. | .imageAttributes .. => []

/-- Whether the rule of a kind has the children rendered. -/
def descent : NodeKind → Descent
  | .fencedCodeBlock .. | .indentedCodeBlock _ | .thematicBreak | .htmlBlock _ | .text _ | .code _ | .image .. |
    .htmlInline _ | .softLineBreak | .hardLineBreak | .taskListMarker _ | .footnoteReference .. |
    .frontMatterBlock | .frontMatterEntry .. | .imageAttributes .. => .done
  | _ => .children

/-- The links back that a paragraph has because it is the last child of a definition. -/
def paragraphBackrefs (renderer : Renderer) (id : NodeId) : List Piece :=
  match renderer.document.parent? id with
  | some definition =>
    if renderer.document.type? definition == some .footnoteDefinition && (renderer.document.next? id).isNone then
      .raw " " :: renderer.backrefsPieces definition
    else []
  | none => []

def definitionBackrefs (renderer : Renderer) (id : NodeId) : List Piece :=
  if (renderer.document.lastChild? id).bind renderer.document.type? == some .paragraph then []
  else .line :: renderer.backrefsPieces id

/-- What comes after the children, the footnotes of a document aside. -/
def closing (renderer : Renderer) (id : NodeId) : NodeKind → List Piece
  | .heading level => [.closeTag s!"h{level}", .line]
  | .paragraph =>
    renderer.paragraphBackrefs id ++ (if renderer.omitsParagraphTag id then [] else [.closeTag "p", .line])
  | .blockQuote => [.line, .closeTag "blockquote", .line]
  | .bulletList .. => [.line, .closeTag "ul", .line]
  | .orderedList .. => [.line, .closeTag "ol", .line]
  | .listItem => [.closeTag "li", .line]
  | .emphasis => [.closeTag "em"]
  | .strongEmphasis => [.closeTag "strong"]
  | .link .. => [.closeTag "a"]
  | .strikethrough => [.closeTag "del"]
  | .ins => [.closeTag "ins"]
  | .tableBlock => [.closeTag "table", .line]
  | .tableHead => [.closeTag "thead", .line]
  | .tableBody => [.closeTag "tbody", .line]
  | .tableRow => [.closeTag "tr", .line]
  | .tableCell header alignment => [.closeTag (tableTag (.tableCell header alignment)), .line]
  | .footnoteDefinition .. => renderer.definitionBackrefs id ++ [.line, .closeTag "li", .line]
  | _ => []

def sectionOpening (id : NodeId) : List Piece :=
  [.line, .openTag id "section" (.ofList [("class", "footnotes"), ("data-footnotes", "")]), .line,
    .openTag id "ol" {}, .line]

def sectionClosing : List Piece := [.line, .closeTag "ol", .line, .closeTag "section", .line]

variable {renderer : Renderer}

theorem closing_paragraph (id : NodeId) : renderer.closing id .paragraph =
    renderer.paragraphBackrefs id ++ (if renderer.omitsParagraphTag id then [] else [.closeTag "p", .line]) := rfl

theorem closing_definition (id : NodeId) (label : String) (number references : Nat) :
    renderer.closing id (.footnoteDefinition label number references) =
      renderer.definitionBackrefs id ++ [.line, .closeTag "li", .line] := rfl

theorem emit_append (first second : List Piece) :
    renderer.emit (first ++ second) = (do renderer.emit first; renderer.emit second) := by
  induction first with
  | nil => simp [emit]
  | cons piece rest ih => simp [emit, ih]

/-- What holds of all links back, and of the blank before them, holds of what a paragraph has of them. -/
theorem forall_mem_paragraphBackrefs {good : Piece → Prop} (blank : good (.raw " "))
    (links : ∀ definition, ∀ piece ∈ renderer.backrefsPieces definition, good piece) (id : NodeId) :
    ∀ piece ∈ renderer.paragraphBackrefs id, good piece := by
  unfold paragraphBackrefs
  split
  · split
    · exact List.forall_mem_cons.mpr ⟨blank, links _⟩
    · exact nofun
  · exact nofun

theorem forall_mem_definitionBackrefs {good : Piece → Prop} (line : good .line)
    (links : ∀ definition, ∀ piece ∈ renderer.backrefsPieces definition, good piece) (id : NodeId) :
    ∀ piece ∈ renderer.definitionBackrefs id, good piece := by
  unfold definitionBackrefs
  split
  · exact nofun
  · exact List.forall_mem_cons.mpr ⟨line, links id⟩

theorem paragraphBackrefs_last {id definition : NodeId} (under : renderer.document.parent? id = some definition)
    (type : renderer.document.type? definition = some .footnoteDefinition)
    (ends : renderer.document.next? id = none) :
    renderer.paragraphBackrefs id = .raw " " :: renderer.backrefsPieces definition := by
  unfold paragraphBackrefs
  simp only [under, type, ends, beq_self_eq_true, Option.isNone_none, Bool.and_self, if_true]

theorem definitionBackrefs_of_paragraph {id : NodeId}
    (ends : (renderer.document.lastChild? id).bind renderer.document.type? = some .paragraph) :
    renderer.definitionBackrefs id = [] :=
  if_pos (beq_iff_eq.mpr ends)

theorem definitionBackrefs_of_no_paragraph {id : NodeId}
    (ends : (renderer.document.lastChild? id).bind renderer.document.type? ≠ some .paragraph) :
    renderer.definitionBackrefs id = .line :: renderer.backrefsPieces id :=
  if_neg fun paragraph => ends (eq_of_beq paragraph)

private theorem footnoteBackref_eq (id : NodeId) (label : String) (number references occurrence : Nat) :
    renderer.footnoteBackref id label number references occurrence =
      renderer.emit (backrefPieces id label number references occurrence) := by
  by_cases later : occurrence > 1 <;> by_cases more : occurrence < references <;>
    simp [footnoteBackref, backrefPieces, later, more, emit, emitPiece, RenderM.raw, RenderM.closeTag]

private theorem forM_eq {pieces : Nat → List Piece} {action : Nat → RenderM Unit}
    (each : ∀ number, action number = renderer.emit (pieces number)) (numbers : List Nat) :
    numbers.forM action = renderer.emit (numbers.flatMap pieces) := by
  induction numbers with
  | nil => rfl
  | cons number rest ih =>
    rw [List.flatMap_cons, emit_append, ← each, ← ih]
    rfl

private theorem footnoteBackrefs_eq (id : NodeId) :
    renderer.footnoteBackrefs id = renderer.emit (renderer.backrefsPieces id) := by
  unfold footnoteBackrefs backrefsPieces
  cases renderer.document.kind? id with
  | none => rfl
  | some kind =>
    cases kind with
    | footnoteDefinition label number references =>
      exact forM_eq (fun earlier => footnoteBackref_eq id label number references (earlier + 1)) _
    | _ => rfl

/-- Before its children, a node writes its opening. -/
theorem enter_eq {id : NodeId} {kind : NodeKind} (found : renderer.document.kind? id = some kind) :
    renderer.enter id = (do renderer.emit (renderer.opening id kind); return descent kind) := by
  unfold enter
  simp only [found]
  cases kind with
  | paragraph =>
    cases omitted : renderer.omitsParagraphTag id <;> simp [opening, omitted, emit, emitPiece, RenderM.line, descent]
  | htmlBlock literal =>
    cases escaped : renderer.options.escapeHtml <;>
      simp [opening, escaped, emit, emitPiece, RenderM.line, RenderM.text, RenderM.raw, RenderM.closeTag, descent]
  | htmlInline literal =>
    cases escaped : renderer.options.escapeHtml <;>
      simp [opening, escaped, emit, emitPiece, RenderM.text, RenderM.raw, descent]
  | _ =>
    simp [opening, codePieces, codeBlock, enterBlock, footnoteReference, enterFootnoteDefinition, tableTag,
      cellAlignment, emit, emitPiece, RenderM.line, RenderM.text, RenderM.raw, RenderM.closeTag, descent]

private theorem exitParagraph_eq (id : NodeId) :
    renderer.exitParagraph id = renderer.emit (renderer.closing id .paragraph) := by
  have tag : (if renderer.omitsParagraphTag id then pure () else do RenderM.closeTag "p"; RenderM.line) =
      renderer.emit (if renderer.omitsParagraphTag id then [] else [.closeTag "p", .line]) := by
    cases renderer.omitsParagraphTag id <;> simp [emit, emitPiece, RenderM.closeTag, RenderM.line]
  unfold exitParagraph closing paragraphBackrefs
  rw [emit_append, ← tag]
  dsimp only
  cases renderer.document.parent? id with
  | none => simp [emit]
  | some definition =>
    simp only
    by_cases last : renderer.document.type? definition == some .footnoteDefinition && (renderer.document.next? id).isNone
    · simp only [last, if_true]
      simp [emit, emitPiece, footnoteBackrefs_eq, RenderM.raw]
    · simp only [last]
      simp [emit]

private theorem exitFootnoteDefinition_eq (id : NodeId) :
    renderer.exitFootnoteDefinition id =
      renderer.emit (renderer.definitionBackrefs id ++ [.line, .closeTag "li", .line]) := by
  unfold exitFootnoteDefinition definitionBackrefs
  rw [emit_append]
  by_cases last : (renderer.document.lastChild? id).bind renderer.document.type? == some .paragraph
  · simp only [last, if_true]
    simp [emit, emitPiece, RenderM.line, RenderM.closeTag]
  · simp only [last]
    simp [emit, emitPiece, footnoteBackrefs_eq, RenderM.line, RenderM.closeTag]

theorem exit_none {id : NodeId} (missing : renderer.document.kind? id = none) (render : NodeId → RenderM Unit) :
    renderer.exit render id = pure () := by
  unfold exit
  rw [missing]

/-- Behind its children, a node that is no document writes its closing. -/
theorem exit_eq {id : NodeId} {kind : NodeKind} (found : renderer.document.kind? id = some kind)
    (noDocument : kind ≠ .document) (render : NodeId → RenderM Unit) :
    renderer.exit render id = renderer.emit (renderer.closing id kind) := by
  cases kind with
  | document => exact absurd rfl noDocument
  | paragraph =>
    unfold exit
    simp only [found]
    exact exitParagraph_eq id
  | footnoteDefinition label number references =>
    unfold exit
    simp only [found]
    exact exitFootnoteDefinition_eq id
  | _ =>
    unfold exit closing
    simp [found, exitBlock, tableTag, emit, emitPiece, RenderM.line, RenderM.closeTag]

/-- Behind its children, a document has the definitions rendered that have waited for it. -/
theorem exit_document {id : NodeId} (found : renderer.document.kind? id = some .document)
    (render : NodeId → RenderM Unit) :
    renderer.exit render id =
      if (renderer.deferred id).isEmpty then pure () else (do
        renderer.emit (sectionOpening id)
        (renderer.deferred id).forM render
        renderer.emit sectionClosing) := by
  unfold exit deferred
  simp only [found]
  split
  · rfl
  · simp only [footnoteSection, sectionOpening, sectionClosing, emit, emitPiece, RenderM.line, RenderM.closeTag,
      bind_assoc, bind_pure_unit]

theorem headingId_given {id : NodeId} {state : RenderState} {anchor : String}
    (given : state.headingIds.lookup id = some anchor) : renderer.headingId id state = some (.ok anchor, state) := by
  have got : (get : RenderM RenderState) state = some (.ok state, state) := rfl
  rw [headingId, bind_apply, got]
  simp only [given]
  rfl

theorem headingId_made {id : NodeId} {state : RenderState} (none : state.headingIds.lookup id = none) :
    let made := state.anchors.generate (renderer.document.textContent id)
    renderer.headingId id state =
      some (.ok made.1, { state with anchors := made.2, headingIds := (id, made.1) :: state.headingIds }) := by
  have got : (get : RenderM RenderState) state = some (.ok state, state) := rfl
  rw [headingId, bind_apply, got]
  simp only [none]
  rfl

private theorem settles_headingId (id : NodeId) : Settles (renderer.headingId id) := by
  intro state
  cases given : state.headingIds.lookup id with
  | some anchor => exact ⟨_, _, headingId_given given, rfl⟩
  | none => exact ⟨_, _, headingId_made given, rfl⟩

theorem settles_decorateBuiltin (id : NodeId) (base : AttributeSet) : Settles (renderer.decorateBuiltin id base) := by
  unfold decorateBuiltin
  split
  · split
    · exact .bind (settles_headingId id) fun anchor => .pure _
    · exact .pure _
  · split
    · exact .pure _
    · exact .pure _
  · exact .pure _

/-- The attributes of a tag are settled before anything of it is written. -/
theorem silent_attributes (id : NodeId) (tag : String) (base : AttributeSet) :
    Silent (renderer.attributes id tag base) := by
  refine (settles_decorateBuiltin id base).silent.bind fun attributes => ?_
  cases renderer.document.type? id with
  | none => exact .pure _
  | some type =>
    simp only
    split
    · exact .pure _
    · exact .throw _

theorem halts_emit (pieces : List Piece) : Halts (renderer.emit pieces) := by
  induction pieces with
  | nil => exact .pure ()
  | cons piece rest ih =>
    refine .bind ?_ fun _ => ih
    cases piece with
    | write call => exact .write call
    | openTag id tag base => exact (silent_attributes id tag base).halts.bind fun attributes => .write _
    | voidTag id tag base => exact (silent_attributes id tag base).halts.bind fun attributes => .write _

end MarkdownHtml.Renderer
