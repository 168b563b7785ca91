import MarkdownHtml.Proofs.FrontMatterPieces

/-! Whether the HTML of a document shows that there is front matter. Where no node notices it, the HTML is the
same. Where all blocks are at the top, only one paragraph can notice them: the only other child of the document. -/

namespace MarkdownHtml.Html

private theorem Writer.length_le_line (writer : Writer) :
    writer.html.toList.length ≤ writer.line.html.toList.length := by
  unfold Writer.line
  split
  · exact Nat.le_refl _
  · split
    · exact Nat.le_refl _
    · simp [html_raw]

/-- The second writer has got ahead of the first by some characters, and will write whatever the first writes. -/
structure Writer.Ahead (lead : Nat) (first second : Writer) : Prop where
  longer : first.html.toList.length + lead ≤ second.html.toList.length
  last : first.last = none ∨ first.last = second.last

namespace Writer.Ahead

variable {lead : Nat} {first second : Writer}

theorem raw (ahead : Ahead lead first second) (text : String) : Ahead lead (first.raw text) (second.raw text) := by
  obtain ⟨longer, last⟩ := ahead
  constructor
  · simp only [html_raw, List.length_append]
    omega
  · unfold Writer.raw
    split
    · exact last
    · exact .inr rfl

theorem text (ahead : Ahead lead first second) (content : String) :
    Ahead lead (first.text content) (second.text content) := ahead.raw _

private theorem line (ahead : Ahead lead first second) : Ahead lead first.line second.line := by
  rcases ahead.last with fresh | same
  · have stays : first.line = first := by rw [Writer.line, fresh]
    rw [stays]
    exact ⟨Nat.le_trans ahead.longer second.length_le_line, .inl fresh⟩
  · unfold Writer.line
    rw [← same]
    cases first.last with
    | none => exact ahead
    | some c =>
      simp only
      split
      · exact ahead
      · exact ahead.raw "\n"

private theorem assignment (ahead : Ahead lead first second) (name value : String) :
    Ahead lead (first.assignment name value) (second.assignment name value) := by
  have named := (ahead.raw " ").text name
  exact ((named.raw "=\"").text value).raw "\""

private theorem openTag (ahead : Ahead lead first second) (name : String) (attributes : AttributeSet) :
    Ahead lead (first.openTag name attributes) (second.openTag name attributes) := by
  suffices each : ∀ {left right : Writer}, Ahead lead left right → Ahead lead
      (attributes.entries.foldl (fun writer entry => writer.assignment entry.1 entry.2) left)
      (attributes.entries.foldl (fun writer entry => writer.assignment entry.1 entry.2) right) from
    each ((ahead.raw "<").raw name)
  induction attributes.entries with
  | nil => exact id
  | cons entry rest ih =>
    intro left right ahead
    rw [List.foldl_cons, List.foldl_cons]
    exact ih (ahead.assignment entry.1 entry.2)

theorem perform (ahead : Ahead lead first second) (call : Write) :
    Ahead lead (first.perform call) (second.perform call) := by
  cases call with
  | raw text => exact ahead.raw text
  | text content => exact ahead.text content
  | tag name => exact ((ahead.raw "<").raw name).raw ">"
  | tagWith name attributes => exact (ahead.openTag name attributes).raw ">"
  | voidTag name attributes => exact (ahead.openTag name attributes).raw " />"
  | closeTag name => exact ((ahead.raw "</").raw name).raw ">"
  | line => exact ahead.line

theorem foldl (ahead : Ahead lead first second) (calls : List Write) :
    Ahead lead (calls.foldl Writer.perform first) (calls.foldl Writer.perform second) := by
  induction calls generalizing first second with
  | nil => exact ahead
  | cons call rest ih => exact ih (ahead.perform call)

end Writer.Ahead

private theorem length_lt_in_paragraph (calls : List Write) :
    (calls.foldl Writer.perform {}).html.toList.length <
      (([Write.line, .tagWith "p" {}] ++ calls ++ [Write.closeTag "p", .line]).foldl
        Writer.perform {}).html.toList.length := by
  have start : Writer.Ahead 3 {} (Writer.tagWith {} "p" {}) := ⟨by decide, .inl rfl⟩
  have longer := (start.foldl calls).longer
  have ends := Writer.length_le_line ((calls.foldl Writer.perform (Writer.tagWith {} "p" {})).closeTag "p")
  simp only [Writer.closeTag, Writer.html_raw, List.length_append] at ends
  simp only [List.foldl_append]
  change _ < (((calls.foldl Writer.perform (Writer.tagWith {} "p" {})).closeTag "p").line).html.toList.length
  simp only [Writer.closeTag]
  omega

end MarkdownHtml.Html

namespace MarkdownHtml.Renderer
open Document (root)
open Html RenderM

/-- A computation that neither looks at what has been written nor writes anything. -/
def Unwritten (computation : RenderM α) : Prop := ∀ (state : RenderState) (writer : Writer),
  computation { state with writer } =
    (computation state).map fun outcome => (outcome.1, { outcome.2 with writer })

namespace Unwritten

theorem pure (value : α) : Unwritten (pure value) := fun _ _ => rfl

theorem bind {first : RenderM α} {next : α → RenderM β} (left : Unwritten first)
    (right : ∀ value, Unwritten (next value)) : Unwritten (first >>= next) := by
  intro state writer
  rw [bind_apply, bind_apply, left]
  rcases first state with _ | ⟨error | value, after⟩
  · rfl
  · rfl
  · exact right value after writer

end Unwritten

variable {renderer : Renderer}

private theorem unwritten_headingId (id : NodeId) : Unwritten (renderer.headingId id) := by
  intro state writer
  cases given : state.headingIds.lookup id with
  | some anchor =>
    have givenAfter : ({ state with writer } : RenderState).headingIds.lookup id = some anchor := given
    rw [headingId_given given, headingId_given givenAfter]
    rfl
  | none =>
    have noneAfter : ({ state with writer } : RenderState).headingIds.lookup id = none := given
    rw [headingId_made given, headingId_made noneAfter]
    rfl

private theorem unwritten_decorateBuiltin (id : NodeId) (base : AttributeSet) :
    Unwritten (renderer.decorateBuiltin id base) := by
  unfold decorateBuiltin
  split
  · split
    · exact .bind (unwritten_headingId id) fun _ => .pure _
    · exact .pure _
  · split
    · exact .pure _
    · exact .pure _
  · exact .pure _

section
variable (noRules : renderer.rules.attributeRules = #[])
include noRules

private theorem unwritten_call (piece : Piece) : Unwritten (renderer.call piece) := by
  cases piece with
  | write call => exact .pure _
  | openTag id tag base =>
    rw [call, attributes_eq noRules]
    exact .bind (unwritten_decorateBuiltin id base) fun _ => .pure _
  | voidTag id tag base =>
    rw [call, attributes_eq noRules]
    exact .bind (unwritten_decorateBuiltin id base) fun _ => .pure _

private theorem calls_writer (pieces : List Piece) (state : RenderState) (writer : Writer) :
    renderer.calls pieces { state with writer } = renderer.calls pieces state := by
  induction pieces generalizing state writer with
  | nil => rfl
  | cons piece rest ih =>
    obtain ⟨call, after, ran, _⟩ := settles_call noRules piece state
    have ranAfter := unwritten_call noRules piece state writer
    rw [ran] at ranAfter
    simp only [calls, ran, ranAfter, Option.map_some]
    exact congrArg (call :: ·) ((ih after _).trans (ih after _).symm)

private theorem calls_append_writes (pieces : List Piece) (writes : List Write) (state : RenderState) :
    renderer.calls (pieces ++ writes.map .write) state =
      renderer.calls pieces state ++ writes.map fun call => (none, call) := by
  induction pieces generalizing state with
  | nil =>
    rw [List.nil_append]
    induction writes generalizing state with
    | nil => rfl
    | cons call rest ih => exact congrArg ((none, call) :: ·) (ih _)
  | cons piece rest ih =>
    obtain ⟨call, after, ran, _⟩ := settles_call noRules piece state
    simp only [List.cons_append, calls, ran, ih]

end

end MarkdownHtml.Renderer

namespace MarkdownHtml.Document

/-- All front matter stands right below the top, where the text of a document has it. -/
structure FrontMatterOnTop (doc : Document) : Prop where
  type : doc.type? root = some .document
  top : doc.parent? root = none
  blocks : ∀ id ∈ doc.frontMatter, doc.parent? id = some root

namespace FrontMatterOnTop

variable {doc : Document} (onTop : doc.FrontMatterOnTop)
include onTop

private theorem holds : doc.Holds root := by
  obtain ⟨kind, found, _⟩ := Option.map_eq_some_iff.mp onTop.type
  exact holds_iff_kind.mpr ⟨kind, found⟩

private theorem not_ancestor {id block : NodeId} (gone : block ∈ doc.frontMatter) (below : id ≠ root) :
    ¬ doc.Ancestor id block := by
  intro above
  rcases within_iff.mp (above.parent (onTop.blocks block gone)) with same | higher
  · exact below same.symm
  · exact not_ancestor_of_top onTop.top higher

private theorem childIds (wellFormed : doc.WellFormed) {id : NodeId} (below : id ≠ root) :
    doc.withoutFrontMatter.childIds id = doc.childIds id := by
  rw [wellFormed.pruned.children, List.filter_eq_self]
  exact fun child member => decide_eq_true fun gone =>
    onTop.not_ancestor gone below (.single (wellFormed.mem_childIds.mp member))

private theorem textContent (wellFormed : doc.WellFormed) {id : NodeId} (held : doc.Holds id) (below : id ≠ root) :
    doc.withoutFrontMatter.textContent id = doc.textContent id :=
  wellFormed.pruned.textContent wellFormed held fun _ gone => onTop.not_ancestor gone below

end FrontMatterOnTop

end MarkdownHtml.Document

namespace MarkdownHtml.Renderer
open Document (root)
open Html RenderM

variable {renderer : Renderer}

private theorem calls_topTag (noRules : renderer.rules.attributeRules = #[]) {id : NodeId}
    (type : renderer.document.type? id = some .paragraph) (pieces : List Piece) :
    renderer.calls ([.line, .openTag id "p" {}] ++ pieces) {} =
      [(none, .line), (some id, .tagWith "p" {})] ++ renderer.calls pieces {} := by
  have opened := call_openTag noRules (Document.kind?_paragraph type) trivial "p" {}
  change (none, .line) :: renderer.calls (.openTag id "p" {} :: pieces) {} = _
  rw [calls, opened]
  exact congrArg ([(none, .line), (some id, .tagWith "p" {})] ++ ·) (calls_writer noRules pieces {} _)

private theorem pieces_document (wellFormed : renderer.document.WellFormed) {id : NodeId}
    (type : renderer.document.type? id = some .document) (none_ : renderer.deferred id = []) :
    renderer.pieces id = (renderer.inPlace id).flatMap renderer.pieces := by
  have found := Document.kind?_document type
  rw [pieces_eq wellFormed (Document.holds_iff_kind.mpr ⟨_, found⟩), piecesFrom]
  simp [found, opening, descent, ending, none_]

private theorem pieces_topParagraph (wellFormed : renderer.document.WellFormed) {id parent : NodeId}
    (type : renderer.document.type? id = some .paragraph) (under : renderer.document.parent? id = some parent)
    (document : renderer.document.type? parent = some .document) :
    renderer.pieces id = (if renderer.omitsParagraphTag id then [] else [.line, .openTag id "p" {}]) ++
      ((renderer.inPlace id).flatMap renderer.pieces ++
        if renderer.omitsParagraphTag id then [] else [.closeTag "p", .line]) := by
  have found := Document.kind?_paragraph type
  have noLinks : renderer.paragraphBackrefs id = [] := by simp [paragraphBackrefs, under, document]
  rw [pieces_eq wellFormed (Document.holds_iff_kind.mpr ⟨_, found⟩), piecesFrom]
  simp [found, opening, descent, ending, closing.eq_def, noLinks]

section
variable (wellFormed : renderer.document.WellFormed) (onTop : renderer.document.FrontMatterOnTop)
include wellFormed onTop

private theorem unnoticedAt_of_onTop {id : NodeId} (alone : renderer.options.omitSingleParagraphP = true →
      renderer.document.type? id = some .paragraph → renderer.document.withoutFrontMatter.childIds root = [id] →
      renderer.document.childIds root = [id]) : renderer.UnnoticedAt id := by
  have text {type : NodeType} (found : renderer.document.type? id = some type) (noDocument : type ≠ .document) :
      renderer.document.withoutFrontMatter.textContent id = renderer.document.textContent id := by
    obtain ⟨kind, held, _⟩ := Option.map_eq_some_iff.mp found
    refine onTop.textContent wellFormed (Document.holds_iff_kind.mpr ⟨kind, held⟩) ?_
    rintro rfl
    exact noDocument (Option.some.inj (found.symm.trans onTop.type))
  constructor
  · intro omits paragraph parent _ _ only
    by_cases same : parent = root
    · subst same
      exact alone omits paragraph only
    · rwa [onTop.childIds wellFormed same] at only
  · intro _ definition _ footnote last
    rwa [onTop.childIds wellFormed] at last
    rintro rfl
    cases footnote.symm.trans onTop.type
  · exact fun _ heading => text heading (by decide)
  · exact fun image => text image (by decide)

/-- If all front matter is at the top, what is written without it is written by the same calls with it. -/
theorem written_of_onTop (noRules : renderer.rules.attributeRules = #[]) :
    renderer.withoutFrontMatter.written = renderer.calls (renderer.withoutFrontMatter.pieces root) {} := by
  refine calls_congr (fun piece member => call_withoutFrontMatter wellFormed noRules onTop.holds ?_ member) {}
  intro id _ anchors heading
  refine (unnoticedAt_of_onTop wellFormed onTop fun _ paragraph _ => ?_).heading anchors heading
  cases heading.symm.trans paragraph

section
variable {paragraph : NodeId} (omits : renderer.options.omitSingleParagraphP = true)
  (type : renderer.document.type? paragraph = some .paragraph)
  (alone : renderer.document.withoutFrontMatter.childIds root = [paragraph])

include type alone

omit onTop type in
private theorem parent_of_alone : renderer.document.parent? paragraph = some root ∧
    renderer.withoutFrontMatter.document.parent? paragraph = some root := by
  have under : renderer.document.withoutFrontMatter.parent? paragraph = some root :=
    wellFormed.pruned.linked.mem_childIds.mp (by simp [alone])
  exact ⟨wellFormed.pruned.isParent under, under⟩

omit onTop in
private theorem inPlace_of_alone : renderer.withoutFrontMatter.inPlace root = [paragraph] := by
  rw [inPlace, document_withoutFrontMatter, alone]
  simp [isDeferred, wellFormed.pruned.type, type]

omit onTop in
private theorem deferred_of_alone : renderer.withoutFrontMatter.deferred root = [] := by
  rw [deferred, document_withoutFrontMatter, alone]
  simp [isDeferred, wellFormed.pruned.type, type]

private theorem pieces_of_alone : renderer.pieces root = renderer.pieces paragraph ∧
    renderer.withoutFrontMatter.pieces root = renderer.withoutFrontMatter.pieces paragraph := by
  have none_ := deferred_of_alone wellFormed type alone
  have one := inPlace_of_alone wellFormed type alone
  have typeAfter : renderer.withoutFrontMatter.document.type? root = some .document :=
    (wellFormed.pruned.type root).trans onTop.type
  constructor
  · rw [deferred_withoutFrontMatter wellFormed] at none_
    rw [pieces_document wellFormed onTop.type none_, ← flatMap_inPlace wellFormed, one, List.flatMap_singleton]
  · rw [pieces_document wellFormed.pruned.linked.wellFormed typeAfter none_, one, List.flatMap_singleton]

private theorem inside_of_alone :
    (renderer.withoutFrontMatter.inPlace paragraph).flatMap renderer.withoutFrontMatter.pieces =
      (renderer.inPlace paragraph).flatMap renderer.pieces := by
  have pruned := wellFormed.pruned
  have after := pruned.linked.wellFormed
  obtain ⟨_, atTop⟩ := parent_of_alone wellFormed alone
  rw [← flatMap_inPlace wellFormed]
  refine List.flatMap_congr fun child member => ?_
  have under := after.mem_childIds.mp (inPlace_subset member)
  have paragraphRendered : Rendered renderer.document.withoutFrontMatter paragraph :=
    .child .root ((pruned.kind root).trans (Document.kind?_document onTop.type)) rfl atTop
  have rendered : Rendered renderer.document.withoutFrontMatter child :=
    .child paragraphRendered ((pruned.kind paragraph).trans (Document.kind?_paragraph type)) rfl under
  have held := (pruned.holds child).mp (Document.holds_of_parent under)
  refine pieces_withoutFrontMatter wellFormed rendered held fun below within _ => ?_
  refine unnoticedAt_of_onTop wellFormed onTop fun _ _ only => ?_
  -- What is below the paragraph is not the paragraph, and nothing else is left at the top.
  obtain rfl : paragraph = below := by simpa [alone] using only
  have loop : renderer.document.withoutFrontMatter.Ancestor paragraph paragraph := .head' under within
  exact absurd loop (after.noOwnAncestor paragraph)

include omits

private theorem omitsParagraphTag_of_alone (some_ : renderer.document.frontMatter ≠ []) :
    renderer.omitsParagraphTag paragraph = false ∧ renderer.withoutFrontMatter.omitsParagraphTag paragraph = true := by
  have pruned := wellFormed.pruned
  obtain ⟨atTop, atTopAfter⟩ := parent_of_alone wellFormed alone
  have loose : inTightList renderer.document paragraph = false := by simp [inTightList, atTop, onTop.top]
  have beside : isLoneTopLevel renderer.document paragraph = false := by
    rw [Bool.eq_false_iff, Ne, isLoneTopLevel_iff wellFormed.linked]
    rintro ⟨parent, under, _, only⟩
    obtain rfl := Document.parent_unique under atTop
    obtain ⟨block, gone⟩ := List.exists_mem_of_ne_nil _ some_
    have member := wellFormed.mem_childIds.mpr (onTop.blocks block gone)
    rw [only, List.mem_singleton] at member
    exact absurd (member ▸ gone) (stays_of_type (by rw [type]; decide))
  have lone : isLoneTopLevel renderer.document.withoutFrontMatter paragraph = true :=
    (isLoneTopLevel_iff pruned.linked).mpr ⟨_, atTopAfter, (pruned.type _).trans onTop.type, alone⟩
  constructor
  · simp [omitsParagraphTag, loose, beside]
  · simp [omitsParagraphTag, withoutFrontMatter, omits, lone]

private theorem written_of_alone (noRules : renderer.rules.attributeRules = #[])
    (some_ : renderer.document.frontMatter ≠ []) :
    renderer.written = [(none, .line), (some paragraph, .tagWith "p" {})] ++ renderer.withoutFrontMatter.written ++
      [(none, .closeTag "p"), (none, .line)] := by
  have after : renderer.withoutFrontMatter.document.WellFormed := wellFormed.pruned.linked.wellFormed
  have types : ∀ id, renderer.withoutFrontMatter.document.type? id = renderer.document.type? id :=
    wellFormed.pruned.type
  obtain ⟨atTop, atTopAfter⟩ := parent_of_alone wellFormed alone
  obtain ⟨whole, bare⟩ := pieces_of_alone wellFormed onTop type alone
  obtain ⟨kept, omitted⟩ := omitsParagraphTag_of_alone wellFormed onTop omits type alone some_
  rw [pieces_topParagraph wellFormed type atTop onTop.type, kept] at whole
  rw [pieces_topParagraph after ((types _).trans type) atTopAfter ((types _).trans onTop.type), omitted,
    inside_of_alone wellFormed onTop type alone] at bare
  simp only [Bool.false_eq_true, if_false, if_true, List.nil_append, List.append_nil] at whole bare
  rw [written_of_onTop wellFormed onTop noRules, bare, written, whole, List.append_assoc]
  have opens := calls_topTag noRules type
    ((renderer.inPlace paragraph).flatMap renderer.pieces ++ [.closeTag "p", .line])
  have ends := calls_append_writes noRules ((renderer.inPlace paragraph).flatMap renderer.pieces)
    [.closeTag "p", .line] {}
  exact opens.trans (congrArg ([(none, .line), (some paragraph, .tagWith "p" {})] ++ ·) ends)

/-- So the front matter can be seen in the HTML. -/
theorem htmlOf_of_alone (noRules : renderer.rules.attributeRules = #[]) (some_ : renderer.document.frontMatter ≠ []) :
    htmlOf renderer.withoutFrontMatter.written ≠ htmlOf renderer.written := by
  have calls : renderer.written.map (·.2) = [Write.line, .tagWith "p" {}] ++
      renderer.withoutFrontMatter.written.map (·.2) ++ [Write.closeTag "p", .line] := by
    rw [written_of_alone wellFormed onTop omits type alone noRules some_]
    simp only [List.map_append, List.map_cons, List.map_nil]
  have longer := length_lt_in_paragraph (renderer.withoutFrontMatter.written.map (·.2))
  rw [← calls] at longer
  exact fun same => Nat.ne_of_lt longer (congrArg (fun html => html.toList.length) same)

end

end

private theorem renderDocument_missing {doc : Document} (missing : ¬ doc.Holds root) (extensions : List Extension)
    (options : RendererOptions) : renderDocument doc extensions options {} = some (.ok "") := by
  have positive : 0 < defaultBudget doc := Nat.lt_of_lt_of_le (Nat.succ_pos _) (le_defaultBudget doc)
  have render : (ofExtensions doc extensions options {}).render (defaultBudget doc) root = pure () :=
    render_missing missing positive
  rw [renderDocument, render]
  rfl

/-- Without rules of a caller, a document has HTML, with its front matter and without it. The HTML is the same
where no node notices whether the front matter is there. Where all of it is at the top, the HTML is the same
unless the tag of an only paragraph is to be omitted and one paragraph is all that is left. -/
theorem renderDocument_withoutFrontMatter {doc : Document} (wellFormed : doc.WellFormed)
    (extensions : List Extension) (options : RendererOptions) :
    ∃ whole bare, renderDocument doc extensions options {} = some (.ok whole) ∧
      renderDocument doc.withoutFrontMatter extensions options {} = some (.ok bare) ∧
      ((ofExtensions doc extensions options {}).Unnoticed → bare = whole) ∧
      (doc.FrontMatterOnTop → (bare = whole ↔
        ¬ (options.omitSingleParagraphP = true ∧ doc.frontMatter ≠ [] ∧
          ∃ paragraph, doc.type? paragraph = some .paragraph ∧ doc.withoutFrontMatter.childIds root = [paragraph]))) := by
  by_cases held : doc.Holds root
  · have pruned := wellFormed.pruned
    have noRules : (ofExtensions doc extensions options {}).rules.attributeRules = #[] := rfl
    have unseen (unnoticed : (ofExtensions doc extensions options {}).Unnoticed) :
        htmlOf (ofExtensions doc.withoutFrontMatter extensions options {}).written =
          htmlOf (ofExtensions doc extensions options {}).written :=
      congrArg htmlOf (written_withoutFrontMatter wellFormed noRules unnoticed held)
    refine ⟨_, _, renderDocument_written wellFormed held extensions options,
      renderDocument_written pruned.linked.wellFormed ((pruned.holds root).mpr held) extensions options, unseen,
      fun onTop => ⟨?_, fun rest => unseen fun id _ => ?_⟩⟩
    · rintro same ⟨omits, some_, paragraph, type, alone⟩
      exact htmlOf_of_alone wellFormed onTop omits type alone noRules some_ same
    · refine unnoticedAt_of_onTop wellFormed onTop fun omits type alone => ?_
      have none_ : doc.frontMatter = [] := by
        by_contra some_
        exact rest ⟨omits, some_, id, type, alone⟩
      rwa [ofExtensions, pruned.children, none_, List.filter_eq_self.mpr (by simp)] at alone
  · have none_ : doc.frontMatter = [] := List.eq_nil_iff_forall_not_mem.mpr fun id member =>
      held ((Document.mem_frontMatter wellFormed).mp member).1
    have same : doc.withoutFrontMatter = doc := by rw [Document.withoutFrontMatter, none_]; rfl
    have empty := renderDocument_missing held extensions options
    exact ⟨"", "", empty, by rw [same]; exact empty, fun _ => rfl, fun onTop => absurd onTop.holds held⟩

theorem renderDocument_withoutFrontMatter_heading :
    let titled := ((Document.empty.appendNew root .frontMatterBlock).2.appendNew ⟨1⟩ (.frontMatterEntry "a" ["b"])).2
    let doc := ((titled.appendNew root (.heading 1)).2.appendNew ⟨3⟩ (.text "x")).2
    let options : RendererOptions := { omitSingleParagraphP := true }
    let html := "<h1 id=\"x\">x</h1>\n"
    doc.WellFormed ∧ doc.FrontMatterOnTop ∧ doc.frontMatter = [⟨1⟩] ∧
      renderDocument doc [.yamlFrontMatter, .headingAnchors] options {} = some (.ok html) ∧
      renderDocument doc.withoutFrontMatter [.yamlFrontMatter, .headingAnchors] options {} = some (.ok html) := by
  intro titled doc options html
  have linked : doc.Linked :=
    (((Document.Linked.empty.appendNew (by decide) _).appendNew (by decide) _).appendNew (by decide) _).appendNew
      (by decide) _
  have blocks : doc.frontMatter = [⟨1⟩] := by decide +kernel
  have onTop : doc.FrontMatterOnTop := ⟨by decide +kernel, by decide +kernel, by rw [blocks]; decide +kernel⟩
  obtain ⟨whole, bare, sameWhole, sameBare, _, same⟩ :=
    renderDocument_withoutFrontMatter linked.wellFormed [.yamlFrontMatter, .headingAnchors] options
  have output : ((ofExtensions doc [.yamlFrontMatter, .headingAnchors] options {}).render 8 root {}).map
      (fun outcome => (outcome.1.map fun _ => outcome.2.writer.html).toOption) = some (some html) := by decide +kernel
  have left : doc.withoutFrontMatter.childIds root = [⟨3⟩] := by decide +kernel
  have heading : doc.type? ⟨3⟩ = some .heading := by decide +kernel
  obtain rfl : whole = html := Except.ok.inj (ok_of_render sameWhole output)
  obtain rfl : bare = html := by
    refine (same onTop).mpr ?_
    rintro ⟨_, _, paragraph, type, alone⟩
    obtain rfl : ⟨3⟩ = paragraph := by simpa [left] using alone
    cases heading.symm.trans type
  exact ⟨linked.wellFormed, onTop, blocks, sameWhole, sameBare⟩

/-- One block of front matter beside one paragraph: the paragraph has its tag because of the block. -/
theorem not_renderDocument_withoutFrontMatter_paragraph :
    let titled := ((Document.empty.appendNew root .frontMatterBlock).2.appendNew ⟨1⟩ (.frontMatterEntry "a" ["b"])).2
    let doc := ((titled.appendNew root .paragraph).2.appendNew ⟨3⟩ (.text "x")).2
    let options : RendererOptions := { omitSingleParagraphP := true }
    doc.WellFormed ∧ renderDocument doc [.yamlFrontMatter] options {} = some (.ok "<p>x</p>\n") ∧
      renderDocument doc.withoutFrontMatter [.yamlFrontMatter] options {} = some (.ok "x") ∧
      renderDocument doc.withoutFrontMatter [.yamlFrontMatter] options {} ≠
        renderDocument doc [.yamlFrontMatter] options {} := by
  intro titled doc options
  have linked : doc.Linked :=
    (((Document.Linked.empty.appendNew (by decide) _).appendNew (by decide) _).appendNew (by decide) _).appendNew
      (by decide) _
  have outputWhole : ((ofExtensions doc [.yamlFrontMatter] options {}).render 8 root {}).map
      (fun outcome => (outcome.1.map fun _ => outcome.2.writer.html).toOption) = some (some "<p>x</p>\n") := by
    decide +kernel
  have outputBare : ((ofExtensions doc.withoutFrontMatter [.yamlFrontMatter] options {}).render 8 root {}).map
      (fun outcome => (outcome.1.map fun _ => outcome.2.writer.html).toOption) = some (some "x") := by
    decide +kernel
  have noRule (doc : Document) : ∀ type,
      (ofExtensions doc [.yamlFrontMatter] options {}).rules.renderRule? type = none := fun _ => rfl
  obtain ⟨whole, sameWhole⟩ := exists_renderDocument linked.wellFormed (rulesDescend_of_none (noRule doc))
  obtain ⟨bare, sameBare⟩ := exists_renderDocument linked.wellFormed.pruned.linked.wellFormed
    (rulesDescend_of_none (noRule doc.withoutFrontMatter))
  obtain rfl := ok_of_render sameWhole outputWhole
  obtain rfl := ok_of_render sameBare outputBare
  refine ⟨linked.wellFormed, sameWhole, sameBare, ?_⟩
  rw [sameWhole, sameBare]
  simp

end MarkdownHtml.Renderer
