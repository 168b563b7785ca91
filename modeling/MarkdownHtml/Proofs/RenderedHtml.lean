import MarkdownHtml.Proofs.RulePieces

/-! The HTML of a document whose types have no render rules, with raw HTML escaped. It splits into texts and tags
in one way, all tags are written by the rules of nodes, and every tag that is opened is closed. -/

namespace MarkdownHtml.Renderer
open Html RenderM

variable {renderer : Renderer}

private theorem Piece.Builtin.clean (escapes : renderer.options.escapeHtml = true)
    (plain : PlainText renderer.options.softbreak) {piece : Piece} (builtin : piece.Builtin renderer) :
    piece.Clean renderer.document := by
  cases piece with
  | openTag id name base => exact builtin.1
  | voidTag id name base => exact builtin.1
  | write call =>
    cases call with
    | raw text =>
      rcases builtin with text | rfl | ⟨raw, _⟩
      · exact text
      · exact plain
      · exact absurd (escapes.symm.trans raw) (by decide)
    | closeTag name => exact builtin
    | _ => trivial

private theorem shift_backrefPieces (id : NodeId) (label : String) (number references occurrence : Nat)
    (stack : List String) :
    (backrefPieces id label number references occurrence).foldlM Piece.shift stack = some stack := by
  by_cases later : occurrence > 1 <;> by_cases more : occurrence < references <;>
    simp [backrefPieces, later, more, Piece.shift]

private theorem shift_backrefsPieces (id : NodeId) (stack : List String) :
    (renderer.backrefsPieces id).foldlM Piece.shift stack = some stack := by
  unfold backrefsPieces
  split
  next label number references _ =>
    induction List.range references with
    | nil => rfl
    | cons earlier rest ih =>
      rw [List.flatMap_cons, List.foldlM_append, shift_backrefPieces]
      exact ih
  · rfl

private theorem shift_paragraphBackrefs (id : NodeId) (stack : List String) :
    (renderer.paragraphBackrefs id).foldlM Piece.shift stack = some stack := by
  unfold paragraphBackrefs
  split
  · split
    · exact shift_backrefsPieces _ stack
    · rfl
  · rfl

theorem shift_definitionBackrefs (id : NodeId) (stack : List String) :
    (renderer.definitionBackrefs id).foldlM Piece.shift stack = some stack := by
  unfold definitionBackrefs
  split
  · rfl
  · exact shift_backrefsPieces id stack

private theorem heading_ne_input (level : Nat) : s!"h{level}" ≠ "input" := by
  intro same
  have letters := congrArg String.toList same
  rw [toList_heading] at letters
  cases (List.cons.inj letters).1

/-- What a node opens before its children is what it closes behind them; without children it opens nothing. -/
theorem shift_opening_closing (renderer : Renderer) (id : NodeId) (kind : NodeKind) : ∃ left : List String,
    (renderer.opening id kind).foldlM Piece.shift [] = some left ∧
    (descent kind = .done → left = []) ∧
    (descent kind = .children → (renderer.closing id kind).foldlM Piece.shift left = some []) := by
  cases kind with
  | heading level =>
    have name := heading_ne_input level
    refine ⟨[s!"h{level}"], by simpa [opening, Piece.shift] using name, by simp [descent], fun _ => ?_⟩
    simp [closing.eq_def, Piece.shift]
  | paragraph =>
    have links : ∀ stack, (renderer.paragraphBackrefs id).foldlM Piece.shift stack = some stack :=
      shift_paragraphBackrefs id
    cases omitted : renderer.omitsParagraphTag id with
    | true =>
      refine ⟨[], by simp [opening, omitted], by simp [descent], fun _ => ?_⟩
      simp [closing.eq_def, omitted, links]
    | false =>
      refine ⟨["p"], by simp [opening, omitted, Piece.shift], by simp [descent], fun _ => ?_⟩
      simp [closing.eq_def, omitted, List.foldlM_append, links, Piece.shift]
  | footnoteDefinition label number references =>
    have links : ∀ stack, (renderer.definitionBackrefs id).foldlM Piece.shift stack = some stack :=
      shift_definitionBackrefs id
    refine ⟨["li"], by simp [opening, Piece.shift], by simp [descent], fun _ => ?_⟩
    simp [closing.eq_def, List.foldlM_append, links, Piece.shift]
  | tableCell header alignment =>
    cases header <;> exact ⟨_, rfl, by simp [descent], fun _ => rfl⟩
  | htmlBlock literal =>
    cases escaped : renderer.options.escapeHtml <;>
      exact ⟨[], by simp [opening, escaped, Piece.shift], fun _ => rfl, by simp [descent]⟩
  | htmlInline literal =>
    cases escaped : renderer.options.escapeHtml <;>
      exact ⟨[], by simp [opening, escaped, Piece.shift], fun _ => rfl, by simp [descent]⟩
  | _ =>
    refine ⟨_, rfl, ?_, fun _ => rfl⟩
    first | exact fun _ => rfl | simp [descent]

private theorem nests_builtin (escapes : renderer.options.escapeHtml = true)
    (plain : PlainText renderer.options.softbreak) {pieces : List Piece}
    (builtin : ∀ piece ∈ pieces, piece.Builtin renderer) {before after : List String}
    (shift : pieces.foldlM Piece.shift before = some after) : renderer.Nests (renderer.emit pieces) before after :=
  nests_emit (fun piece member => (builtin piece member).clean escapes plain) shift

private theorem nests_section (escapes : renderer.options.escapeHtml = true)
    (plain : PlainText renderer.options.softbreak) {id : NodeId} {children : RenderM Unit}
    (nests : renderer.Nests children ["ol", "section"] ["ol", "section"]) :
    renderer.Nests (do renderer.emit (sectionOpening id); children; renderer.emit sectionClosing) [] [] := by
  obtain ⟨opening, closing⟩ := @builtin_section renderer id
  exact .bind (nests_builtin escapes plain opening rfl) (.bind nests (nests_builtin escapes plain closing rfl))

private theorem nests_exit_document (escapes : renderer.options.escapeHtml = true)
    (plain : PlainText renderer.options.softbreak) {id : NodeId} (found : renderer.document.kind? id = some .document)
    {render : NodeId → RenderM Unit} (each : ∀ child, renderer.Nests (render child) [] []) :
    renderer.Nests (renderer.exit render id) [] [] := by
  rw [exit_document found]
  split
  · exact .pure []
  · exact nests_section escapes plain (.forM (fun child _ => each child) _)

/-- A subtree leaves the open tags as it has found them. -/
theorem nests_renderTree (noRules : ∀ type, renderer.rules.renderRule? type = none)
    (escapes : renderer.options.escapeHtml = true) (plain : PlainText renderer.options.softbreak) (depth : Nat)
    (id : NodeId) : renderer.Nests (renderer.renderTree depth id) [] [] := by
  induction depth generalizing id with
  | zero => rintro below state final ⟨⟩
  | succ depth ih =>
    unfold renderTree
    cases found : renderer.document.kind? id with
    | none =>
      simp only [Document.type?, found, Option.map_none]
      exact .pure []
    | some kind =>
      obtain ⟨left, opens, leaf, closes⟩ := shift_opening_closing renderer id kind
      simp only [Document.type?, found, Option.map_some, noRules, enter_eq found, bind_assoc, pure_bind]
      refine .bind (nests_builtin escapes plain (builtin_opening found) opens) ?_
      cases held : descent kind with
      | done =>
        rw [leaf held]
        exact .pure []
      | children =>
        refine .bind (.forM (fun child _ => ih child) left) ?_
        by_cases document : kind = .document
        · subst document
          obtain rfl : left = [] := (Option.some.inj opens).symm
          exact nests_exit_document escapes plain found ih
        · rw [exit_eq found document]
          exact nests_builtin escapes plain (builtin_closing found) (closes held)

theorem renderRule?_none {rules : RuleSet} (noRules : rules.renderRules = #[]) (type : NodeType) :
    rules.renderRule? type = none := by
  unfold RuleSet.renderRule?
  cases rules.dispatch.lookup type with
  | none => rfl
  | some rule => simp [noRules]

theorem render_missing {id : NodeId} (missing : ¬ renderer.document.Holds id) {budget : Nat} (some_ : 0 < budget) :
    renderer.render budget id = pure () := by
  obtain ⟨budget, rfl⟩ : ∃ less, budget = less + 1 := ⟨budget - 1, by omega⟩
  have none_ : renderer.document.type? id = none := by
    cases found : renderer.document.kind? id with
    | none => simp [Document.type?, found]
    | some kind => exact absurd (Document.holds_iff_kind.mpr ⟨kind, found⟩) missing
  simp only [render, run_cons, perform, none_, pure_bind, List.nil_append, run_nil]

/-- The rendering of the root ends, even if there is no root. -/
theorem render_root_halts_of_descends (wellFormed : renderer.document.WellFormed) (descends : renderer.RulesDescend)
    {budget : Nat} (enough : 2 * renderer.document.size + 1 ≤ budget) :
    Halts (renderer.render budget Document.root) := by
  by_cases held : renderer.document.Holds Document.root
  · exact render_halts_of_descends wellFormed descends held (by omega)
  · rw [render_missing held (by omega)]
    exact .pure ()

theorem render_root_halts (wellFormed : renderer.document.WellFormed)
    (noRules : ∀ type, renderer.rules.renderRule? type = none) {budget : Nat}
    (enough : 2 * renderer.document.size + 1 ≤ budget) : Halts (renderer.render budget Document.root) :=
  render_root_halts_of_descends wellFormed (rulesDescend_of_none noRules) enough

theorem le_defaultBudget (doc : Document) : 2 * doc.size + 1 ≤ defaultBudget doc := by
  unfold defaultBudget
  omega

theorem renderDocument_eq {doc : Document} {extensions : List Extension} {options : RendererOptions} {rules : RuleSet}
    {outcome : Outcome Unit}
    (ran : (ofExtensions doc extensions options rules).render (defaultBudget doc) Document.root {} = some outcome) :
    renderDocument doc extensions options rules = some (outcome.1.map fun _ => outcome.2.writer.html) := by
  rw [renderDocument, ran]
  rfl

/-- A document has an outcome unless a rule has more rendered than what is below its node. -/
theorem exists_renderDocument {doc : Document} (wellFormed : doc.WellFormed) {extensions : List Extension}
    {options : RendererOptions} {rules : RuleSet}
    (descends : (ofExtensions doc extensions options rules).RulesDescend) :
    ∃ result, renderDocument doc extensions options rules = some result := by
  obtain ⟨outcome, ran⟩ := render_root_halts_of_descends wellFormed descends (le_defaultBudget doc) {}
  exact ⟨_, renderDocument_eq ran⟩

/-- What becomes of a document can be seen with any budget that is enough. -/
theorem view_of_render {doc : Document} {extensions : List Extension} {options : RendererOptions} {rules : RuleSet}
    {result : Except Error String} (same : renderDocument doc extensions options rules = some result) {budget : Nat}
    {view : Except Error String → β} {shown : β}
    (output : ((ofExtensions doc extensions options rules).render budget Document.root {}).map
      (fun outcome => view (outcome.1.map fun _ => outcome.2.writer.html)) = some shown) :
    view result = shown := by
  obtain ⟨outcome, ran, seen⟩ := Option.map_eq_some_iff.mp output
  obtain ⟨whole, ranWhole, rfl⟩ := Option.map_eq_some_iff.mp same
  cases render_unique ranWhole ran
  exact seen

theorem ok_of_render {doc : Document} {extensions : List Extension} {options : RendererOptions} {rules : RuleSet}
    {result : Except Error String} (same : renderDocument doc extensions options rules = some result) {budget : Nat}
    {html : String} (output : ((ofExtensions doc extensions options rules).render budget Document.root {}).map
      (fun outcome => (outcome.1.map fun _ => outcome.2.writer.html).toOption) = some (some html)) :
    result = .ok html := by
  have seen := view_of_render same output
  cases result with
  | error error => cases seen
  | ok value => exact congrArg Except.ok (Option.some.inj seen)

private theorem leavesOpen_render (noRules : ∀ type, renderer.rules.renderRule? type = none)
    (escapes : renderer.options.escapeHtml = true) (plain : PlainText renderer.options.softbreak) {budget : Nat}
    {id : NodeId} {final : RenderState} (ran : renderer.render budget id {} = some (.ok (), final)) :
    LeavesOpen (KnownTag renderer.document) final.writer.html [] := by
  obtain ⟨depth, atDepth⟩ := render_approximated budget id {} _ ran
  exact nests_renderTree noRules escapes plain depth id [] {} final (atDepth depth (Nat.le_refl _)) .start

/-- Without render rules and with raw HTML escaped, a document has an outcome, and if that is its HTML, this
splits in one way into texts and tags. The tags have names that the rules of its nodes write, and all of
them are closed in the reverse order. -/
theorem renderDocument_nested {doc : Document} (wellFormed : doc.WellFormed) (extensions : List Extension)
    {options : RendererOptions} {rules : RuleSet} (noRules : rules.renderRules = #[])
    (escapes : options.escapeHtml = true) (plain : PlainText options.softbreak) :
    ∃ result, renderDocument doc extensions options rules = some result ∧ ∀ html, result = .ok html →
      ∃ tokens, Splits html tokens ∧ (∀ other, Splits html other → other = tokens) ∧
        (∀ inside ∈ insides tokens, KnownTag doc (tagName inside)) ∧ Nested tokens := by
  have noRule := renderRule?_none noRules
  have halts : Halts ((ofExtensions doc extensions options rules).render (defaultBudget doc) Document.root) :=
    render_root_halts wellFormed noRule (le_defaultBudget doc)
  obtain ⟨outcome, ran⟩ := halts {}
  refine ⟨_, renderDocument_eq ran, ?_⟩
  obtain ⟨error | value, final⟩ := outcome
  · exact nofun
  · rintro html ⟨⟩
    obtain ⟨tokens, printed, sound, named, nested⟩ := leavesOpen_render noRule escapes plain ran
    have split := splits_merge printed sound
    refine ⟨merge tokens, split, fun other splits => splits.unique split, ?_, ?_⟩
    · rw [insides_merge]
      exact named
    · rw [Nested, insides_merge]
      exact nested

theorem renderDocument_nested_heading :
    let doc := ((Document.empty.appendNew Document.root (.heading 2)).2.appendNew ⟨1⟩ (.text "</h2>")).2
    let options : RendererOptions := { escapeHtml := true }
    let html := "<h2 id=\"h2\">&lt;/h2&gt;</h2>\n"
    doc.WellFormed ∧ PlainText options.softbreak ∧
      renderDocument doc [.headingAnchors] options {} = some (.ok html) ∧
      ∃ tokens, Splits html tokens ∧ (∀ inside ∈ insides tokens, KnownTag doc (tagName inside)) ∧ Nested tokens := by
  intro doc options html
  have linked : doc.Linked := (Document.Linked.empty.appendNew (by decide) _).appendNew (by decide) _
  have plain : PlainText options.softbreak := by decide
  have rules : ({} : RuleSet).renderRules = #[] := rfl
  obtain ⟨result, same, tags⟩ := renderDocument_nested linked.wellFormed [.headingAnchors] rules rfl plain
  -- Six steps are enough to see what the result is.
  have output : ((ofExtensions doc [.headingAnchors] options {}).render 6 Document.root {}).map
      (fun outcome => (outcome.1.map fun _ => outcome.2.writer.html).toOption) = some (some html) := by decide +kernel
  obtain rfl := ok_of_render same output
  obtain ⟨tokens, split, _, named, nested⟩ := tags html rfl
  exact ⟨linked.wellFormed, plain, same, tokens, split, named, nested⟩

end MarkdownHtml.Renderer
