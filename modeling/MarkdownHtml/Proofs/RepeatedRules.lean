import MarkdownHtml.Proofs.ChangedRules
import MarkdownHtml.Proofs.RenderedHtml

/-! The built-in elements that do nothing but put tags around their children can be left to rules of a caller. Such a
rule asks for the attributes of the tag, has the children rendered through dispatch, and passes every error on.
Whichever elements are left to such rules, the outcome of a rendering is the one without them. -/

namespace MarkdownHtml.Renderer
open Html RenderM

variable {renderer : Renderer} {α β : Type}

/-- Where an element asks for fresh lines. -/
inductive Spacing
  /-- Before and behind both of its tags. -/
  | block
  /-- Behind its closing tag. -/
  | item
  | inline
  deriving DecidableEq

structure Element where
  type : NodeType
  tag : String
  spacing : Spacing

/-- Go on with what a call has given, or pass its error on. -/
def passingOn (next : α → RenderProgram CallbackResult) : Except CallbackError α → RenderProgram CallbackResult
  | .error error => .done (.error error)
  | .ok value => next value

namespace Element

def all : List Element :=
  [⟨.blockQuote, "blockquote", .block⟩, ⟨.bulletList, "ul", .block⟩, ⟨.listItem, "li", .item⟩,
    ⟨.emphasis, "em", .inline⟩, ⟨.strongEmphasis, "strong", .inline⟩, ⟨.strikethrough, "del", .inline⟩,
    ⟨.ins, "ins", .inline⟩]

/-- Ask for a fresh line where the spacing of an element is one of these. -/
def line (element : Element) (spacings : List Spacing) (rest : RenderProgram α) : RenderProgram α :=
  if element.spacing ∈ spacings then .write .line rest else rest

/-- The rule that repeats the HTML of an element. -/
def rule (element : Element) : RenderRule := fun node =>
  element.line [.block] <| .attributes element.tag {} <| passingOn fun attributes =>
    .write (.tagWith element.tag attributes) <| element.line [.block] <| .renderChildren node.id <| passingOn fun _ =>
      element.line [.block] <| .write (.closeTag element.tag) <| element.line [.block, .item] <| .done (.ok ())

def linePieces (element : Element) (spacings : List Spacing) : List Piece :=
  if element.spacing ∈ spacings then [.line] else []

def opening (element : Element) (id : NodeId) : List Piece :=
  element.linePieces [.block] ++ [.openTag id element.tag {}] ++ element.linePieces [.block]

def closing (element : Element) : List Piece :=
  element.linePieces [.block] ++ [.closeTag element.tag] ++ element.linePieces [.block, .item]

end Element

/-- The rule set that leaves some elements to the rules that repeat them. -/
def repeating (attributeRules : Array AttributeRule) (chosen : List Element) : RuleSet :=
  RuleSet.addRenderRules { attributeRules } (chosen.map fun element => (.singleton element.type, element.rule))

private theorem attributeRules_repeating (attributeRules : Array AttributeRule) (chosen : List Element) :
    (repeating attributeRules chosen).attributeRules = attributeRules :=
  RuleSet.attributeRules_addRenderRules _ _

private theorem renderRule?_repeating {attributeRules : Array AttributeRule} {chosen : List Element} {type : NodeType}
    {rule : RenderRule} (found : (repeating attributeRules chosen).renderRule? type = some rule) :
    ∃ element ∈ chosen, element.type = type ∧ rule = element.rule := by
  rcases RuleSet.registered_of_renderRule? (.start attributeRules) found with ⟨types, registered, contained⟩ | none
  · obtain ⟨element, member, same⟩ := List.mem_map.mp registered
    cases same
    rw [NodeTypeSet.contains_singleton, beq_iff_eq] at contained
    exact ⟨element, member, contained.symm, rfl⟩
  · cases none

def conclude (type : NodeType) : CallbackResult → RenderM Unit
  | .ok () => return
  | .error error => throw (Error.ofCallback (.render type) error)

private theorem conclude_ok (type : NodeType) : conclude type (.ok ()) = pure () := rfl

private theorem runRule_eq (render : NodeId → RenderM Unit) (id : NodeId) (type : NodeType) (rule : RenderRule) :
    renderer.runRule render id type rule =
      (do conclude type (← renderer.exec render id (rule (renderer.node id)))) := by
  unfold runRule
  refine congrArg _ (funext fun result => ?_)
  cases result <;> rfl

private theorem conclude_passingOn (render : NodeId → RenderM Unit) (id : NodeId) (type : NodeType)
    (computation : RenderM α) (next : α → RenderProgram CallbackResult) :
    (do conclude type (← renderer.exec render id (passingOn next (← computation.reify)))) =
      (do conclude type (← renderer.exec render id (next (← computation)))) := by
  funext state
  simp only [bind_apply, reify]
  rcases computation state with _ | ⟨error | value, after⟩ <;> rfl

private theorem exec_line (render : NodeId → RenderM Unit) (id : NodeId) (element : Element) (spacings : List Spacing)
    (rest : RenderProgram α) :
    renderer.exec render id (element.line spacings rest) =
      (do renderer.emit (element.linePieces spacings); renderer.exec render id rest) := by
  by_cases wanted : element.spacing ∈ spacings <;>
    simp [Element.line, Element.linePieces, wanted, exec, emit, emitPiece]

private theorem runRule_element (render : NodeId → RenderM Unit) (id : NodeId) (type : NodeType) (element : Element) :
    renderer.runRule render id type element.rule = (do
      renderer.emit (element.opening id)
      (renderer.document.childIds id).forM render
      renderer.emit element.closing) := by
  rw [runRule_eq]
  unfold Element.rule Element.opening Element.closing
  simp only [exec_line, emit_append, exec, bind_assoc, conclude_passingOn, emit, emitPiece, openTag, node, pure_bind,
    conclude_ok, bind_pure_unit]

private theorem element_pieces (renderer : Renderer) {element : Element} (known : element ∈ Element.all)
    {kind : NodeKind} (same : element.type = kind.type) (id : NodeId) :
    element.opening id = renderer.opening id kind ∧ element.closing = renderer.closing id kind ∧
      descent kind = .children ∧ kind.type ≠ .document := by
  simp only [Element.all, List.mem_cons, List.not_mem_nil, or_false] at known
  rcases known with rfl | rfl | rfl | rfl | rfl | rfl | rfl <;> cases kind <;> cases same <;>
    exact ⟨rfl, rfl, rfl, nofun⟩

/-- Rules that repeat built-in elements make no difference to the recursion. -/
theorem renderTree_repeating (wellFormed : renderer.document.WellFormed) {attributeRules : Array AttributeRule}
    (rules : renderer.rules = { attributeRules }) {chosen : List Element} (known : chosen ⊆ Element.all) (depth : Nat)
    (id : NodeId) :
    (renderer.withRules (repeating attributeRules chosen)).renderTree depth id = renderer.renderTree depth id := by
  have alike : renderer.DecoratesAlike (repeating attributeRules chosen) := by
    intro _ type _
    rw [RuleSet.attributeRulesFor, attributeRules_repeating, rules, RuleSet.attributeRulesFor]
  induction depth generalizing id with
  | zero => rfl
  | succ depth ih =>
    have children : (renderer.withRules (repeating attributeRules chosen)).renderTree depth = renderer.renderTree depth :=
      funext ih
    have noRule : ∀ type, renderer.rules.renderRule? type = none := by
      intro type
      rw [rules]
      rfl
    rw [renderTree, renderTree, children]
    cases found : renderer.document.kind? id with
    | none =>
      have type : renderer.document.type? id = none := by simp [Document.type?, found]
      simp only [withRules, type]
    | some kind =>
      have type : renderer.document.type? id = some kind.type := by simp [Document.type?, found]
      have typeUnder : (renderer.withRules (repeating attributeRules chosen)).document.type? id = some kind.type := type
      simp only [type, typeUnder, noRule]
      cases taken : (repeating attributeRules chosen).renderRule? kind.type with
      | none =>
        have takenUnder : (renderer.withRules (repeating attributeRules chosen)).rules.renderRule? kind.type = none := taken
        simp only [takenUnder, enter_withRules alike, exit_withRules alike]
        rfl
      | some rule =>
        have takenUnder : (renderer.withRules (repeating attributeRules chosen)).rules.renderRule? kind.type = some rule :=
          taken
        obtain ⟨element, member, ofType, rfl⟩ := renderRule?_repeating taken
        obtain ⟨opens, closes, descends, otherType⟩ := element_pieces renderer (known member) ofType id
        have noDocument : kind ≠ .document := fun document => otherType (document ▸ rfl)
        have noDocumentType : renderer.document.type? id ≠ some .document := by simpa [type] using otherType
        simp only [takenUnder, runRule_element, emit_withRules alike, opens, closes, enter_eq found, descends, bind_assoc,
          pure_bind, inPlace_eq wellFormed noDocumentType, exit_eq found noDocument]
        rfl

private theorem descends_line {doc : Document} {id : NodeId} (element : Element) (spacings : List Spacing)
    {rest : RenderProgram α} (descends : Descends doc id rest) : Descends doc id (element.line spacings rest) := by
  unfold Element.line
  split <;> exact descends

private theorem descends_passingOn {doc : Document} {id : NodeId} {next : α → RenderProgram CallbackResult}
    (descends : ∀ value, Descends doc id (next value)) (result : Except CallbackError α) :
    Descends doc id (passingOn next result) := by
  cases result with
  | error error => trivial
  | ok value => exact descends value

private theorem descends_rule (doc : Document) (id : NodeId) (element : Element) :
    Descends doc id (element.rule ⟨doc, id⟩) := by
  refine descends_line element _ (descends_passingOn fun attributes => descends_line element _ ?_)
  exact ⟨.refl, descends_passingOn fun _ => descends_line element _ (descends_line element _ trivial)⟩

/-- It makes no difference to the outcome of a document which of the elements are left to rules that repeat them:
there is an outcome, and it is the same HTML, or the same error of the same attribute rule. -/
theorem renderDocument_repeating {doc : Document} (wellFormed : doc.WellFormed) (extensions : List Extension)
    (options : RendererOptions) (attributeRules : Array AttributeRule) {chosen : List Element}
    (known : chosen ⊆ Element.all) :
    ∃ result, renderDocument doc extensions options { attributeRules } = some result ∧
      renderDocument doc extensions options (repeating attributeRules chosen) = some result := by
  let plain := ofExtensions doc extensions options { attributeRules }
  let repeated := ofExtensions doc extensions options (repeating attributeRules chosen)
  have noRule : ∀ type, plain.rules.renderRule? type = none := fun _ => rfl
  have descends : repeated.RulesDescend := by
    intro type rule taken id _
    obtain ⟨element, _, _, rfl⟩ := renderRule?_repeating taken
    exact descends_rule doc id element
  obtain ⟨outcome, ran⟩ := render_root_halts wellFormed noRule (le_defaultBudget doc) {}
  obtain ⟨other, ranRepeated⟩ := render_root_halts_of_descends wellFormed descends (le_defaultBudget doc) {}
  -- Both come to what one and the same recursion comes to.
  have recursion : ∀ depth, repeated.renderTree depth Document.root = plain.renderTree depth Document.root :=
    fun depth => @renderTree_repeating plain wellFormed attributeRules rfl chosen known depth Document.root
  have ends := render_approximated _ Document.root {} _ ran
  have endsRepeated := render_approximated _ Document.root {} _ ranRepeated
  simp only [recursion] at endsRepeated
  obtain rfl := ends.unique endsRepeated
  exact ⟨_, renderDocument_eq ran, renderDocument_eq ranRepeated⟩

theorem renderDocument_repeating_quote :
    let quoted := ((Document.empty.appendNew Document.root .blockQuote).2.appendNew ⟨1⟩ .paragraph).2
    let doc := ((quoted.appendNew ⟨2⟩ .emphasis).2.appendNew ⟨3⟩ (.text "a")).2
    let rule : AttributeRule := ⟨.singleton .emphasis, fun _ _ attributes => .ok (attributes.insert "class" "b")⟩
    let html := "<blockquote>\n<p><em class=\"b\">a</em></p>\n</blockquote>\n"
    doc.WellFormed ∧ Element.all ⊆ Element.all ∧ renderDocument doc [] {} { attributeRules := #[rule] } = some (.ok html) ∧
      renderDocument doc [] {} (repeating #[rule] Element.all) = some (.ok html) := by
  intro quoted doc rule html
  have linked : doc.Linked :=
    (((Document.Linked.empty.appendNew (by decide) _).appendNew (by decide) _).appendNew (by decide) _).appendNew
      (by decide) _
  have known := List.Subset.refl Element.all
  obtain ⟨result, plain, repeated⟩ := renderDocument_repeating linked.wellFormed [] {} #[rule] known
  have output : ((ofExtensions doc [] {} { attributeRules := #[rule] }).render 10 Document.root {}).map
      (fun outcome => (outcome.1.map fun _ => outcome.2.writer.html).toOption) = some (some html) := by decide +kernel
  obtain rfl := ok_of_render plain output
  exact ⟨linked.wellFormed, known, plain, repeated⟩

end MarkdownHtml.Renderer
