import MarkdownHtml.Proofs.Dispatch
import MarkdownHtml.Proofs.Pieces

/-! The same rendering with other rules. Rules are only ever looked up by the type of a node, so rule sets that agree
on the types of a document render it alike, however often their rules have it rendered again. -/

namespace MarkdownHtml

structure RuleSet.AgreeOn (first second : RuleSet) (type : NodeType) : Prop where
  renderRule : first.renderRule? type = second.renderRule? type
  attributeRules : first.attributeRulesFor type = second.attributeRulesFor type

namespace Renderer
open Html RenderM

variable {renderer : Renderer} {rules : RuleSet} {α : Type}

def withRules (renderer : Renderer) (rules : RuleSet) : Renderer := { renderer with rules }

/-- Other rules that decorate the nodes of the document as before. -/
def DecoratesAlike (renderer : Renderer) (rules : RuleSet) : Prop :=
  ∀ id type, renderer.document.type? id = some type →
    rules.attributeRulesFor type = renderer.rules.attributeRulesFor type

section
variable (alike : renderer.DecoratesAlike rules)
include alike

private theorem attributes_withRules (id : NodeId) (tag : String) (base : AttributeSet) :
    (renderer.withRules rules).attributes id tag base = renderer.attributes id tag base := by
  unfold attributes
  cases found : renderer.document.type? id with
  | none =>
    simp only [withRules, found]
    rfl
  | some type =>
    simp only [withRules, found, alike id type found]
    rfl

/-- What the built-in rules write does not depend on the render rules. -/
theorem emit_withRules (pieces : List Piece) : (renderer.withRules rules).emit pieces = renderer.emit pieces := by
  have emitted : ∀ piece, (renderer.withRules rules).emitPiece piece = renderer.emitPiece piece := by
    intro piece
    cases piece <;> simp only [emitPiece, openTag, voidTag, attributes_withRules alike]
  induction pieces with
  | nil => rfl
  | cons piece rest ih => rw [emit, emit, emitted, ih]

theorem enter_withRules (id : NodeId) : (renderer.withRules rules).enter id = renderer.enter id := by
  cases found : renderer.document.kind? id with
  | none => simp only [enter, withRules, found]
  | some kind =>
    have foundUnder : (renderer.withRules rules).document.kind? id = some kind := found
    have opening : (renderer.withRules rules).opening id kind = renderer.opening id kind := by cases kind <;> rfl
    rw [enter_eq found, enter_eq foundUnder, emit_withRules alike, opening]

theorem exit_withRules (render : NodeId → RenderM Unit) (id : NodeId) :
    (renderer.withRules rules).exit render id = renderer.exit render id := by
  cases found : renderer.document.kind? id with
  | none =>
    rw [exit_none found]
    exact @exit_none (renderer.withRules rules) id found render
  | some kind =>
    have foundUnder : (renderer.withRules rules).document.kind? id = some kind := found
    by_cases document : kind = .document
    · subst document
      rw [exit_document found, exit_document foundUnder]
      simp only [emit_withRules alike]
      rfl
    · have closing : (renderer.withRules rules).closing id kind = renderer.closing id kind := by cases kind <;> rfl
      rw [exit_eq found document, exit_eq foundUnder document, emit_withRules alike, closing]

private theorem exec_withRules (render : NodeId → RenderM Unit) (id : NodeId) (program : RenderProgram α) :
    (renderer.withRules rules).exec render id program = renderer.exec render id program := by
  induction program with
  | done value => rfl
  | write call next ih => rw [exec, exec, ih]
  | output next ih => simp only [exec, ih]
  | renderChildren node next ih =>
    simp only [exec, ih]
    rfl
  | render node next ih => simp only [exec, ih]
  | attributes tag base next ih => simp only [exec, ih, attributes_withRules alike]

end

section
variable (agree : ∀ id type, renderer.document.type? id = some type → rules.AgreeOn renderer.rules type)
include agree

private theorem perform_withRules (render : NodeId → RenderM Unit) (step : Step) :
    (renderer.withRules rules).perform render step = renderer.perform render step := by
  have alike : renderer.DecoratesAlike rules := fun id type found => (agree id type found).attributeRules
  cases step with
  | exit id => simp only [perform, exit_withRules alike]
  | enter id =>
    cases found : renderer.document.type? id with
    | none =>
      have foundUnder : (renderer.withRules rules).document.type? id = none := found
      simp only [perform, found, foundUnder]
    | some type =>
      have foundUnder : (renderer.withRules rules).document.type? id = some type := found
      have chosen : (renderer.withRules rules).rules.renderRule? type = renderer.rules.renderRule? type :=
        (agree id type found).renderRule
      simp only [perform, found, foundUnder, chosen, enter_withRules alike, runRule, exec_withRules alike]
      rfl

/-- Rules that agree on the types of the document make the same of every stack of steps. -/
theorem run_withRules (budget : Nat) (stack : List Step) :
    (renderer.withRules rules).run budget stack = renderer.run budget stack := by
  induction budget generalizing stack with
  | zero => cases stack <;> rfl
  | succ budget ih =>
    cases stack with
    | nil => rfl
    | cons step rest => simp only [run, ih, perform_withRules agree]

end

end Renderer

end MarkdownHtml
