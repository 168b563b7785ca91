import MarkdownHtml.Proofs.ChangedRules
import MarkdownHtml.Proofs.RenderedHtml

/-! A rule for types that no node of a document has. It takes a place among the rules and shifts those behind it, but
what is chosen for any other type stays what it was. So the document is rendered as if the rule were not there. -/

namespace MarkdownHtml

/-- A rule together with the way it is registered. -/
inductive Registration
  | attributes (rule : AttributeRule)
  | rendering (types : NodeTypeSet) (rule : RenderRule)

def Registration.types : Registration → NodeTypeSet
  | .attributes rule => rule.types
  | .rendering types _ => types

namespace RuleSet

def register (rules : RuleSet) : Registration → RuleSet
  | .attributes rule => rules.addAttributeRule rule
  | .rendering types rule => (rules.addRenderRule types rule).1

/-- The rule set that registrations make, one after another. -/
def ofRegistrations (registrations : List Registration) : RuleSet := registrations.foldl register {}

variable {rules first second : RuleSet} {type : NodeType}

theorem Placed.register (placed : rules.Placed) (added : Registration) : (rules.register added).Placed := by
  cases added with
  | attributes rule => exact placed
  | rendering types rule => exact placed.addRenderRule types rule

theorem Placed.foldl (placed : rules.Placed) (registrations : List Registration) :
    (registrations.foldl RuleSet.register rules).Placed := by
  induction registrations generalizing rules with
  | nil => exact placed
  | cons added rest ih => exact ih (placed.register added)

private theorem attributeRulesFor_addAttributeRule (rules : RuleSet) (rule : AttributeRule) (type : NodeType) :
    (rules.addAttributeRule rule).attributeRulesFor type =
      rules.attributeRulesFor type ++ if rule.types.contains type then [rule] else [] := by
  unfold attributeRulesFor addAttributeRule
  rw [Array.toList_push, List.filter_append, List.filter_singleton]
  cases rule.types.contains type <;> rfl

theorem AgreeOn.register (agree : first.AgreeOn second type) (left : first.Placed) (right : second.Placed)
    (added : Registration) : (first.register added).AgreeOn (second.register added) type := by
  cases added with
  | attributes rule =>
    refine ⟨agree.renderRule, ?_⟩
    simp only [RuleSet.register, attributeRulesFor_addAttributeRule, agree.attributeRules]
  | rendering types rule =>
    refine ⟨?_, agree.attributeRules⟩
    simp only [RuleSet.register, renderRule?_addRenderRule left, renderRule?_addRenderRule right, agree.renderRule]

theorem AgreeOn.foldl (agree : first.AgreeOn second type) (left : first.Placed) (right : second.Placed)
    (registrations : List Registration) :
    (registrations.foldl RuleSet.register first).AgreeOn (registrations.foldl RuleSet.register second) type := by
  induction registrations generalizing first second with
  | nil => exact agree
  | cons added rest ih => exact ih (agree.register left right added) (left.register added) (right.register added)

private theorem agreeOn_register (placed : rules.Placed) {added : Registration}
    (other : added.types.contains type = false) : (rules.register added).AgreeOn rules type := by
  cases added with
  | attributes rule =>
    have aside : rule.types.contains type = false := other
    refine ⟨rfl, ?_⟩
    simp [RuleSet.register, attributeRulesFor_addAttributeRule, aside]
  | rendering types rule =>
    have aside : types.contains type = false := other
    refine ⟨?_, rfl⟩
    simp [RuleSet.register, renderRule?_addRenderRule placed, aside]

/-- Wherever it is registered, a rule changes nothing for a type that it is not for. -/
theorem agreeOn_ofRegistrations (before after : List Registration) {added : Registration}
    (other : added.types.contains type = false) :
    (ofRegistrations (before ++ added :: after)).AgreeOn (ofRegistrations (before ++ after)) type := by
  have placed : (before.foldl RuleSet.register {}).Placed := (Placed.start #[]).foldl before
  unfold ofRegistrations
  rw [List.foldl_append, List.foldl_cons, List.foldl_append]
  exact (agreeOn_register placed other).foldl (placed.register added) placed after

end RuleSet

namespace Renderer
open Document (root)
open RenderM

/-- A rule for types that no node of the document has makes no difference to the outcome, at whatever place among
the other rules it is registered. -/
theorem renderDocument_unused {doc : Document} (extensions : List Extension) (options : RendererOptions)
    (before after : List Registration) {added : Registration}
    (unused : ∀ id type, doc.type? id = some type → added.types.contains type = false) :
    renderDocument doc extensions options (.ofRegistrations (before ++ added :: after)) =
      renderDocument doc extensions options (.ofRegistrations (before ++ after)) := by
  let renderer := ofExtensions doc extensions options (.ofRegistrations (before ++ after))
  have agree : ∀ id type, renderer.document.type? id = some type →
      (RuleSet.ofRegistrations (before ++ added :: after)).AgreeOn renderer.rules type := fun id type found =>
    RuleSet.agreeOn_ofRegistrations before after (unused id type found)
  have same := run_withRules agree (defaultBudget doc) [.enter root]
  unfold renderDocument render
  rw [show (ofExtensions doc extensions options (.ofRegistrations (before ++ added :: after))) =
    renderer.withRules (.ofRegistrations (before ++ added :: after)) from rfl, same]

/-- A rule for headings, between the rules for the paragraph and the emphasis of a document without headings. -/
theorem renderDocument_unused_heading :
    let doc := (((Document.empty.appendNew root .paragraph).2.appendNew ⟨1⟩ .emphasis).2.appendNew ⟨2⟩ (.text "a")).2
    let writing : String → RenderRule := fun text _ => .write (.raw text) (.done (.ok ()))
    let rule : AttributeRule := ⟨.singleton .paragraph, fun _ _ attributes => .ok (attributes.insert "class" "b")⟩
    let before : List Registration := [.attributes rule]
    let added : Registration := .rendering (.ofList [.heading, .blockQuote]) (writing "c")
    let after : List Registration := [.rendering (.singleton .emphasis) (writing "d")]
    (∀ id type, doc.type? id = some type → added.types.contains type = false) ∧
      renderDocument doc [] {} (.ofRegistrations (before ++ added :: after)) = some (.ok "<p class=\"b\">d</p>\n") ∧
      renderDocument doc [] {} (.ofRegistrations (before ++ after)) = some (.ok "<p class=\"b\">d</p>\n") := by
  intro doc writing rule before added after
  have unused : ∀ id type, doc.type? id = some type → added.types.contains type = false := by
    intro id type found
    have inside : id.index < 4 := Document.holds_iff_kind.mpr ((Option.map_eq_some_iff.mp found).imp fun _ => And.left)
    obtain ⟨index⟩ := id
    revert found type
    revert index
    decide +kernel
  have linked : doc.Linked :=
    ((Document.Linked.empty.appendNew (by decide) _).appendNew (by decide) _).appendNew (by decide) _
  have descends : (ofExtensions doc [] {} (.ofRegistrations (before ++ after))).RulesDescend := by
    intro type chosen taken id _
    have last := taken.symm.trans
      (RuleSet.renderRule?_addRenderRule (RuleSet.Placed.start #[rule]) (.singleton .emphasis) (writing "d") type)
    split at last
    · cases last
      trivial
    · cases last
  obtain ⟨result, plain⟩ := exists_renderDocument linked.wellFormed descends
  have output : ((ofExtensions doc [] {} (.ofRegistrations (before ++ after))).render 6 root {}).map
      (fun outcome => (outcome.1.map fun _ => outcome.2.writer.html).toOption) =
        some (some "<p class=\"b\">d</p>\n") := by decide +kernel
  obtain rfl := ok_of_render plain output
  exact ⟨unused, (renderDocument_unused [] {} before after unused).trans plain, plain⟩

end Renderer

end MarkdownHtml
