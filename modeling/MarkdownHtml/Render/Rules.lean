import MarkdownHtml.Event
import MarkdownHtml.Render.Program

/-! The rules of a caller. All attribute rules for a type run, in the order of registration; of
the render rules for a type, only the one registered last. -/

namespace MarkdownHtml

/-- A rule that changes the attributes of a tag, given the node that writes the tag and its name. -/
structure AttributeRule where
  types : NodeTypeSet
  apply : NodeRef → String → Html.AttributeSet → Except CallbackError Html.AttributeSet

/-- The place of the render rule for each type that has one, latest registration first. -/
structure DispatchTable where
  entries : List (NodeType × Nat) := []
  deriving Repr

namespace DispatchTable

def lookup (table : DispatchTable) (type : NodeType) : Option Nat := table.entries.lookup type

/-- Let a rule render one more type. If another one did so until now, that is reported. -/
def registerType (rule : Nat) (state : DispatchTable × List Event) (type : NodeType) : DispatchTable × List Event :=
  let (table, events) := state
  (⟨(type, rule) :: table.entries⟩, match table.lookup type with
    | some previous => events ++ [.shadowed rule previous type]
    | none => events)

def register (table : DispatchTable) (types : NodeTypeSet) (rule : Nat) : DispatchTable × List Event :=
  types.toList.foldl (registerType rule) (table, [])

end DispatchTable

structure RuleSet where
  attributeRules : Array AttributeRule := #[]
  renderRules : Array RenderRule := #[]
  dispatch : DispatchTable := {}

namespace RuleSet

def addAttributeRule (rules : RuleSet) (rule : AttributeRule) : RuleSet :=
  { rules with attributeRules := rules.attributeRules.push rule }

def addRenderRule (rules : RuleSet) (types : NodeTypeSet) (rule : RenderRule) : RuleSet × List Event :=
  let (dispatch, events) := rules.dispatch.register types rules.renderRules.size
  ({ rules with renderRules := rules.renderRules.push rule, dispatch }, events)

def renderRule? (rules : RuleSet) (type : NodeType) : Option RenderRule :=
  (rules.dispatch.lookup type).bind fun rule => rules.renderRules[rule]?

/-- The attribute rules for a type, in the order in which they run. -/
def attributeRulesFor (rules : RuleSet) (type : NodeType) : List AttributeRule :=
  rules.attributeRules.toList.filter fun rule => rule.types.contains type

end RuleSet

end MarkdownHtml
