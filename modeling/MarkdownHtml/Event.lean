import MarkdownHtml.Node.Type
import MarkdownHtml.Options

/-! What is reported while a pipeline is set up and runs. -/

namespace MarkdownHtml

inductive Level
  | warn | debug | trace
  deriving DecidableEq, Repr

inductive Event
  | registeredVisitor (index : Nat)
  | registeredAttributeRule (types : NodeTypeSet)
  | registeredRenderRule (types : NodeTypeSet)
  | shadowed (rule previous : Nat) (type : NodeType)
  | rendering (extensions : List Extension) (visitors attributeRules renderRules : Nat)
  | flattened
  | unsupportedLine (line : String)
  | droppedDefinition (label : String)
  | wrappedInserted (runs : Nat)
  | parsed (nodes extensions : Nat)
  | ranVisitors (count : Nat)
  | extractedKeys (count : Nat)
  deriving DecidableEq, Repr

namespace Event

def level : Event → Level
  | unsupportedLine .. => .warn
  | rendering .. | parsed .. | ranVisitors .. | extractedKeys .. => .debug
  | _ => .trace

def message : Event → String
  | registeredVisitor index => s!"Registered visitor #{index}"
  | registeredAttributeRule types => s!"Registered attribute rule for {types.describe}"
  | registeredRenderRule types => s!"Registered render rule for {types.describe}"
  | shadowed rule previous type => s!"Render rule #{rule} shadows rule #{previous} for {type.name}"
  | rendering extensions visitors attributeRules renderRules =>
    let names := "[" ++ ", ".intercalate (extensions.map Extension.name) ++ "]"
    s!"Rendering with extensions {names}, {visitors} visitors, " ++
      s!"{attributeRules} attribute rules, {renderRules} render rules"
  | flattened => "Flattening unsupported node into its parent"
  | unsupportedLine line => "Ignoring unsupported front matter line: " ++ line
  | droppedDefinition label => "Dropping unreferenced footnote definition '" ++ label ++ "'"
  | wrappedInserted runs => s!"Wrapping {runs} inserted-text runs"
  | parsed nodes extensions => s!"Parsed document with {nodes} nodes ({extensions} extensions active)"
  | ranVisitors count => s!"Ran {count} visitors"
  | extractedKeys count => s!"Extracted {count} front matter keys"

end Event

end MarkdownHtml
