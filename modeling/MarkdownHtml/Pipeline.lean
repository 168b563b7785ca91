import MarkdownHtml.Document.OfText
import MarkdownHtml.Metadata
import MarkdownHtml.Render.Run
import MarkdownHtml.Visitor

/-! The pipeline from a text to its HTML: read, visit, collect metadata, render. It is set up once
and may render any number of texts; only what its visitors remember goes over from one to the next. -/

namespace MarkdownHtml

structure Pipeline (σ : Type) where
  config : Config := {}
  parser : ParserOptions := {}
  renderer : RendererOptions := {}
  visitors : List (Visitor σ) := []
  rules : RuleSet := {}

/-- What the rendering of one text leads to. There is no result if rules have nodes rendered without
end. -/
structure Outcome (σ : Type) where
  result : Option (Except Error Rendered)
  pipeline : Pipeline σ
  events : List Event

namespace Pipeline
variable {σ : Type}

def addVisitor (pipeline : Pipeline σ) (visitor : Visitor σ) : Pipeline σ × List Event :=
  ({ pipeline with visitors := pipeline.visitors ++ [visitor] }, [.registeredVisitor pipeline.visitors.length])

def addAttributeRule (pipeline : Pipeline σ) (rule : AttributeRule) : Pipeline σ × List Event :=
  ({ pipeline with rules := pipeline.rules.addAttributeRule rule }, [.registeredAttributeRule rule.types])

def addRenderRule (pipeline : Pipeline σ) (types : NodeTypeSet) (rule : RenderRule) : Pipeline σ × List Event :=
  let (rules, events) := pipeline.rules.addRenderRule types rule
  ({ pipeline with rules }, .registeredRenderRule types :: events)

/-- Read a text without visiting or rendering it. -/
def parse (pipeline : Pipeline σ) (text : String) : Document × List Event :=
  Document.ofText text pipeline.config.extensions pipeline.parser

def startEvent (pipeline : Pipeline σ) : Event :=
  .rendering pipeline.config.extensions pipeline.visitors.length pipeline.rules.attributeRules.size
    pipeline.rules.renderRules.size

/-- The metadata of a document, if front matter is asked for. -/
def metadata (pipeline : Pipeline σ) (doc : Document) : Option Metadata × List Event :=
  if pipeline.config.yamlFrontMatter then
    let (metadata, events) := Metadata.ofDocument doc
    (some metadata, events)
  else (none, [])

def render (pipeline : Pipeline σ) (text : String) : Outcome σ :=
  let (doc, reading) := pipeline.parse text
  let (visited, visitors, visiting) := Visitor.runAll doc pipeline.visitors
  let after := { pipeline with visitors }
  let events := pipeline.startEvent :: reading ++ visiting
  match visited with
  | .error error => ⟨some (.error error), after, events⟩
  | .ok () =>
    let (metadata, extracting) := pipeline.metadata doc
    let html? := Renderer.renderDocument doc pipeline.config.extensions pipeline.renderer pipeline.rules
    ⟨html?.map fun html => html.map ({ html := ·, metadata }), after, events ++ extracting⟩

/-- The sets of types that render rules may be registered for by a name. -/
def namedTypes : List (String × NodeTypeSet) :=
  [("block", .blocks), ("inline", .inlines), ("list_block", .lists), ("code_block", .codeBlocks),
    ("document", .singleton .document), ("heading", .singleton .heading), ("paragraph", .singleton .paragraph),
    ("block_quote", .singleton .blockQuote), ("bullet_list", .singleton .bulletList),
    ("ordered_list", .singleton .orderedList), ("list_item", .singleton .listItem),
    ("fenced_code_block", .singleton .fencedCodeBlock), ("indented_code_block", .singleton .indentedCodeBlock),
    ("thematic_break", .singleton .thematicBreak), ("html_block", .singleton .htmlBlock), ("text", .singleton .text),
    ("emphasis", .singleton .emphasis), ("strong_emphasis", .singleton .strongEmphasis), ("code", .singleton .code),
    ("link", .singleton .link), ("image", .singleton .image), ("hard_line_break", .singleton .hardLineBreak),
    ("soft_line_break", .singleton .softLineBreak), ("html_inline", .singleton .htmlInline),
    ("strikethrough", .singleton .strikethrough), ("ins", .singleton .ins), ("table_block", .singleton .tableBlock),
    ("table_head", .singleton .tableHead), ("table_body", .singleton .tableBody), ("table_row", .singleton .tableRow),
    ("table_cell", .singleton .tableCell), ("footnote_reference", .singleton .footnoteReference),
    ("footnote_definition", .singleton .footnoteDefinition), ("front_matter_block", .singleton .frontMatterBlock),
    ("front_matter_entry", .singleton .frontMatterEntry), ("image_attributes", .singleton .imageAttributes),
    ("task_list_marker", .singleton .taskListMarker)]

/-- Register a render rule for the types of a name. -/
def addNamedRule? (pipeline : Pipeline σ) (name : String) (rule : RenderRule) : Option (Pipeline σ × List Event) :=
  (namedTypes.lookup name).map fun types => pipeline.addRenderRule types rule

end Pipeline

end MarkdownHtml
