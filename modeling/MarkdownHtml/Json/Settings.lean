import MarkdownHtml.Json.Record
import MarkdownHtml.Metadata
import MarkdownHtml.Node.Kind

/-! The JSON of the options, of names, and of what has been rendered. -/

namespace MarkdownHtml
open Json

namespace Config

def fields : List (String × (Config → Bool)) :=
  [("enable_autolink", autolink), ("enable_strikethrough", strikethrough), ("enable_tables", tables),
    ("enable_footnotes", footnotes), ("enable_heading_anchors", headingAnchors), ("enable_ins", ins),
    ("enable_yaml_front_matter", yamlFrontMatter), ("enable_image_attributes", imageAttributes),
    ("enable_task_list", taskList)]

def ofJson? (value : Value) : Option Config := do
  let record ← Record.ofValue? (fields.map (·.1)) value
  let flag := fun name => record.getD name false Value.asBool?
  return {
    autolink := ← flag "enable_autolink"
    strikethrough := ← flag "enable_strikethrough"
    tables := ← flag "enable_tables"
    footnotes := ← flag "enable_footnotes"
    headingAnchors := ← flag "enable_heading_anchors"
    ins := ← flag "enable_ins"
    yamlFrontMatter := ← flag "enable_yaml_front_matter"
    imageAttributes := ← flag "enable_image_attributes"
    taskList := ← flag "enable_task_list" }

def toJson (config : Config) : String := textOfFields (fields.map fun (name, flag) => (name, textOfBool (flag config)))

end Config

namespace ParserOptions

def ofJson? (value : Value) : Option ParserOptions := do
  let record ← Record.ofValue? ["smart", "relaxed_autolinks", "default_info_string"] value
  return {
    smart := ← record.getD "smart" false Value.asBool?
    relaxedAutolinks := ← record.getD "relaxed_autolinks" false Value.asBool?
    defaultInfoString := ← record.getD "default_info_string" none (Value.orNull? Value.asString?) }

def toJson (options : ParserOptions) : String :=
  textOfFields [("smart", textOfBool options.smart), ("relaxed_autolinks", textOfBool options.relaxedAutolinks),
    ("default_info_string", textOfOption quoted options.defaultInfoString)]

end ParserOptions

namespace RendererOptions

def ofJson? (value : Value) : Option RendererOptions := do
  let record ← Record.ofValue?
    ["softbreak", "escape_html", "sanitize_urls", "percent_encode_urls", "omit_single_paragraph_p"] value
  let standard : RendererOptions := {}
  return {
    softbreak := ← record.getD "softbreak" standard.softbreak Value.asString?
    escapeHtml := ← record.getD "escape_html" false Value.asBool?
    sanitizeUrls := ← record.getD "sanitize_urls" false Value.asBool?
    percentEncodeUrls := ← record.getD "percent_encode_urls" false Value.asBool?
    omitSingleParagraphP := ← record.getD "omit_single_paragraph_p" false Value.asBool? }

def toJson (options : RendererOptions) : String :=
  textOfFields [("softbreak", quoted options.softbreak), ("escape_html", textOfBool options.escapeHtml),
    ("sanitize_urls", textOfBool options.sanitizeUrls), ("percent_encode_urls", textOfBool options.percentEncodeUrls),
    ("omit_single_paragraph_p", textOfBool options.omitSingleParagraphP)]

end RendererOptions

def Extension.ofJson? (value : Value) : Option Extension := value.asName?.bind Extension.ofName?

def Extension.toJson (extension : Extension) : String := quoted extension.name

def NodeType.ofJson? (value : Value) : Option NodeType := value.asName?.bind NodeType.ofName?

def NodeType.toJson (type : NodeType) : String := quoted type.name

def Alignment.ofJson? (value : Value) : Option Alignment := value.asName?.bind Alignment.ofName?

def Alignment.toJson (alignment : Alignment) : String := quoted alignment.name

namespace Metadata

/-- Metadata from the members of an object. A repeated key keeps its place and takes the later value. -/
def ofJson? : Value → Option Metadata
  | .object members => members.foldlM (fun metadata (key, value) =>
      return metadata.insert (← key) (← value.asListOf? Value.asString?)) {}
  | _ => none

def toJson (metadata : Metadata) : String :=
  textOfFields (metadata.entries.map fun (key, values) => (key, textOfList quoted values))

end Metadata

namespace Rendered

/-- As an array, both fields have to be there. -/
def ofJson? (value : Value) : Option Rendered := do
  let record ← Record.ofValue? ["html", "metadata"] value
  let html ← record.get? "html" Value.asString?
  let metadata := Value.orNull? Metadata.ofJson?
  match value with
  | .array _ => return { html, metadata := ← record.get? "metadata" metadata }
  | _ => return { html, metadata := ← record.getD "metadata" none metadata }

def toJson (rendered : Rendered) : String :=
  textOfFields [("html", quoted rendered.html), ("metadata", textOfOption Metadata.toJson rendered.metadata)]

end Rendered

end MarkdownHtml
