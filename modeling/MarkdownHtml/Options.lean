/-! What can be switched: the optional extensions, and the options of reading and of writing. -/

namespace MarkdownHtml

inductive Extension
  | autolink | strikethrough | tables | footnotes | yamlFrontMatter | ins | imageAttributes | taskList
  | headingAnchors
  deriving DecidableEq, Repr, Inhabited

namespace Extension

/-- Every extension once, in the order in which the active ones take their turns. -/
def all : List Extension :=
  [autolink, strikethrough, tables, footnotes, yamlFrontMatter, ins, imageAttributes, taskList, headingAnchors]

def name : Extension → String
  | autolink => "Autolink"
  | strikethrough => "Strikethrough"
  | tables => "Tables"
  | footnotes => "Footnotes"
  | yamlFrontMatter => "YamlFrontMatter"
  | ins => "Ins"
  | imageAttributes => "ImageAttributes"
  | taskList => "TaskList"
  | headingAnchors => "HeadingAnchors"

def ofName? (name : String) : Option Extension := all.find? fun extension => extension.name == name

end Extension

structure Config where
  autolink : Bool := false
  strikethrough : Bool := false
  tables : Bool := false
  footnotes : Bool := false
  headingAnchors : Bool := false
  ins : Bool := false
  yamlFrontMatter : Bool := false
  imageAttributes : Bool := false
  taskList : Bool := false
  deriving DecidableEq, Repr, Inhabited

namespace Config

def isEnabled (config : Config) : Extension → Bool
  | .autolink => config.autolink
  | .strikethrough => config.strikethrough
  | .tables => config.tables
  | .footnotes => config.footnotes
  | .yamlFrontMatter => config.yamlFrontMatter
  | .ins => config.ins
  | .imageAttributes => config.imageAttributes
  | .taskList => config.taskList
  | .headingAnchors => config.headingAnchors

def set (config : Config) (extension : Extension) (enabled : Bool) : Config :=
  match extension with
  | .autolink => { config with autolink := enabled }
  | .strikethrough => { config with strikethrough := enabled }
  | .tables => { config with tables := enabled }
  | .footnotes => { config with footnotes := enabled }
  | .yamlFrontMatter => { config with yamlFrontMatter := enabled }
  | .ins => { config with ins := enabled }
  | .imageAttributes => { config with imageAttributes := enabled }
  | .taskList => { config with taskList := enabled }
  | .headingAnchors => { config with headingAnchors := enabled }

/-- Every extension switched on. -/
def all : Config := Extension.all.foldl (fun config extension => config.set extension true) {}

def extensions (config : Config) : List Extension := Extension.all.filter config.isEnabled

end Config

structure ParserOptions where
  /-- Turn straight quotes, runs of hyphens and triple dots into typographic punctuation. -/
  smart : Bool := false
  /-- Take any scheme as the beginning of a bare link, also inside of brackets. -/
  relaxedAutolinks : Bool := false
  /-- The info string of fenced code blocks that have none. -/
  defaultInfoString : Option String := none
  deriving DecidableEq, Repr, Inhabited

structure RendererOptions where
  /-- What is written for a soft line break. -/
  softbreak : String := "\n"
  /-- Escape raw HTML instead of passing it through. -/
  escapeHtml : Bool := false
  /-- Blank out destinations with unsafe protocols, and mark links as not to be followed. -/
  sanitizeUrls : Bool := false
  percentEncodeUrls : Bool := false
  /-- Leave out the paragraph tags of a document that is a single paragraph. -/
  omitSingleParagraphP : Bool := false
  deriving DecidableEq, Repr, Inhabited

end MarkdownHtml
