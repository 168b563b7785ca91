import MarkdownHtml.Grammar.LinkParts
import MarkdownHtml.Grammar.Tree

/-! Which footnotes of a text are used. The definitions that are referred to move to the end, in the
order of their first references, and the others go. References to nothing become text. Of several
definitions of one label the last one counts, and the others stay where they are. -/

namespace MarkdownHtml.Grammar

def footnoteKey (label : String) : String := labelKey label.toList

/-- Definitions by the keys of their labels. -/
abbrev FootnoteTable := List (String × GrammarTree)

mutual

/-- Take the definitions that count out of a tree, given those behind it. A definition is not searched
for others. -/
def takeFootnotes (table : FootnoteTable) : GrammarTree → List GrammarTree × FootnoteTable
  | .node kind children =>
    match kind with
    | .footnoteDefinition label =>
      let key := footnoteKey label
      if (table.lookup key).isSome then ([.node kind children], table)
      else ([], (key, .node kind children) :: table)
    | _ =>
      let (children, table) := takeAllFootnotes table children
      ([.node kind children], table)

def takeAllFootnotes (table : FootnoteTable) : List GrammarTree → List GrammarTree × FootnoteTable
  | [] => ([], table)
  | tree :: rest =>
    let (rest, table) := takeAllFootnotes table rest
    let (kept, table) := takeFootnotes table tree
    (kept ++ rest, table)

end

def shownLabel (label : String) : String := String.ofList (tidyLabel label.toList)

/-- A definition with its label as it is shown. -/
def tidyDefinition : GrammarTree → GrammarTree
  | .node (.footnoteDefinition label) children => .node (.footnoteDefinition (shownLabel label)) children
  | tree => tree

/-- The label of a definition. -/
def definitionLabel : GrammarTree → String
  | .node (.footnoteDefinition label) _ => label
  | _ => ""

/-- A reference with the label of its definition, and the keys of the definitions referred to so far. -/
def resolveReference (table : FootnoteTable) (used : List String) (label : String) : GrammarKind × List String :=
  let key := footnoteKey label
  match table.lookup key with
  | some definition =>
    (.footnoteReference (shownLabel (definitionLabel definition)), if used.contains key then used else used ++ [key])
  | none => (.text ("[^" ++ label ++ "]"), used)

mutual

def resolveFootnotes (table : FootnoteTable) (used : List String) : GrammarTree → GrammarTree × List String
  | .node kind children =>
    match kind with
    | .footnoteReference label =>
      let (kind, used) := resolveReference table used label
      (.node kind children, used)
    | _ =>
      let (children, used) := resolveAllFootnotes table used children
      (.node kind children, used)

def resolveAllFootnotes (table : FootnoteTable) (used : List String) :
    List GrammarTree → List GrammarTree × List String
  | [] => ([], used)
  | tree :: rest =>
    let (tree, used) := resolveFootnotes table used tree
    let (rest, used) := resolveAllFootnotes table used rest
    (tree :: rest, used)

end

/-- The trees of a text with the footnotes that are used at their end. -/
def settleFootnotes (trees : List GrammarTree) : List GrammarTree :=
  let (resolved, used) := resolveAllFootnotes (takeAllFootnotes [] trees).2 [] trees
  let (body, table) := takeAllFootnotes [] resolved
  body ++ used.filterMap fun key => (table.lookup key).map tidyDefinition

end MarkdownHtml.Grammar
