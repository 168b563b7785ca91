import MarkdownHtml.Grammar.Ascii
import MarkdownHtml.Node.Kind

/-! The rows of tables: the cells of a line, and the row of markers that says which columns there
are and how they are aligned. -/

namespace MarkdownHtml.Grammar

/-- The parts of a line between its pipes. A pipe behind a backslash does not part anything. -/
def splitAtPipes (escaped : Bool) (part : List Char) : List Char → List (List Char)
  | [] => [part.reverse]
  | c :: rest =>
    if c = '|' ∧ ¬ escaped then part.reverse :: splitAtPipes false [] rest
    else splitAtPipes (c == '\\') (c :: part) rest

def unescapePipes : List Char → List Char
  | '\\' :: '|' :: rest => '|' :: unescapePipes rest
  | c :: rest => c :: unescapePipes rest
  | [] => []

def cellContent (part : List Char) : List Char := trimAscii (unescapePipes part)

def dropBlankEnd (parts : List (List Char)) : List (List Char) :=
  match parts.reverse with
  | last :: others => if last.all isAsciiSpace then others.reverse else parts
  | [] => []

/-- The cells of a line. A pipe before the first or behind the last cell parts nothing. -/
def rowCells (line : List Char) : List (List Char) :=
  let parts := match splitAtPipes false [] line with
    | [] :: rest => rest
    | parts => parts
  (dropBlankEnd parts).map cellContent

/-- The alignment that a marker asks for, if the text is a marker: hyphens between optional colons. -/
def marker? (cell : List Char) : Option (Option Alignment) :=
  let (left, rest) := match cell with
    | ':' :: rest => (true, rest)
    | rest => (false, rest)
  match rest.takeWhile (· == '-'), rest.dropWhile (· == '-') with
  | _ :: _, [] => some (if left then some .left else none)
  | _ :: _, [':'] => some (some (if left then .center else .right))
  | _, _ => none

def markerRow? (line : List Char) : Option (List (Option Alignment)) :=
  match rowCells line with
  | [] => none
  | cells => cells.mapM marker?

end MarkdownHtml.Grammar
