import MarkdownHtml.Event
import MarkdownHtml.Text.Space

/-! Front matter: the block between two delimiter lines at the beginning of a text. An entry is a
key with one value, with a list of values, or with a literal block of lines. -/

namespace MarkdownHtml.FrontMatter
open Text

def delimiter : List Char := ['-', '-', '-']

structure Entry where
  key : String
  values : List String
  deriving DecidableEq, Repr, Inhabited

/-- How the lines after a key are read. -/
inductive Mode
  | scalar | list | literal
  deriving DecidableEq, Repr

/-- The entry whose lines are being read. -/
structure OpenEntry where
  key : List Char
  values : List (List Char)
  mode : Mode
  deriving Repr

structure State where
  entries : List Entry := []
  current : Option OpenEntry := none
  ignored : List (List Char) := []

/-- Put one character for every occurrence of a pair, from left to right. -/
def replacePair (first second merged : Char) : List Char → List Char
  | c :: d :: rest =>
    if c = first ∧ d = second then merged :: replacePair first second merged rest
    else c :: replacePair first second merged (d :: rest)
  | rest => rest

/-- What stands between two quotes of the given kind, if the text begins and ends with them. -/
def quotedBy? (quote : Char) : List Char → Option (List Char)
  | [] => none
  | c :: rest =>
    if c = quote then match rest.reverse with
      | [] => none
      | last :: inner => if last = quote then some inner.reverse else none
    else none

def unquote (value : List Char) : List Char :=
  match quotedBy? '\'' value with
  | some inner => replacePair '\'' '\'' '\'' inner
  | none => match quotedBy? '"' value with
    | some inner => replacePair '\\' '\\' '\\' (replacePair '\\' '"' '"' inner)
    | none => value

def isKeyChar (c : Char) : Bool := c.isAlphanum || c == '.' || c == '_' || c == '-'

def dropSpaces : Nat → List Char → List Char
  | n + 1, ' ' :: rest => dropSpaces n rest
  | _, rest => rest

def keyLine? (line : List Char) : Option (List Char × List Char) :=
  let line := dropSpaces 3 line
  match line.takeWhile isKeyChar, line.dropWhile isKeyChar with
  | [], _ => none
  | key, ':' :: rest => some (key, trim rest)
  | _, _ => none

def listItem? (line : List Char) : Option (List Char) :=
  match line with
  | ' ' :: rest => match rest.dropWhile (· == ' ') with
    | '-' :: rest => some (trim rest)
    | _ => none
  | _ => none

def isLiteralLine : List Char → Bool
  | [] => true
  | c :: _ => c == ' ' || c == '\t'

/-- The finished entry. A literal block loses its trailing empty lines and becomes one value. -/
def OpenEntry.close (entry : OpenEntry) : Entry :=
  let values := match entry.mode with
    | .literal =>
      let lines := (entry.values.reverse.dropWhile List.isEmpty).reverse
      [List.intercalate ['\n'] lines]
    | _ => entry.values
  { key := String.ofList entry.key, values := values.map String.ofList }

def State.flush (state : State) : State :=
  match state.current with
  | none => state
  | some entry => { state with entries := state.entries ++ [entry.close], current := none }

def State.addValue (state : State) (entry : OpenEntry) (value : List Char) : State :=
  { state with current := some { entry with values := entry.values ++ [value] } }

def openEntry (key value : List Char) : OpenEntry :=
  if value = ['|'] then ⟨key, [], .literal⟩
  else if value = [] then ⟨key, [], .list⟩
  else ⟨key, [unquote value], .scalar⟩

/-- Read a line that is not taken by a literal block: a key, a list item, or nothing known. -/
def State.readOther (state : State) (line : List Char) : State :=
  match keyLine? line, state.current, listItem? line with
  | some (key, value), _, _ => { state.flush with current := some (openEntry key value) }
  | none, some ⟨key, values, .list⟩, some value => state.addValue ⟨key, values, .list⟩ (unquote value)
  | none, _, _ => if trim line = [] then state else { state with ignored := state.ignored ++ [line] }

def State.readLine (state : State) (line : List Char) : State :=
  match state.current with
  | some ⟨key, values, .literal⟩ =>
    if isLiteralLine line then state.addValue ⟨key, values, .literal⟩ (trimStart line)
    else state.readOther line
  | _ => state.readOther line

def isDelimiter (line : List Char) : Bool := trimEnd line == delimiter

def bodyLines (raw : String) : List (List Char) :=
  let lines := match lines raw.toList with
    | first :: rest => if isDelimiter first then rest else first :: rest
    | [] => []
  lines.takeWhile (!isDelimiter ·)

/-- The entries of a block with its delimiters, and a warning for each line that is skipped. -/
def parse (raw : String) : List Entry × List Event :=
  let state := ((bodyLines raw).foldl State.readLine {}).flush
  (state.entries, state.ignored.map fun line => .unsupportedLine (String.ofList line))

end MarkdownHtml.FrontMatter
