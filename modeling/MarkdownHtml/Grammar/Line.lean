import MarkdownHtml.Grammar.Ascii

/-! A line that is being read from its beginning. Tabs reach to the next column that is a multiple
of four, and a tab may be read in part. -/

namespace MarkdownHtml.Grammar

structure Line where
  /-- What has not been read, without the line ending. -/
  rest : List Char
  /-- A newline, or nothing at the end of a text that does not end in one. -/
  ending : List Char := ['\n']
  column : Nat := 0
  /-- Whether columns of the tab at the beginning of the rest have been read. -/
  insideTab : Bool := false
  deriving Repr

namespace Line

def tabStop : Nat := 4

def toTabStop (column : Nat) : Nat := tabStop - column % tabStop

/-- The column in which a text begins that follows blanks. -/
def columnAfterBlanks (column : Nat) : List Char → Nat
  | ' ' :: rest => columnAfterBlanks (column + 1) rest
  | '\t' :: rest => columnAfterBlanks (column + toTabStop column) rest
  | _ => column

def indent (line : Line) : Nat := columnAfterBlanks line.column line.rest - line.column

def text (line : Line) : List Char := line.rest.dropWhile isBlank

def isBlankLine (line : Line) : Bool := line.text.isEmpty

def skipBlanks (line : Line) : Line :=
  { line with rest := line.text, column := columnAfterBlanks line.column line.rest, insideTab := false }

/-- Read so many characters, none of them a tab. -/
def skipChars (line : Line) (count : Nat) : Line :=
  if count = 0 then line
  else { line with rest := line.rest.drop count, column := line.column + count, insideTab := false }

def skipColumns (line : Line) : Nat → Line
  | 0 => line
  | count + 1 =>
    match line with
    | { rest := [], .. } => line
    | { rest := '\t' :: rest, column, .. } =>
      let inside := toTabStop column > 1
      let rest := if inside then '\t' :: rest else rest
      skipColumns { line with rest, column := column + 1, insideTab := inside } count
    | { rest := _ :: rest, column, .. } =>
      skipColumns { line with rest, column := column + 1, insideTab := false } count

/-- What has not been read, with the open part of a tab as spaces. -/
def remainder (line : Line) : List Char :=
  if line.insideTab then List.replicate (toTabStop line.column) ' ' ++ line.rest.tail else line.rest

end Line

/-- The lines of a text after a line read so far, last character first. A line ends in a newline, a
carriage return, or both. -/
def splitLinesFrom (line : List Char) : List Char → List Line
  | [] => if line.isEmpty then [] else [{ rest := line.reverse, ending := [] }]
  | '\r' :: '\n' :: text => { rest := line.reverse } :: splitLinesFrom [] text
  | c :: text =>
    if c = '\n' ∨ c = '\r' then { rest := line.reverse } :: splitLinesFrom [] text else splitLinesFrom (c :: line) text

def splitLines (text : List Char) : List Line := splitLinesFrom [] text

end MarkdownHtml.Grammar
