import MarkdownHtml.Grammar.AngleLink
import MarkdownHtml.Grammar.BareLink
import MarkdownHtml.Grammar.Bracket
import MarkdownHtml.Grammar.CodeSpan
import MarkdownHtml.Grammar.RawHtml

/-! Inlines: the structure of the text of a block. The text is read from its beginning. Brackets
stay open until a closing one tells whether they are a link, an image, a footnote reference or just
brackets. -/

namespace MarkdownHtml.Grammar

/-- Where the reading of a text is. Inlines are kept last one first. -/
structure InlineReader where
  /-- What has been read, backwards. -/
  seen : List Char := []
  rest : List Char
  /-- The inlines behind the innermost open bracket. -/
  items : List Inline := []
  /-- The open brackets, innermost first, and the inlines before each. -/
  outer : List (Bracket × List Inline) := []
  /-- Whether a link has been made since the last bracket that could open one. -/
  linked : Bool := false
  /-- Whether the last bracket was an opening one. -/
  inBrackets : Bool := false

namespace InlineReader

def moveTo (rest : List Char) (reader : InlineReader) : InlineReader :=
  let passed := reader.rest.take (reader.rest.length - rest.length)
  { reader with seen := passed.reverse ++ reader.seen, rest }

def add (item : Inline) (reader : InlineReader) : InlineReader := { reader with items := item :: reader.items }

def addText (text rest : List Char) (reader : InlineReader) : InlineReader := (reader.moveTo rest).add (.text text)

def addLeaf (kind : GrammarKind) (rest : List Char) (reader : InlineReader) : InlineReader :=
  (reader.moveTo rest).add (.tree (.leaf kind))

def linkTree (destination shown : List Char) : GrammarTree :=
  .node (.link (String.ofList destination) "") [.leaf (.text (String.ofList shown))]

/-- The end of a line. Two spaces before it make it a hard one. -/
def readNewline (rest : List Char) (reader : InlineReader) : InlineReader :=
  let kind := match reader.seen with
    | ' ' :: ' ' :: _ => .lineBreak
    | _ => .softBreak
  reader.addLeaf kind (dropBlanks rest)

def readCode (reader : InlineReader) : InlineReader :=
  let marks := reader.rest.takeWhile (· == codeMark)
  let rest := reader.rest.drop marks.length
  match code? marks.length rest with
  | some (content, rest) => reader.addLeaf (.code (String.ofList content)) rest
  | none => reader.addText marks rest

def readBackslash (rest : List Char) (reader : InlineReader) : InlineReader :=
  match rest with
  | '\n' :: rest => reader.addLeaf .lineBreak (dropBlanks rest)
  | c :: after => if Text.isAsciiPunctuation c then reader.addText [c] after else reader.addText ['\\'] rest
  | [] => reader.addText ['\\'] rest

def readReference (rest : List Char) (reader : InlineReader) : InlineReader :=
  match charReference? rest with
  | some (chars, rest) => reader.addText chars rest
  | none => reader.addText ['&'] rest

def readAngle (rest : List Char) (reader : InlineReader) : InlineReader :=
  match angleLink? rest with
  | some (link, rest) => (reader.moveTo rest).add (.tree (linkTree link.destination link.shown))
  | none =>
    match inlineHtml? rest with
    | some after =>
      let html := reader.rest.take (reader.rest.length - after.length)
      reader.addLeaf (.htmlInline (String.ofList html)) after
    | none => reader.addText ['<'] rest

/-- Take so many characters back from the texts read last. -/
def dropChars (count : Nat) : List Inline → List Inline
  | .text literal :: items =>
    if count = 0 then .text literal :: items
    else if count < literal.length then .text (literal.take (literal.length - count)) :: items
    else dropChars (count - literal.length) items
  | items => items

def mayLink (dialect : Dialect) (reader : InlineReader) : Bool :=
  dialect.options.relaxedAutolinks || !reader.inBrackets

/-- A colon, and the link around it if it follows a scheme. -/
def readColon (dialect : Dialect) (rest : List Char) (reader : InlineReader) : InlineReader :=
  let relaxed := dialect.options.relaxedAutolinks
  match if reader.mayLink dialect then schemeLink? relaxed reader.seen reader.rest else none with
  | some (scheme, link) =>
    let moved := reader.moveTo (reader.rest.drop link.length)
    let link := scheme ++ link
    { moved with items := .tree (linkTree link link) :: dropChars scheme.length moved.items }
  | none => reader.addText [':'] rest

/-- A letter w, and the link that it begins. -/
def readW (dialect : Dialect) (rest : List Char) (reader : InlineReader) : InlineReader :=
  let relaxed := dialect.options.relaxedAutolinks
  match if reader.mayLink dialect then wwwLink? relaxed reader.seen.head? reader.rest else none with
  | some link =>
    (reader.moveTo (reader.rest.drop link.length)).add (.tree (linkTree ("http://".toList ++ link) link))
  | none => reader.addText ['w'] rest

/-- The character that decides what a run of marks can do: the nearest one that is not skipped. -/
def neighbour (dialect : Dialect) (text : List Char) : Char :=
  (text.find? fun c => !(dialect.strikethrough && c == '~')).getD '\n'

def readRun (dialect : Dialect) (mark : Char) (reader : InlineReader) : InlineReader :=
  let length := if isQuote mark then 1 else (reader.rest.takeWhile (· == mark)).length
  let rest := reader.rest.drop length
  let (canOpen, canClose) := capabilities mark (neighbour dialect reader.seen) (neighbour dialect rest)
  let run : MarkRun := { mark, count := length, length, canOpen, canClose }
  if (canOpen || canClose) && !(mark == '~' && 2 < length) then (reader.moveTo rest).add (.run run)
  else reader.addText run.shown rest

/-- Dashes for so many hyphens: long ones only, or short ones only, or at most two short ones. -/
def dashes (hyphens : Nat) : List Char :=
  let short :=
    if hyphens % 3 = 0 then 0
    else if hyphens % 2 = 0 then hyphens / 2
    else if hyphens % 3 = 2 then 1
    else 2
  List.replicate ((hyphens - 2 * short) / 3) '\u2014' ++ List.replicate short '\u2013'

def readHyphens (reader : InlineReader) : InlineReader :=
  let hyphens := reader.rest.takeWhile (· == '-')
  reader.addText (if hyphens.length = 1 then ['-'] else dashes hyphens.length) (reader.rest.drop hyphens.length)

def readPeriods (rest : List Char) (reader : InlineReader) : InlineReader :=
  match rest with
  | '.' :: '.' :: rest => reader.addText ['\u2026'] rest
  | '.' :: rest => reader.addText ['.', '.'] rest
  | _ => reader.addText ['.'] rest

def openBracket (image : Bool) (rest : List Char) (reader : InlineReader) : InlineReader :=
  let outer := match reader.outer with
    | (bracket, items) :: outer => ({ bracket with followed := true }, items) :: outer
    | [] => []
  { reader.moveTo rest with
    items := []
    outer := ({ image, inside := rest }, reader.items) :: outer
    linked := image && reader.linked
    inBrackets := true }

/-- Give up the innermost bracket: it is text. -/
def dropBracket (reader : InlineReader) : InlineReader :=
  match reader.outer with
  | (bracket, before) :: outer => { reader with items := reader.items ++ .text bracket.literal :: before, outer }
  | [] => reader

def closeBracket (dialect : Dialect) (references : References) (rest : List Char) (reader : InlineReader) :
    InlineReader :=
  let reader := { reader with inBrackets := false }
  match reader.outer with
  | [] => reader.addText [']'] rest
  | (bracket, before) :: outer =>
    if !bracket.image && reader.linked then reader.dropBracket.addText [']'] rest
    else match inlineTarget? rest <|> labelTarget? references bracket rest with
      | some (⟨destination, title⟩, rest) =>
        let kind := if bracket.image then .image destination title else .link destination title
        let link := .tree (.node kind (pairMarks reader.items.reverse))
        { reader.moveTo rest with items := link :: before, outer, linked := reader.linked || !bracket.image }
      | none =>
        match footnote? dialect reader.items.reverse with
        | some made => { reader.moveTo rest with items := made.reverse ++ before, outer }
        | none => reader.dropBracket.addText [']'] rest

def isSpecial (dialect : Dialect) (c : Char) : Bool :=
  ['\n', codeMark, '\\', '&', '<', '*', '_', '[', ']', '!'].contains c ||
    (dialect.strikethrough && c == '~') || (dialect.autolink && (c == ':' || c == 'w')) ||
    (dialect.options.smart && (isQuote c || c == '-' || c == '.'))

def endsInBreak : List Inline → Bool
  | .tree (.node .lineBreak _) :: _ => true
  | _ => false

/-- Text without any marks. The white space at the end of its line does not belong to it. -/
def readPlain (dialect : Dialect) (reader : InlineReader) : InlineReader :=
  let text := reader.rest.takeWhile (!isSpecial dialect ·)
  let rest := reader.rest.drop text.length
  let text := if rest.head? = some '\n' then trimAsciiEnd text else text
  let text := if endsInBreak reader.items then dropSpaces text else text
  reader.addText text rest

def readNext (dialect : Dialect) (references : References) (c : Char) (rest : List Char) (reader : InlineReader) :
    InlineReader :=
  if !isSpecial dialect c then reader.readPlain dialect
  else if c = '\n' then reader.readNewline rest
  else if c = codeMark then reader.readCode
  else if c = '\\' then reader.readBackslash rest
  else if c = '&' then reader.readReference rest
  else if c = '<' then reader.readAngle rest
  else if c = ':' then reader.readColon dialect rest
  else if c = 'w' then reader.readW dialect rest
  else if c = '-' then reader.readHyphens
  else if c = '.' then reader.readPeriods rest
  else if c = '[' then reader.openBracket false rest
  else if c = ']' then reader.closeBracket dialect references rest
  else if c = '!' then
    match rest with
    | ['['] => reader.openBracket true []
    | '[' :: d :: after => if d = '^' then reader.addText ['!'] rest else reader.openBracket true (d :: after)
    | _ => reader.addText ['!'] rest
  else reader.readRun dialect c

def readAll (dialect : Dialect) (references : References) : Nat → InlineReader → InlineReader
  | 0, reader => reader
  | fuel + 1, reader =>
    match reader.rest with
    | [] => reader
    | c :: rest => readAll dialect references fuel (reader.readNext dialect references c rest)

/-- All inlines, last one first, with the brackets that have not been closed as text. -/
def allItems (items : List Inline) : List (Bracket × List Inline) → List Inline
  | [] => items
  | (bracket, before) :: outer => allItems (items ++ .text bracket.literal :: before) outer

end InlineReader

def readInlines (dialect : Dialect) (references : References) (text : List Char) : List GrammarTree :=
  let text := trimAsciiEnd text
  let reader := InlineReader.readAll dialect references text.length { rest := text }
  pairMarks (InlineReader.allItems reader.items reader.outer).reverse

end MarkdownHtml.Grammar
