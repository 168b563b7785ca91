import MarkdownHtml.Grammar.Ascii

/-! Raw HTML: tags, comments and the like inside of a line, and the conditions under which a block
of raw HTML begins and ends. Every reader is given the text behind an opening angle bracket. -/

namespace MarkdownHtml.Grammar

/-- What follows the characters of a class, if there is at least one of them. -/
def dropSome? (p : Char → Bool) (text : List Char) : Option (List Char) :=
  match text with
  | c :: rest => if p c then some (rest.dropWhile p) else none
  | [] => none

def dropSpaces (text : List Char) : List Char := text.dropWhile isAsciiSpace

def tagName? (text : List Char) : Option (List Char) :=
  match text with
  | c :: rest => if c.isAlpha then some (rest.dropWhile fun c => c.isAlphanum || c == '-') else none
  | [] => none

def attributeName? (text : List Char) : Option (List Char) :=
  match text with
  | c :: rest =>
    if c.isAlpha || c == '_' || c == ':' then
      some (rest.dropWhile fun c => c.isAlphanum || c == ':' || c == '.' || c == '_' || c == '-')
    else none
  | [] => none

/-- What follows the first occurrence of a character. -/
def dropThrough? (mark : Char) (text : List Char) : Option (List Char) :=
  match text.dropWhile (· != mark) with
  | _ :: rest => some rest
  | [] => none

def isUnquoted (c : Char) : Bool :=
  !(isAsciiSpace c || c == '"' || c == '\'' || c == '=' || c == '<' || c == '>' || c == '\x60')

def attributeValue? : List Char → Option (List Char)
  | '"' :: rest => dropThrough? '"' rest
  | '\'' :: rest => dropThrough? '\'' rest
  | text => dropSome? isUnquoted text

/-- White space, a name, and perhaps a value. -/
def attribute? (text : List Char) : Option (List Char) := do
  let rest ← attributeName? (← dropSome? isAsciiSpace text)
  match dropSpaces rest with
  | '=' :: value => return (attributeValue? (dropSpaces value)).getD rest
  | _ => return rest

def dropAttributes : Nat → List Char → List Char
  | 0, text => text
  | fuel + 1, text =>
    match attribute? text with
    | some rest => dropAttributes fuel rest
    | none => text

def openTag? (text : List Char) : Option (List Char) := do
  let rest ← tagName? text
  match dropSpaces (dropAttributes rest.length rest) with
  | '>' :: rest | '/' :: '>' :: rest => return rest
  | _ => none

def closeTag? : List Char → Option (List Char)
  | '/' :: text => do
    match dropSpaces (← tagName? text) with
    | '>' :: rest => return rest
    | _ => none
  | _ => none

def comment? (text : List Char) : Option (List Char) := do
  match ← dropLiteral? "!--".toList text with
  | '>' :: rest | '-' :: '>' :: rest => return rest
  | rest => return (← splitAfter? "-->".toList rest).2

def instruction? : List Char → Option (List Char)
  | '?' :: rest => (splitAfter? "?>".toList rest).map (·.2)
  | _ => none

def declaration? : List Char → Option (List Char)
  | '!' :: c :: rest => if c.isAlpha then dropThrough? '>' rest else none
  | _ => none

def characterData? (text : List Char) : Option (List Char) := do
  return (← splitAfter? "]]>".toList (← dropLiteral? "![CDATA[".toList text)).2

/-- What follows a piece of HTML that may stand inside of a line. -/
def inlineHtml? (text : List Char) : Option (List Char) :=
  openTag? text <|> closeTag? text <|> comment? text <|> instruction? text <|> declaration? text <|> characterData? text

/-- The kinds of HTML blocks, by what they begin with. -/
inductive HtmlBlockKind
  | verbatim | comment | instruction | declaration | characterData | blockTag | anyTag
  deriving DecidableEq, Repr, Inhabited

def verbatimTags : List String := ["script", "pre", "textarea", "style"]

def blockTags : List String :=
  ["address", "article", "aside", "base", "basefont", "blockquote", "body", "caption", "center", "col", "colgroup",
    "dd", "details", "dialog", "dir", "div", "dl", "dt", "fieldset", "figcaption", "figure", "footer", "form", "frame",
    "frameset", "h1", "h2", "h3", "h4", "h5", "h6", "head", "header", "hr", "html", "iframe", "legend", "li", "link",
    "main", "menu", "menuitem", "nav", "noframes", "ol", "optgroup", "option", "p", "param", "search", "section",
    "title", "summary", "table", "tbody", "td", "tfoot", "th", "thead", "title", "tr", "track", "ul"]

/-- Whether a text begins with one of some names, and then with something that ends a name. -/
def startsWithTag (names : List String) (ends : List Char → Bool) (text : List Char) : Bool :=
  names.any fun name => (dropLiteralAnyCase? name.toList text).any ends

def endsVerbatimName : List Char → Bool
  | [] => false
  | c :: _ => isAsciiSpace c || c == '>'

def endsBlockName : List Char → Bool
  | [] => false
  | '/' :: '>' :: _ => true
  | c :: _ => isAsciiSpace c || c == '>'

def startsVerbatim (text : List Char) : Bool := startsWithTag verbatimTags endsVerbatimName text

def startsBlockTag : List Char → Bool
  | '/' :: text => startsWithTag blockTags endsBlockName text
  | text => startsWithTag blockTags endsBlockName text

/-- Whether a text is one whole tag and nothing else. -/
def isLoneTag (text : List Char) : Bool :=
  (openTag? text <|> closeTag? text).any fun rest => rest.all isAsciiSpace

/-- The kind of HTML block that a line begins, which is given with its ending. A lone tag does not
interrupt a paragraph. -/
def htmlBlockStart? (inParagraph : Bool) : List Char → Option HtmlBlockKind
  | '<' :: text =>
    if startsVerbatim text then some .verbatim
    else if (dropLiteral? "!--".toList text).isSome then some .comment
    else if (dropLiteral? ['?'] text).isSome then some .instruction
    else if (dropLiteral? "![CDATA[".toList text).isSome then some .characterData
    else match text with
      | '!' :: c :: _ => if c.isAlpha then some .declaration else none
      | _ =>
        if startsBlockTag text then some .blockTag
        else if !inParagraph && isLoneTag text then some .anyTag
        else none
  | _ => none

/-- The end of a verbatim block: a closing tag of any verbatim element. -/
def endsVerbatim : List Char → Bool
  | [] => false
  | '<' :: '/' :: text =>
    (verbatimTags.any fun name => (dropLiteralAnyCase? (name ++ ">").toList text).isSome) || endsVerbatim ('/' :: text)
  | _ :: text => endsVerbatim text

/-- Whether a line ends the block that it belongs to. The last two kinds end at blank lines. -/
def HtmlBlockKind.endsWith (kind : HtmlBlockKind) (line : List Char) : Bool :=
  match kind with
  | .verbatim => endsVerbatim line
  | .comment => (splitAfter? "-->".toList line).isSome
  | .instruction => (splitAfter? "?>".toList line).isSome
  | .declaration => line.contains '>'
  | .characterData => (splitAfter? "]]>".toList line).isSome
  | .blockTag | .anyTag => false

def HtmlBlockKind.endsAtBlank (kind : HtmlBlockKind) : Bool := kind == .blockTag || kind == .anyTag

end MarkdownHtml.Grammar
