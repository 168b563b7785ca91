/-! The classes of ASCII characters that the grammar tells apart. -/

namespace MarkdownHtml.Grammar

def isBlank (c : Char) : Bool := c == ' ' || c == '\t'

/-- White space in the narrow sense: blanks, line endings, vertical tabs and form feeds. -/
def isAsciiSpace (c : Char) : Bool := c == ' ' || (0x09 ≤ c.toNat && c.toNat ≤ 0x0d)

def isAsciiControl (c : Char) : Bool := c.toNat < 0x20 || c.toNat == 0x7f

def isHexDigit (c : Char) : Bool := c.isDigit || ('a' ≤ c && c ≤ 'f') || ('A' ≤ c && c ≤ 'F')

def trimAsciiEnd (text : List Char) : List Char := (text.reverse.dropWhile isAsciiSpace).reverse

def trimAscii (text : List Char) : List Char := trimAsciiEnd (text.dropWhile isAsciiSpace)

/-- What follows a fixed text at the beginning of another one. -/
def dropLiteral? : List Char → List Char → Option (List Char)
  | [], text => some text
  | c :: literal, d :: text => if c = d then dropLiteral? literal text else none
  | _ :: _, [] => none

/-- The same without regard to the case of ASCII letters; the fixed text is in lowercase. -/
def dropLiteralAnyCase? : List Char → List Char → Option (List Char)
  | [], text => some text
  | c :: literal, d :: text => if c = d.toLower then dropLiteralAnyCase? literal text else none
  | _ :: _, [] => none

/-- The text up to and with the first occurrence of a fixed text, and what follows it. -/
def splitAfter? (literal : List Char) : List Char → Option (List Char × List Char)
  | [] => if literal = [] then some ([], []) else none
  | c :: text =>
    match dropLiteral? literal (c :: text) with
    | some rest => some (literal, rest)
    | none => (splitAfter? literal text).map fun (part, rest) => (c :: part, rest)

end MarkdownHtml.Grammar
