import MarkdownHtml.Grammar.CharReference

/-! Links that are an address in angle brackets. Every reader is given the text behind the opening
bracket. -/

namespace MarkdownHtml.Grammar

structure AngleLink where
  destination : List Char
  shown : List Char

/-- What stands before the closing bracket, if it has only characters of a class, and what follows. -/
def upToBracket? (p : Char → Bool) (text : List Char) : Option (List Char × List Char) :=
  match text.dropWhile p with
  | '>' :: rest => some (text.takeWhile p, rest)
  | _ => none

def isSchemeChar (c : Char) : Bool := c.isAlphanum || c == '+' || c == '.' || c == '-'

def isAddressChar (c : Char) : Bool := !(c.toNat ≤ 0x20 || c == '<' || c == '>')

/-- An address that begins with a scheme. -/
def angleAddress? (text : List Char) : Option (List Char × List Char) :=
  let scheme := text.takeWhile isSchemeChar
  if scheme.head?.any Char.isAlpha && 2 ≤ scheme.length && scheme.length ≤ 32 &&
      text[scheme.length]? == some ':' then upToBracket? isAddressChar text
  else none

def isMailNameChar (c : Char) : Bool := c.isAlphanum || ".!#$%&'*+/=?^_\x60\x7b|\x7d~-".contains c

/-- The parts of a text between its dots. -/
def splitAtDots (part : List Char) : List Char → List (List Char)
  | [] => [part.reverse]
  | c :: text => if c = '.' then part.reverse :: splitAtDots [] text else splitAtDots (c :: part) text

def isHostPart (part : List Char) : Bool :=
  part.head?.any Char.isAlphanum && part.getLast?.any Char.isAlphanum && part.length ≤ 63

def isHost (text : List Char) : Bool := (splitAtDots [] text).all isHostPart

def angleMail? (text : List Char) : Option (List Char × List Char) :=
  let name := text.takeWhile isMailNameChar
  match name, text.drop name.length with
  | _ :: _, '@' :: rest =>
    match upToBracket? (fun c => c.isAlphanum || c == '-' || c == '.') rest with
    | some (host, rest) => if isHost host then some (name ++ '@' :: host, rest) else none
    | none => none
  | _, _ => none

/-- A link in angle brackets, and what follows it. -/
def angleLink? (text : List Char) : Option (AngleLink × List Char) :=
  match angleAddress? text with
  | some (address, rest) =>
    let address := resolveReferences address
    some (⟨address, address⟩, rest)
  | none =>
    (angleMail? text).map fun (address, rest) =>
      let address := resolveReferences address
      (⟨"mailto:".toList ++ address, address⟩, rest)

end MarkdownHtml.Grammar
