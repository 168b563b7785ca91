import MarkdownHtml.Grammar.Ascii
import MarkdownHtml.Text.Punctuation
import MarkdownHtml.Text.Space

/-! Links that are written without any marks around them: addresses with a scheme, addresses that
begin with `www.`, and mail addresses. -/

namespace MarkdownHtml.Grammar

def isHostChar (c : Char) : Bool := !(Text.isSpace c || Text.isPunctuation c)

/-- Whether a host name begins a text. Its last two parts hold no underscores, and unless a short
name will do it has a dot. The numbers count the dots so far and the underscores of the last two
parts. -/
def startsHost (allowShort : Bool) (dots previous current : Nat) : List Char → Bool
  | [] => !((0 < previous || 0 < current) && dots ≤ 10) && (allowShort || 0 < dots)
  | c :: rest =>
    if c = '\\' ∧ rest ≠ [] then startsHost allowShort dots previous current rest
    else if c = '_' then startsHost allowShort dots previous (current + 1) rest
    else if c = '.' then startsHost allowShort (dots + 1) current 0 rest
    else if isHostChar c || c == '-' then startsHost allowShort dots previous current rest
    else previous == 0 && current == 0 && (allowShort || 0 < dots)

/-- The bracket that a closing one belongs to, as far as it is minded at the end of a link. -/
def openingBracket? (relaxed : Bool) (c : Char) : Option Char :=
  if c = ')' then some '('
  else if relaxed ∧ c = ']' then some '['
  else if relaxed ∧ c = '\x7d' then some '\x7b'
  else none

/-- Drop from the end of a link, which is given backwards, what rather belongs to the sentence. -/
def trimBackwards (relaxed : Bool) : Nat → List Char → List Char
  | 0, link => link
  | _, [] => []
  | fuel + 1, c :: before =>
    if ['?', '!', '.', ',', ':', '*', '_', '~', '\'', '"'].contains c then trimBackwards relaxed fuel before
    else if c = ';' then
      let letters := before.takeWhile Char.isAlpha
      match letters, before.drop letters.length with
      | _ :: _, '&' :: before => trimBackwards relaxed fuel before
      | _, _ => trimBackwards relaxed fuel before
    else match openingBracket? relaxed c with
      | some opening =>
        if (c :: before).count c ≤ before.count opening then c :: before else trimBackwards relaxed fuel before
      | none => c :: before

def linkExtent (relaxed : Bool) (text : List Char) : List Char :=
  let link := text.takeWhile fun c => !(isAsciiSpace c || c == '<')
  (trimBackwards relaxed link.length link.reverse).reverse

/-- The link at the beginning of a text that begins with `www.`, given the character before it. -/
def wwwLink? (relaxed : Bool) (before : Option Char) (text : List Char) : Option (List Char) :=
  if before.all (fun c => isAsciiSpace c || ['*', '_', '~', '(', '['].contains c) &&
      (dropLiteral? "www.".toList text).isSome && startsHost false 0 0 0 text then
    some (linkExtent relaxed text)
  else none

def bareSchemes : List (List Char) := ["http".toList, "https".toList, "ftp".toList]

/-- The scheme before a colon, and the link from that colon on. The text before the colon is given
backwards. -/
def schemeLink? (relaxed : Bool) (before text : List Char) : Option (List Char × List Char) :=
  let scheme := (before.takeWhile Char.isAlpha).reverse
  match text with
  | ':' :: '/' :: '/' :: c :: rest =>
    if (relaxed || bareSchemes.contains scheme) && startsHost true 0 0 0 (c :: rest) then
      some (scheme, linkExtent relaxed text)
    else none
  | _ => none

structure MailLink where
  before : List Char
  address : List Char
  destination : List Char
  after : List Char

def isMailChar (c : Char) : Bool := c.isAlphanum || c == '.' || c == '+' || c == '-' || c == '_'

def endsInProtocol (protocol : String) (backwards : List Char) : Bool :=
  (backwards.takeWhile Char.isAlpha).reverse == protocol.toList

/-- The part of an address before its at sign, taken from a text that is given backwards: how many
characters it has, whether it names its protocol, and whether that one allows slashes behind. -/
def mailName (named slashes : Bool) (count : Nat) : List Char → Nat × Bool × Bool
  | [] => (count, named, slashes)
  | c :: before =>
    if isMailChar c then mailName named slashes (count + 1) before
    else if c = ':' ∧ endsInProtocol "mailto" before then mailName true slashes (count + 1) before
    else if c = ':' ∧ endsInProtocol "xmpp" before then mailName true true (count + 1) before
    else (count, named, slashes)

/-- The part of an address behind its at sign: how many characters it has, and how many of them are
dots. There is none if another at sign comes. -/
def mailHost (slashes : Bool) (count dots : Nat) : List Char → Option (Nat × Nat)
  | [] => some (count, dots)
  | c :: rest =>
    if c.isAlphanum then mailHost slashes (count + 1) dots rest
    else if c = '@' then none
    else if c = '.' ∧ rest.head?.any Char.isAlphanum then mailHost slashes (count + 1) (dots + 1) rest
    else if (c = '/' ∧ slashes) ∨ c = '-' ∨ c = '_' then mailHost slashes (count + 1) dots rest
    else some (count, dots)

/-- The address around an at sign, given the text before it backwards and the text behind it. -/
def mailLink? (relaxed : Bool) (backwards after : List Char) : Option MailLink :=
  match mailName false false 0 backwards, mailHost (mailName false false 0 backwards).2.2 0 0 after with
  | (count, named, _), some (hostCount, dots) =>
    let endsWell := (after.take hostCount).getLast?.any fun c => c.isAlpha || c == '.'
    if count = 0 ∨ hostCount = 0 ∨ dots = 0 ∨ ¬ endsWell then none
    else
      let host := linkExtent relaxed ('@' :: after.take hostCount)
      if host = [] then none
      else
        let address := (backwards.take count).reverse ++ host
        some {
          before := (backwards.drop count).reverse
          address
          destination := if named then address else "mailto:".toList ++ address
          after := after.drop (host.length - 1) }
  | _, none => none

/-- The first mail address of a text. Unless links are relaxed, none is looked for inside of
brackets; the numbers count how many are open and closed. -/
def findMail? (relaxed : Bool) (opened closed : Nat) (backwards : List Char) : List Char → Option MailLink
  | [] => none
  | c :: rest =>
    let opened := if c = '[' ∧ ¬ relaxed then opened + 1 else opened
    let closed := if c = ']' ∧ ¬ relaxed then closed + 1 else closed
    let found := if c = '@' ∧ opened ≤ closed then mailLink? relaxed backwards rest else none
    match found with
    | some link => some link
    | none => findMail? relaxed opened closed (c :: backwards) rest

end MarkdownHtml.Grammar
