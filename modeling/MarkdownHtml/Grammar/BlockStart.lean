import MarkdownHtml.Grammar.Line
import MarkdownHtml.Grammar.RawHtml

/-! What a block may begin with. Every reader is given the text of a line behind its blanks. -/

namespace MarkdownHtml.Grammar

/-- What comes before the items of a list. -/
inductive ListMarker
  | bullet (mark : Char)
  | ordered (start : Nat) (delimiter : Char)
  deriving DecidableEq, Repr

def ListMarker.agrees : ListMarker → ListMarker → Bool
  | .bullet first, .bullet second => first == second
  | .ordered _ first, .ordered _ second => first == second
  | _, _ => false

def isThematicBreak (text : List Char) : Bool :=
  match text with
  | [] => false
  | mark :: _ =>
    (mark == '*' || mark == '-' || mark == '_') && 3 ≤ text.count mark && text.all fun c => c == mark || isBlank c

def dropClosingSigns (text : List Char) : List Char :=
  let text := trimAsciiEnd text
  match text.reverse.dropWhile (· == '#') with
  | [] => []
  | c :: before =>
    if isBlank c then trimAsciiEnd (c :: before).reverse else text

def headingStart? (text : List Char) : Option (Nat × List Char) :=
  let signs := text.takeWhile (· == '#')
  let rest := text.drop signs.length
  if 1 ≤ signs.length ∧ signs.length ≤ 6 ∧ rest.head?.all isBlank then
    some (signs.length, dropClosingSigns (rest.dropWhile isBlank))
  else none

/-- The level of the heading that a line makes of the paragraph before it. -/
def underline? (text : List Char) : Option Nat :=
  let marked := fun (mark : Char) => text.head? == some mark && (text.dropWhile (· == mark)).all isBlank
  if marked '=' then some 1 else if marked '-' then some 2 else none

def fenceStart? (text : List Char) : Option (Char × Nat) :=
  match text with
  | [] => none
  | mark :: _ =>
    let length := (text.takeWhile (· == mark)).length
    if 3 ≤ length ∧ (mark = '~' ∨ (mark = '\x60' ∧ ¬ (text.drop length).contains '\x60')) then some (mark, length)
    else none

def closesFence (mark : Char) (length : Nat) (text : List Char) : Bool :=
  let marks := text.takeWhile (· == mark)
  3 ≤ marks.length && length ≤ marks.length && (text.drop marks.length).all isBlank

/-- The label of a footnote, and the number of characters up to its colon. -/
def footnoteStart? : List Char → Option (List Char × Nat)
  | '[' :: '^' :: text =>
    let label := text.takeWhile fun c => !(c == ']' || isBlank c)
    match label, text.drop label.length with
    | _ :: _, ']' :: ':' :: _ => some (label, label.length + 4)
    | _, _ => none
  | _ => none

/-- Whether what follows a marker lets it begin an item. In a paragraph it has to hold something. -/
def endsMarker (inParagraph : Bool) (rest : List Char) : Bool :=
  rest.head?.all isAsciiSpace && !(inParagraph && rest.all isBlank)

/-- The marker of a list item, and its length. A paragraph is only interrupted by lists that begin
at one. -/
def listMarker? (inParagraph : Bool) (text : List Char) : Option (ListMarker × Nat) :=
  match text with
  | [] => none
  | c :: rest =>
    if c = '*' ∨ c = '-' ∨ c = '+' then
      if endsMarker inParagraph rest then some (.bullet c, 1) else none
    else
      let digits := (text.take 9).takeWhile Char.isDigit
      let start := digits.foldl (fun number digit => 10 * number + (digit.toNat - 0x30)) 0
      match digits, text.drop digits.length with
      | _ :: _, delimiter :: rest =>
        if (delimiter = '.' ∨ delimiter = ')') ∧ endsMarker inParagraph rest ∧ ¬ (inParagraph ∧ start ≠ 1) then
          some (.ordered start delimiter, digits.length + 1)
        else none
      | _, _ => none

end MarkdownHtml.Grammar
