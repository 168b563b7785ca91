import MarkdownHtml.Grammar.Tree
import MarkdownHtml.Text.Punctuation
import MarkdownHtml.Text.Space

/-! Emphasis: runs of marks that may open or close it, and how they find each other. A run that can
close looks for the nearest run before it that can open; what stands between is emphasised. -/

namespace MarkdownHtml.Grammar

/-- A run of equal marks. Quotes are runs of one mark. -/
structure MarkRun where
  mark : Char
  /-- How many marks are left of it. -/
  count : Nat
  /-- How many marks it had. -/
  length : Nat
  canOpen : Bool
  canClose : Bool
  deriving Repr

/-- What a line of inlines is made of before emphasis is found in it. -/
inductive Inline
  | tree (tree : GrammarTree)
  | text (literal : List Char)
  | run (run : MarkRun)

def isQuote (mark : Char) : Bool := mark == '\'' || mark == '"'

def openingQuote (mark : Char) : Char := if mark = '\'' then '\u2018' else '\u201c'

def closingQuote (mark : Char) : Char := if mark = '\'' then '\u2019' else '\u201d'

/-- What a run looks like that opens and closes nothing. -/
def MarkRun.shown (run : MarkRun) : List Char :=
  if run.mark = '\'' ∨ (run.mark = '"' ∧ run.canClose) then [closingQuote run.mark]
  else if run.mark = '"' then [openingQuote run.mark]
  else List.replicate run.count run.mark

def Inline.toTree : Inline → GrammarTree
  | .tree made => made
  | .text chars => .leaf (.text (String.ofList chars))
  | .run marks => .leaf (.text (String.ofList marks.shown))

def flanksLeft (before after : Char) : Bool :=
  !Text.isSpace after && (!Text.isPunctuation after || Text.isSpace before || Text.isPunctuation before)

def flanksRight (before after : Char) : Bool := flanksLeft after before

def capabilities (mark before after : Char) : Bool × Bool :=
  let left := flanksLeft before after
  let right := flanksRight before after
  if mark = '_' then
    (left && (!right || Text.isPunctuation before), right && (!left || Text.isPunctuation after))
  else if isQuote mark then
    (left && (!right || before == '(' || before == '[') && before != ']' && before != ')', right)
  else (left, right)

/-- Two runs of which one could both open and close do not match if their lengths add up to a
multiple of three, unless both are such multiples. -/
def MarkRun.matches (opener closer : MarkRun) : Bool :=
  opener.canOpen && opener.mark == closer.mark &&
    !((closer.canOpen || opener.canClose) && (opener.length + closer.length) % 3 == 0 &&
      !(opener.length % 3 == 0 && closer.length % 3 == 0))

/-- The nearest opener for a run among what comes before it, last one first: what lies between, first
one first, the opener, and what comes before it. -/
def findOpener (closer : MarkRun) (between : List Inline) :
    List Inline → Option (List Inline × MarkRun × List Inline)
  | [] => none
  | .run run :: before =>
    if run.matches closer then some (between, run, before) else findOpener closer (.run run :: between) before
  | item :: before => findOpener closer (item :: between) before

/-- What has been paired so far, last one first. -/
structure Pairing where
  left : List Inline := []
  /-- Whether a mismatch of tildes has put an end to all pairing. -/
  stopped : Bool := false

def emphasisKind (mark : Char) (width : Nat) : GrammarKind :=
  if mark = '~' then .strikethrough else if width = 2 then .strong else .emphasis

/-- Let a run close as much as it can, and then wait for a closer itself. -/
def closeRun (left : List Inline) (run : MarkRun) : Nat → Pairing
  | 0 => { left }
  | fuel + 1 =>
    if run.count = 0 then { left }
    else match findOpener run [] left with
      | none => { left := (if run.canOpen then .run run else .text run.shown) :: left }
      | some (between, opener, before) =>
        if isQuote run.mark then
          { left := .text [closingQuote run.mark] :: (between.reverse ++ .text [openingQuote run.mark] :: before) }
        else
          let width := if 2 ≤ opener.count ∧ 2 ≤ run.count then 2 else 1
          let opened := opener.count - width
          let closed := run.count - width
          if run.mark = '~' ∧ (opened ≠ closed ∨ 0 < opened) then { left := .run run :: left, stopped := true }
          else
            let before := if opened = 0 then before else .run { opener with count := opened } :: before
            let inner := .node (emphasisKind run.mark width) (between.map Inline.toTree)
            closeRun (.tree inner :: before) { run with count := closed } fuel

def Pairing.add (pairing : Pairing) (item : Inline) : Pairing :=
  match item with
  | .run run =>
    if run.canClose && !pairing.stopped then closeRun pairing.left run run.count
    else { pairing with left := item :: pairing.left }
  | _ => { pairing with left := item :: pairing.left }

def pairMarks (items : List Inline) : List GrammarTree :=
  ((items.foldl Pairing.add {}).left.map Inline.toTree).reverse

end MarkdownHtml.Grammar
