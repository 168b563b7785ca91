import MarkdownHtml.Grammar.Ascii

/-! Code inside of a line, between runs of equally many grave accents. -/

namespace MarkdownHtml.Grammar

def codeMark : Char := '\x60'

def maxCodeMarks : Nat := 80

/-- The text up to and with the first run of so many marks, and what follows. The number of marks
that stand directly before the text is given. -/
def throughMarks? (count run : Nat) : List Char → Option (List Char × List Char)
  | [] => if run = count then some ([], []) else none
  | c :: text =>
    if c = codeMark then (throughMarks? count (run + 1) text).map fun (part, rest) => (c :: part, rest)
    else if run = count then some ([], c :: text)
    else (throughMarks? count 0 text).map fun (part, rest) => (c :: part, rest)

/-- Code on one line, without the one space at both ends that keeps it apart from the marks. -/
def codeContent (text : List Char) : List Char :=
  let line := text.map fun c => if c = '\n' then ' ' else c
  if line.any (· != ' ') && line.head? == some ' ' && line.getLast? == some ' ' then line.tail.dropLast else line

def code? (count : Nat) (text : List Char) : Option (List Char × List Char) :=
  if maxCodeMarks < count then none
  else (throughMarks? count 0 text).map fun (part, rest) => (codeContent (part.take (part.length - count)), rest)

end MarkdownHtml.Grammar
