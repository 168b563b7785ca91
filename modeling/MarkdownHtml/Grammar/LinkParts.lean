import MarkdownHtml.Grammar.CharReference
import MarkdownHtml.Text.CaseFold
import MarkdownHtml.Text.Space

/-! The parts of links: labels, destinations and titles, as they stand in links and in reference
definitions. Each reader gives the part and what follows it. -/

namespace MarkdownHtml.Grammar

def maxLabelBytes : Nat := 1000

/-- The rest of a label up to its bracket. A backslash before punctuation hides it. -/
def labelTail (bytes : Nat) : List Char → Option (List Char × List Char)
  | [] => none
  | '\\' :: c :: rest =>
    if Text.isAsciiPunctuation c then
      if bytes < 2 then none else (labelTail (bytes - 2) rest).map fun (label, rest) => ('\\' :: c :: label, rest)
    else if bytes < 1 then none
    else (labelTail (bytes - 1) (c :: rest)).map fun (label, rest) => ('\\' :: label, rest)
  | c :: rest =>
    if c = ']' then some ([], rest)
    else if c = '[' ∨ bytes < c.utf8Size then none
    else (labelTail (bytes - c.utf8Size) rest).map fun (label, rest) => (c :: label, rest)

/-- A label in brackets, without them and without the white space at its ends. -/
def label? : List Char → Option (List Char × List Char)
  | '[' :: rest => (labelTail maxLabelBytes rest).map fun (label, rest) => (trimAscii label, rest)
  | _ => none

/-- White space put together: each run of it counts as one space. -/
def collapseSpace (afterSpace : Bool) : List Char → List Char
  | [] => []
  | c :: rest =>
    if Text.isSpace c then
      if afterSpace then collapseSpace true rest else ' ' :: collapseSpace true rest
    else c :: collapseSpace false rest

/-- A label as it is shown. -/
def tidyLabel (label : List Char) : List Char := collapseSpace false (trimAscii label)

/-- A label as it is compared. -/
def labelKey (label : List Char) : String := String.ofList (Text.foldCase (tidyLabel label))

def angleDestination : List Char → Option (List Char × List Char)
  | [] => none
  | '\\' :: c :: rest => (angleDestination rest).map fun (url, rest) => ('\\' :: c :: url, rest)
  | c :: rest =>
    if c = '>' then some ([], rest)
    else if c = '\n' ∨ c = '<' then none
    else (angleDestination rest).map fun (url, rest) => (c :: url, rest)

def maxParentheses : Nat := 32

/-- A destination without brackets, with its parentheses balanced, up to a space or a control
character or the parenthesis that closes the link. -/
def bareDestination (depth : Nat) : List Char → Option (List Char × List Char)
  | [] => none
  | '\\' :: c :: rest =>
    if Text.isAsciiPunctuation c then
      (bareDestination depth rest).map fun (url, rest) => ('\\' :: c :: url, rest)
    else (bareDestination depth (c :: rest)).map fun (url, rest) => ('\\' :: url, rest)
  | c :: rest =>
    if c = '(' then
      if depth < maxParentheses then (bareDestination (depth + 1) rest).map fun (url, rest) => (c :: url, rest)
      else none
    else if c = ')' then
      if depth = 0 then some ([], c :: rest)
      else (bareDestination (depth - 1) rest).map fun (url, rest) => (c :: url, rest)
    else if isAsciiSpace c || isAsciiControl c then
      if depth = 0 then some ([], c :: rest) else none
    else (bareDestination depth rest).map fun (url, rest) => (c :: url, rest)

/-- A destination. Something has to follow it. -/
def destination? (text : List Char) : Option (List Char × List Char) :=
  match text with
  | '<' :: inner =>
    match angleDestination inner with
    | some (url, c :: rest) => some (url, c :: rest)
    | _ => none
  | c :: _ => if isAsciiSpace c || isAsciiControl c then none else bareDestination 0 text
  | [] => none

/-- The rest of a title up to the last mark that can close it. Only a backslash lets a title go on
behind such a mark. -/
def titleTail (closes : Char) (barred : Char → Bool) (escaped : Bool) : List Char → Option (List Char × List Char)
  | [] => none
  | c :: text =>
    let here := if c = closes then some ([], text) else none
    if (c = closes ∨ barred c) ∧ ¬ escaped then here
    else match titleTail closes barred (c == '\\') text with
      | some (title, rest) => some (c :: title, rest)
      | none => here

def title? : List Char → Option (List Char × List Char)
  | '"' :: text => titleTail '"' (fun _ => false) false text
  | '\'' :: text => titleTail '\'' (fun _ => false) false text
  | '(' :: text => titleTail ')' (· == '(') false text
  | _ => none

def cleanDestination (url : List Char) : String := String.ofList (resolve (trimAscii url))

def cleanTitle (title : List Char) : String := String.ofList (resolve title)

def dropBlanks (text : List Char) : List Char := text.dropWhile isBlank

def dropBlanksAndLine (text : List Char) : List Char :=
  match dropBlanks text with
  | '\n' :: rest => dropBlanks rest
  | rest => rest

/-- What follows the end of a line, if the line has nothing left but blanks. -/
def lineEnd? (text : List Char) : Option (List Char) :=
  match dropBlanks text with
  | [] => some []
  | '\n' :: rest => some rest
  | _ => none

end MarkdownHtml.Grammar
