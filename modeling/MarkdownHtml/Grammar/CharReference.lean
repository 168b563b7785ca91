import MarkdownHtml.Grammar.Ascii
import MarkdownHtml.Grammar.NamedReference
import MarkdownHtml.Text.Punctuation

/-! Character references and backslash escapes, and texts in which they are resolved. -/

namespace MarkdownHtml.Grammar

/-- The character of a number. Zero, surrogates and numbers that are too large stand for the
replacement character. -/
def charOfCode (code : Nat) : Char :=
  if code = 0 ∨ (0xd800 ≤ code ∧ code ≤ 0xe000) ∨ 0x110000 ≤ code then '\ufffd' else Char.ofNat code

def digitValue (c : Char) : Nat :=
  if c.isDigit then c.toNat - 0x30 else if 'a' ≤ c then c.toNat - 0x57 else c.toNat - 0x37

/-- The character of at most seven digits that end in a semicolon, and what follows. -/
def numberReference? (isDigit : Char → Bool) (base : Nat) (text : List Char) : Option (List Char × List Char) :=
  let digits := text.takeWhile isDigit
  match text.dropWhile isDigit with
  | ';' :: rest =>
    if 1 ≤ digits.length ∧ digits.length ≤ 7 then
      some ([charOfCode (digits.foldl (fun code digit => code * base + digitValue digit) 0)], rest)
    else none
  | _ => none

/-- What a character reference stands for, given the text behind its ampersand, and what follows
its semicolon. A name has at least two characters and fewer than 32. -/
def charReference? (text : List Char) : Option (List Char × List Char) :=
  let numbered := match text with
    | '#' :: 'x' :: digits | '#' :: 'X' :: digits => numberReference? isHexDigit 16 digits
    | '#' :: digits => numberReference? Char.isDigit 10 digits
    | _ => none
  match numbered with
  | some found => some found
  | none =>
    let isNamePart := fun c => c != ';' && c != ' '
    let name := (text.take 32).takeWhile isNamePart
    match text.drop name.length with
    | ';' :: rest =>
      if 2 ≤ name.length ∧ name.length < 32 then
        (namedReference? (String.ofList name)).map fun chars => (chars, rest)
      else none
    | _ => none

theorem charReference?_shorter {text chars rest : List Char} (found : charReference? text = some (chars, rest)) :
    rest.length < text.length := by
  have numbers : ∀ {isDigit base} {part chars rest : List Char},
      numberReference? isDigit base part = some (chars, rest) → rest.length < part.length := by
    intro isDigit base part chars rest found
    unfold numberReference? at found
    have kept := (List.dropWhile_suffix isDigit (l := part)).length_le
    split at found
    · rename_i after shape
      simp only at found
      split at found
      · cases found
        simp only [shape, List.length_cons] at kept
        omega
      · simp at found
    · simp at found
  unfold charReference? at found
  simp only at found
  split at found
  · rename_i some_found shape
    cases found
    split at shape
    · have := numbers shape
      simp only [List.length_cons]
      omega
    · have := numbers shape
      simp only [List.length_cons]
      omega
    · have := numbers shape
      simp only [List.length_cons]
      omega
    · simp at shape
  · split at found
    · rename_i after shape
      split at found
      · simp only [Option.map_eq_some_iff, Prod.mk.injEq] at found
        obtain ⟨_, _, _, rfl⟩ := found
        have length := congrArg List.length shape
        simp only [List.length_drop, List.length_cons] at length
        omega
      · simp at found
    · simp at found

/-- Resolve every character reference of a text. -/
def resolveReferences : List Char → List Char
  | [] => []
  | c :: text =>
    if c = '&' then
      match found : charReference? text with
      | some (chars, rest) =>
        have := charReference?_shorter found
        chars ++ resolveReferences rest
      | none => c :: resolveReferences text
    else c :: resolveReferences text
termination_by text => text.length

/-- Drop every backslash that stands before ASCII punctuation. -/
def resolveEscapes : List Char → List Char
  | '\\' :: c :: text =>
    if Text.isAsciiPunctuation c then c :: resolveEscapes text else '\\' :: resolveEscapes (c :: text)
  | c :: text => c :: resolveEscapes text
  | [] => []

def resolve (text : List Char) : List Char := resolveEscapes (resolveReferences text)

end MarkdownHtml.Grammar
