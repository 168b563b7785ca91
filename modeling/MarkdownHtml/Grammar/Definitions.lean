import MarkdownHtml.Grammar.LinkParts

/-! Reference definitions, which stand at the beginning of paragraphs and give links their
destinations from elsewhere. Of several definitions of one label the first one counts. -/

namespace MarkdownHtml.Grammar

structure Reference where
  destination : String
  title : String
  deriving Repr, Inhabited

/-- References by the keys of their labels. -/
structure References where
  entries : List (String × Reference) := []
  deriving Repr

namespace References

def find? (references : References) (label : List Char) : Option Reference :=
  references.entries.lookup (labelKey label)

def add (references : References) (label : List Char) (reference : Reference) : References :=
  let key := labelKey label
  if key.isEmpty || (references.entries.lookup key).isSome then references
  else ⟨(key, reference) :: references.entries⟩

end References

/-- The title of a definition and what follows its line. A title that does not end its line is
none, and then the destination has to end its own. -/
def definitionEnd (text : List Char) : Option (List Char × List Char) :=
  let titleStart := dropBlanksAndLine text
  let titled := if titleStart.length = text.length then none else title? titleStart
  match titled with
  | some (title, rest) =>
    match lineEnd? rest with
    | some rest => some (title, rest)
    | none => (lineEnd? text).map fun rest => ([], rest)
  | none => (lineEnd? text).map fun rest => ([], rest)

/-- A definition at the beginning of a text, and what follows it. -/
def definition? (text : List Char) : Option ((List Char × Reference) × List Char) :=
  match label? text with
  | some (c :: label, ':' :: rest) =>
    match destination? (dropBlanksAndLine rest) with
    | some (destination, rest) =>
      (definitionEnd rest).map fun (title, rest) =>
        ((c :: label, ⟨cleanDestination destination, cleanTitle title⟩), rest)
    | none => none
  | _ => none

/-- Take the definitions from the beginning of a paragraph. -/
def takeDefinitions (references : References) : Nat → List Char → References × List Char
  | 0, text => (references, text)
  | fuel + 1, text =>
    match definition? text with
    | some ((label, reference), rest) => takeDefinitions (references.add label reference) fuel rest
    | none => (references, text)

end MarkdownHtml.Grammar
