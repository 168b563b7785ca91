import MarkdownHtml.Document.Edit
import MarkdownHtml.Document.Walk
import MarkdownHtml.Text.Space

/-! Attributes of images: a block of `width` and `height` in braces directly behind an image is cut
from the text there and kept below the image. -/

namespace MarkdownHtml.Document

def imageAttributeKeys : List (List Char) := ["width".toList, "height".toList]

/-- One word of the form key, equals sign, value. -/
def readImageAttribute (word : List Char) : Option (String × String) :=
  match word.takeWhile (· != '='), word.dropWhile (· != '=') with
  | key, '=' :: value =>
    if imageAttributeKeys.contains key && !value.isEmpty then some (String.ofList key, String.ofList value) else none
  | _, _ => none

/-- The attributes of a block at the beginning of a text, and what follows the block. -/
def readImageAttributes : List Char → Option (List (String × String) × List Char)
  | '\x7b' :: body =>
    match body.dropWhile (· != '\x7d') with
    | _ :: rest =>
      match (Text.words (body.takeWhile (· != '\x7d'))).mapM readImageAttribute with
      | some (first :: others) => some (first :: others, rest)
      | _ => none
    | [] => none
  | _ => none

def attachTo (doc : Document) (image : NodeId) : Document :=
  match doc.kind? image, doc.next? image with
  | some (.image ..), some next =>
    match doc.kind? next with
    | some (.text literal) =>
      match readImageAttributes literal.toList with
      | some (attributes, rest) =>
        let doc := doc.setKind next (.text (String.ofList rest))
        let doc := if rest.isEmpty then doc.detach next else doc
        (doc.appendNew image (.imageAttributes attributes)).2
      | none => doc
    | _ => doc
  | _, _ => doc

def attachImageAttributes (doc : Document) : Document := (doc.descendants root).foldl attachTo doc

end MarkdownHtml.Document
