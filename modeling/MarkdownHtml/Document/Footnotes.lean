import MarkdownHtml.Document.Edit
import MarkdownHtml.Document.Walk
import MarkdownHtml.Event
import MarkdownHtml.OrderedMap
import MarkdownHtml.Text.Lowercase

/-! Footnote numbers. Definitions are numbered in the order in which they are first referred to,
and moved to the end of the document; those that nothing refers to are dropped. -/

namespace MarkdownHtml.Document

/-- How often each label is referred to, in order of first reference. Labels are lowercase. -/
abbrev ReferenceCounts := OrderedMap String Nat

namespace ReferenceCounts

/-- The number of a footnote: the place of its label among all labels, from one. -/
def number (counts : ReferenceCounts) (key : String) : Nat :=
  counts.entries.findIdx (fun entry => entry.1 == key) + 1

def count (counts : ReferenceCounts) (key : String) : Nat := (counts.get? key).getD 0

end ReferenceCounts

/-- Number one node, if it is a reference. -/
def numberReference (state : Document × ReferenceCounts) (id : NodeId) : Document × ReferenceCounts :=
  match state.1.kind? id with
  | some (.footnoteReference label _ _) =>
    let key := Text.lowercase label
    let counts := state.2.insert key (ReferenceCounts.count state.2 key + 1)
    (state.1.setKind id (.footnoteReference label (ReferenceCounts.number counts key)
      (ReferenceCounts.count counts key)), counts)
  | _ => state

/-- What has become of the definitions so far. -/
structure NumberedDefinitions where
  document : Document
  numbered : List (Nat × NodeId) := []
  events : List Event := []

/-- Number one definition, or drop it, and in both cases take it from its place. -/
def numberDefinition (counts : ReferenceCounts) (state : NumberedDefinitions) (id : NodeId) : NumberedDefinitions :=
  match state.document.kind? id with
  | some (.footnoteDefinition label _ _) =>
    let key := Text.lowercase label
    match counts.get? key with
    | some count =>
      let number := ReferenceCounts.number counts key
      { state with
        document := (state.document.setKind id (.footnoteDefinition label number count)).detach id
        numbered := state.numbered ++ [(number, id)] }
    | none =>
      { state with
        document := state.document.detach id
        events := state.events ++ [.droppedDefinition label] }
  | _ => state

def numberFootnotes (doc : Document) : Document × List Event :=
  let ids := doc.descendants root
  let definitions := ids.filter fun id => doc.type? id == some .footnoteDefinition
  let (doc, counts) := ids.foldl numberReference (doc, {})
  let state := definitions.foldl (numberDefinition counts) { document := doc }
  let sorted := state.numbered.mergeSort fun first second => decide (first.1 ≤ second.1)
  (sorted.foldl (fun doc entry => doc.appendChild root entry.2) state.document, state.events)

end MarkdownHtml.Document
