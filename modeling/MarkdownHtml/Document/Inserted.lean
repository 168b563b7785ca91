import MarkdownHtml.Document.Edit
import MarkdownHtml.Document.Walk
import MarkdownHtml.Event
import MarkdownHtml.Text.Space

/-! Inserted text: what stands between two runs of `++` is moved under a node of its own. A run
opens before something solid and closes behind it; it looks into the neighbouring sibling where
its text ends. -/

namespace MarkdownHtml.Document

/-- What stands at one side of a run: white space, a line break or nothing, or anything else. -/
inductive Flank
  | blank | solid
  deriving DecidableEq, Repr

def Flank.ofChar? : Option Char → Flank
  | some c => if Text.isSpace c then .blank else .solid
  | none => .blank

/-- What a sibling shows to its neighbour, at the end that `edge` picks. -/
def siblingFlank (doc : Document) (edge : List Char → Option Char) (sibling : Option NodeId) : Flank :=
  match sibling.bind doc.kind? with
  | none => .blank
  | some (.text literal) => .ofChar? (edge literal.toList)
  | some .softLineBreak | some .hardLineBreak => .blank
  | some _ => .solid

/-- A run of two plus signs in a text, with the characters around it. -/
structure PlusRun where
  offset : Nat
  before : Option Char
  after : Option Char
  deriving DecidableEq, Repr

/-- The runs of a text, none sharing a character with the one before it. -/
def plusRuns (offset : Nat) (before : Option Char) : List Char → List PlusRun
  | '+' :: '+' :: rest => ⟨offset, before, rest.head?⟩ :: plusRuns (offset + 2) (some '+') rest
  | c :: rest => plusRuns (offset + 1) (some c) rest
  | [] => []

/-- A run that has found its partner. -/
structure Delimiter where
  text : NodeId
  offset : Nat
  opens : Bool
  deriving DecidableEq, Repr

structure Matching where
  /-- The runs that wait for a partner, last one first. -/
  openers : List (NodeId × Nat) := []
  matched : List Delimiter := []

def PlusRun.flanks (doc : Document) (text : NodeId) (run : PlusRun) : Flank × Flank :=
  let before := match run.before with
    | some c => .ofChar? (some c)
    | none => doc.siblingFlank List.getLast? (doc.previous? text)
  let after := match run.after with
    | some c => .ofChar? (some c)
    | none => doc.siblingFlank List.head? (doc.next? text)
  (before, after)

/-- A run closes the innermost open one if it can, else it opens if it can. -/
def Matching.addRun (doc : Document) (text : NodeId) (state : Matching) (run : PlusRun) : Matching :=
  match run.flanks doc text, state.openers with
  | (.solid, _), (node, offset) :: openers =>
    { openers, matched := ⟨text, run.offset, false⟩ :: ⟨node, offset, true⟩ :: state.matched }
  | (_, .solid), openers => { state with openers := (text, run.offset) :: openers }
  | (_, .blank), _ => state

def Matching.addChild (doc : Document) (state : Matching) (child : NodeId) : Matching :=
  match doc.kind? child with
  | some (.text literal) => (plusRuns 0 none literal.toList).foldl (addRun doc child) state
  | _ => state

def matchDelimiters (doc : Document) (container : NodeId) : List Delimiter :=
  ((doc.childIds container).foldl (Matching.addChild doc) {}).matched

def delimitersOf (delimiters : List Delimiter) (text : NodeId) : List Delimiter :=
  (delimiters.filter fun delimiter => delimiter.text == text).mergeSort
    fun first second => decide (first.offset ≤ second.offset)

/-- The children of a container on their way back into it. -/
structure Rebuilding where
  document : Document
  /-- The open inserted nodes, innermost first. -/
  opened : List NodeId := []

def Rebuilding.parent (container : NodeId) (state : Rebuilding) : NodeId := state.opened.headD container

def Rebuilding.pushPiece (container : NodeId) (state : Rebuilding) (piece : List Char) : Rebuilding :=
  if piece.isEmpty then state
  else { state with
    document := (state.document.appendNew (state.parent container) (.text (String.ofList piece))).2 }

def Rebuilding.pushDelimiter (container : NodeId) (state : Rebuilding) (delimiter : Delimiter) : Rebuilding :=
  if delimiter.opens then
    let (id, document) := state.document.appendNew (state.parent container) .ins
    { document, opened := id :: state.opened }
  else { state with opened := state.opened.tail }

/-- Put back a text from an offset on, cut at its delimiters. -/
def Rebuilding.pushPieces (container : NodeId) (start : Nat) (rest : List Char) (state : Rebuilding) :
    List Delimiter → Rebuilding
  | [] => state.pushPiece container rest
  | delimiter :: delimiters =>
    let length := delimiter.offset - start
    let state := (state.pushPiece container (rest.take length)).pushDelimiter container delimiter
    state.pushPieces container (delimiter.offset + 2) (rest.drop (length + 2)) delimiters

/-- Put back a child. A text that holds delimiters stays out, emptied, and its pieces come in. -/
def Rebuilding.pushChild (container : NodeId) (delimiters : List Delimiter) (state : Rebuilding) (child : NodeId) :
    Rebuilding :=
  match delimitersOf delimiters child, state.document.kind? child with
  | [], _ => { state with document := state.document.appendChild (state.parent container) child }
  | splits, some (.text literal) =>
    let state := { state with document := state.document.setKind child (.text "") }
    state.pushPieces container 0 literal.toList splits
  | _, _ => state

def rebuildWithInserted (doc : Document) (container : NodeId) (delimiters : List Delimiter) : Document :=
  let children := doc.childIds container
  let document := children.foldl detach doc
  (children.foldl (Rebuilding.pushChild container delimiters) { document }).document

def insertInto (state : Document × List Event) (container : NodeId) : Document × List Event :=
  let (doc, events) := state
  match doc.matchDelimiters container with
  | [] => state
  | delimiters =>
    (doc.rebuildWithInserted container delimiters, events ++ [.wrappedInserted (delimiters.length / 2)])

def markInserted (doc : Document) : Document × List Event :=
  (doc.descendants root).foldl insertInto (doc, [])

end MarkdownHtml.Document
