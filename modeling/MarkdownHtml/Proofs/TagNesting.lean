import MarkdownHtml.Proofs.RenderEnds
import MarkdownHtml.Proofs.WrittenTags

/-! The tags in the output of a rendering without render rules. What a node opens before its children it closes
behind them, whatever has been decided on the way, so its subtree leaves the tags around it as they are. -/

namespace MarkdownHtml.Renderer
open Html RenderM

/-- The names of tags that are always the same. -/
def builtinTags : List String :=
  ["p", "blockquote", "ul", "ol", "li", "pre", "code", "hr", "em", "strong", "a", "img", "br", "del", "ins", "table",
    "thead", "tbody", "tr", "th", "td", "input", "sup", "section"]

/-- A name that is written for some node of a document. -/
def KnownTag (doc : Document) (name : String) : Prop :=
  name ∈ builtinTags ∨ ∃ id level, doc.kind? id = some (.heading level) ∧ name = s!"h{level}"

theorem KnownTag.builtin {doc : Document} {name : String} (member : name ∈ builtinTags) : KnownTag doc name :=
  .inl member

theorem isDigit_of_mem_toString {number : Nat} {c : Char} (member : c ∈ (toString number).toList) : c.isDigit := by
  rw [Nat.toString_eq_repr, Nat.repr, String.toList_ofList] at member
  exact Nat.isDigit_of_mem_toDigits (by decide) (by decide) member

theorem toList_heading (level : Nat) : (s!"h{level}").toList = 'h' :: (toString level).toList := by
  rw [String.toList_append]
  rfl

private theorem KnownTag.plain {doc : Document} {name : String} (known : KnownTag doc name) : PlainName name := by
  rcases known with builtin | ⟨id, level, _, rfl⟩
  · exact (by decide : ∀ name ∈ builtinTags, PlainName name) name builtin
  · intro c member
    rw [toList_heading] at member
    rcases List.mem_cons.mp member with rfl | member
    · decide
    · have digit := isDigit_of_mem_toString member
      refine ⟨?_, ?_, ?_, ?_⟩ <;> rintro rfl <;> cases digit

/-- What a piece does to the tags that are open, innermost first. -/
def Piece.shift (stack : List String) : Piece → Option (List String)
  | .write (.raw _) | .write (.text _) | .write .line | .voidTag .. => some stack
  | .write (.closeTag name) =>
    match stack with
    | top :: below => if top = name then some below else none
    | [] => none
  | .openTag _ name _ => some (if name = "input" then stack else name :: stack)
  | .write _ => none

/-- A piece that writes nothing of its own but plain text and known tags. -/
def Piece.Clean (doc : Document) : Piece → Prop
  | .write (.raw text) => PlainText text
  | .write (.closeTag name) | .openTag _ name _ | .voidTag _ name _ => KnownTag doc name
  | .write _ => True

variable {renderer : Renderer}

/-- A computation that turns some open tags into others, if it succeeds. What is open below them stays. -/
def Nests (renderer : Renderer) (computation : RenderM Unit) (before after : List String) : Prop :=
  ∀ below state final, computation state = some (.ok (), final) →
    LeavesOpen (KnownTag renderer.document) state.writer.html (before ++ below) →
    LeavesOpen (KnownTag renderer.document) final.writer.html (after ++ below)

namespace Nests

variable {before middle after : List String}

theorem pure (stack : List String) : renderer.Nests (pure ()) stack stack := by
  rintro below state final ⟨⟩ leaves
  exact leaves

theorem bind {first second : RenderM Unit} (left : renderer.Nests first before middle)
    (right : renderer.Nests second middle after) : renderer.Nests (do first; second) before after := by
  intro below state final ran leaves
  obtain ⟨_, mid, ranFirst, ranSecond⟩ := ok_of_bind ran
  exact right below mid final ranSecond (left below state mid ranFirst leaves)

private theorem frame {computation : RenderM Unit} (nests : renderer.Nests computation before after)
    (stack : List String) : renderer.Nests computation (before ++ stack) (after ++ stack) := by
  intro below state final ran leaves
  rw [List.append_assoc] at leaves ⊢
  exact nests (stack ++ below) state final ran leaves

theorem forM {action : NodeId → RenderM Unit} {ids : List NodeId} (each : ∀ id ∈ ids, renderer.Nests (action id) [] [])
    (stack : List String) : renderer.Nests (ids.forM action) stack stack := by
  induction ids with
  | nil => exact .pure stack
  | cons id ids ih =>
    have here : renderer.Nests (action id) stack stack := (each id (List.mem_cons_self ..)).frame stack
    exact .bind here (ih fun other member => each other (List.mem_cons_of_mem _ member))

end Nests

theorem shift_append {piece : Piece} {before after : List String} (shift : piece.shift before = some after)
    (below : List String) : piece.shift (before ++ below) = some (after ++ below) := by
  unfold Piece.shift at shift ⊢
  split at shift
  · cases shift; rfl
  · cases shift; rfl
  · cases shift; rfl
  · cases shift; rfl
  · cases before with
    | nil => cases shift
    | cons top rest =>
      simp only [List.cons_append] at shift ⊢
      split at shift
      next same => cases shift; rw [if_pos same]
      · cases shift
  · cases shift
    split <;> rfl
  · cases shift

private theorem leavesOpen_emitPiece {piece : Piece} (clean : piece.Clean renderer.document)
    {before after : List String} (shift : piece.shift before = some after) {state final : RenderState}
    (ran : renderer.emitPiece piece state = some (.ok (), final))
    (leaves : LeavesOpen (KnownTag renderer.document) state.writer.html before) :
    LeavesOpen (KnownTag renderer.document) final.writer.html after := by
  cases piece with
  | write call =>
    cases ran
    cases call with
    | raw text => cases shift; exact leaves.raw clean
    | text content => cases shift; exact leaves.text content
    | line => cases shift; exact leaves.line
    | closeTag name =>
      cases before with
      | nil => cases shift
      | cons top rest =>
        simp only [Piece.shift] at shift
        split at shift
        next same =>
          cases shift
          rw [same] at leaves
          exact leaves.closeTag clean.plain clean
        · cases shift
    | tag name => cases shift
    | tagWith name attributes => cases shift
    | voidTag name attributes => cases shift
  | openTag id tag base =>
    obtain ⟨attributes, mid, ranAttributes, ⟨⟩⟩ := ok_of_bind ran
    cases shift
    rw [← (silent_attributes id tag base).writer_eq ranAttributes] at leaves
    exact leaves.tagWith clean.plain clean attributes
  | voidTag id tag base =>
    obtain ⟨attributes, mid, ranAttributes, ⟨⟩⟩ := ok_of_bind ran
    cases shift
    rw [← (silent_attributes id tag base).writer_eq ranAttributes] at leaves
    exact leaves.voidTag clean.plain clean attributes

theorem nests_emit {pieces : List Piece} (clean : ∀ piece ∈ pieces, piece.Clean renderer.document)
    {before after : List String} (shift : pieces.foldlM Piece.shift before = some after) :
    renderer.Nests (renderer.emit pieces) before after := by
  induction pieces generalizing before with
  | nil =>
    cases shift
    exact .pure _
  | cons piece rest ih =>
    obtain ⟨here, clean⟩ := List.forall_mem_cons.mp clean
    rw [List.foldlM_cons] at shift
    obtain ⟨middle, first, later⟩ := Option.bind_eq_some_iff.mp shift
    exact .bind (fun below _ _ => leavesOpen_emitPiece here (shift_append first below)) (ih clean later)

end MarkdownHtml.Renderer
