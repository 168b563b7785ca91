import MarkdownHtml.Document.Walk
import MarkdownHtml.Error
import MarkdownHtml.Event

/-! Visitors: each one sees every node of a document in pre-order, before anything is rendered, and
may stop the pipeline. What a visitor remembers is its state. -/

namespace MarkdownHtml

structure Visitor (σ : Type) where
  visit : NodeRef → σ → Except CallbackError Unit × σ
  state : σ

namespace Visitor
variable {σ : Type}

/-- Show nodes to a visitor until it fails. -/
def runOn (doc : Document) (visitor : Visitor σ) : List NodeId → Except CallbackError Unit × Visitor σ
  | [] => (.ok (), visitor)
  | id :: rest =>
    let (result, state) := visitor.visit ⟨doc, id⟩ visitor.state
    let visitor := { visitor with state }
    match result with
    | .ok () => runOn doc visitor rest
    | .error error => (.error error, visitor)

/-- Run visitors one after another, the first one having the given index. -/
def runFrom (doc : Document) (index : Nat) : List (Visitor σ) → Except Error Unit × List (Visitor σ)
  | [] => (.ok (), [])
  | visitor :: rest =>
    match visitor.runOn doc (doc.descendants Document.root) with
    | (.error error, visitor) => (.error (Error.ofCallback (.visitor index) error), visitor :: rest)
    | (.ok (), visitor) =>
      let (result, rest) := runFrom doc (index + 1) rest
      (result, visitor :: rest)

/-- Run every visitor over the whole document. The visitors come back with their new states. -/
def runAll (doc : Document) (visitors : List (Visitor σ)) : Except Error Unit × List (Visitor σ) × List Event :=
  match runFrom doc 0 visitors with
  | (.ok (), after) => (.ok (), after, [.ranVisitors visitors.length])
  | (.error error, after) => (.error error, after, [])

end Visitor

end MarkdownHtml
