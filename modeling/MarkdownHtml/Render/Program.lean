import MarkdownHtml.Document.Walk
import MarkdownHtml.Error
import MarkdownHtml.Html.Writer

/-! What a render rule does: a program over the calls that a rule may make. Such a program can
write, read what has been written, decorate a tag, and have nodes rendered. It learns whether a
call failed, and goes on as it likes. -/

namespace MarkdownHtml

/-- What a callback ends with. -/
abbrev CallbackResult := Except CallbackError Unit

inductive RenderProgram (α : Type) where
  | done (value : α)
  | write (call : Html.Write) (next : RenderProgram α)
  | output (next : String → RenderProgram α)
  | renderChildren (node : NodeId) (next : CallbackResult → RenderProgram α)
  | render (node : NodeId) (next : CallbackResult → RenderProgram α)
  | attributes (tag : String) (base : Html.AttributeSet)
      (next : Except CallbackError Html.AttributeSet → RenderProgram α)

namespace RenderProgram

def bind (program : RenderProgram α) (next : α → RenderProgram β) : RenderProgram β :=
  match program with
  | .done value => next value
  | .write call rest => .write call (rest.bind next)
  | .output rest => .output fun html => (rest html).bind next
  | .renderChildren node rest => .renderChildren node fun result => (rest result).bind next
  | .render node rest => .render node fun result => (rest result).bind next
  | .attributes tag base rest => .attributes tag base fun result => (rest result).bind next

instance : Monad RenderProgram where
  pure := .done
  bind := bind

end RenderProgram

/-- A rule that takes over the HTML of a node. -/
abbrev RenderRule := NodeRef → RenderProgram CallbackResult

end MarkdownHtml
