import MarkdownHtml.Node.Type

/-! Failures of callbacks. Reading and rendering as such never fail: an error always begins in a
visitor, an attribute rule or a render rule. -/

namespace MarkdownHtml

mutual

/-- An error of the pipeline: which callback failed, and how. -/
inductive Error
  | visitor (index : Nat) (source : CallbackError)
  | attributes (type : NodeType) (tag : String) (source : CallbackError)
  | render (type : NodeType) (source : CallbackError)

/-- What a callback fails with: a message of its own, or the pipeline's error of a callback that
ran inside of it. -/
inductive CallbackError
  | own (message : String)
  | nested (error : Error)

end

mutual

def Error.message : Error → String
  | .visitor index source => s!"Visitor #{index} failed: " ++ source.message
  | .attributes type tag source =>
    "Attribute rule failed on <" ++ tag ++ "> for " ++ type.name ++ " node: " ++ source.message
  | .render type source => "Render rule failed for " ++ type.name ++ " node: " ++ source.message

def CallbackError.message : CallbackError → String
  | .own message => message
  | .nested error => error.message

end

def Error.source : Error → CallbackError
  | .visitor _ source | .attributes _ _ source | .render _ source => source

/-- Name the callback that failed. An error of the pipeline that comes from a callback further
inside is passed on unchanged, so that it keeps naming the callback that failed first. -/
def Error.ofCallback (wrap : CallbackError → Error) : CallbackError → Error
  | .nested error => error
  | .own message => wrap (.own message)

end MarkdownHtml
