/-! Text made safe between tags and inside of double quotes. -/

namespace MarkdownHtml.Html

def escapeChar (c : Char) : List Char :=
  match c with
  | '&' => ['&', 'a', 'm', 'p', ';']
  | '<' => ['&', 'l', 't', ';']
  | '>' => ['&', 'g', 't', ';']
  | '"' => ['&', 'q', 'u', 'o', 't', ';']
  | c => [c]

def escape (text : String) : String := String.ofList (text.toList.flatMap escapeChar)

end MarkdownHtml.Html
