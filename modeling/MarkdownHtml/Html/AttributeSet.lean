import MarkdownHtml.OrderedMap

/-! The attributes of one tag, in the order in which they are written. -/

namespace MarkdownHtml.Html

abbrev AttributeSet := OrderedMap String String

end MarkdownHtml.Html
