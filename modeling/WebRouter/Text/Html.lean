/-!
# Text inside an HTML page

The five characters that could end a text or an attribute are written as
character references.
-/

namespace WebRouter.Text.Html

/-- The spelling of one character. -/
def escapeChar (c : Char) : List Char :=
  if c = '&' then "&amp;".toList
  else if c = '<' then "&lt;".toList
  else if c = '>' then "&gt;".toList
  else if c = '\x22' then "&quot;".toList
  else if c = '\x27' then "&#x27;".toList
  else [c]

/-- A text as it may stand in a page. -/
def escape (text : String) : String :=
  String.ofList (text.toList.flatMap escapeChar)

end WebRouter.Text.Html
