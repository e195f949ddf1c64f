import WebRouter.Query.Parse

/-!
# Query strings as they arrive

A query string arrives as bytes, one per character, or already as a text, or not
at all, which counts as an empty one.
-/

namespace WebRouter

/-- A query string as it arrives. -/
inductive RawQuery where
  | missing
  | bytes (bs : Bytes)
  | text (s : String)

namespace RawQuery

/-- The query string as a text. -/
def toText : RawQuery → String
  | missing => ""
  | bytes bs => Text.Latin1.decode bs
  | text s => s

/-- The nested mapping that the query string describes. -/
def parse (raw : RawQuery) : Query :=
  Query.parse raw.toText

end RawQuery

end WebRouter
