import WebRouter.Query.Parse
import WebRouter.Value.Literal

/-!
# Writing query strings

The counterpart of reading them: `write` makes a token of every leaf of a nested
mapping, in order, with the keys on the way to it as a bracketed key. A text is
written between quotes, so that nothing in it is taken for a number or a truth
value.
-/

namespace WebRouter

namespace Query

open Number (floatText natText)

/-- A value as its rule reads it. -/
def Scalar.write : Scalar → List Char
  | bool b => (if b then "true" else "false").toList
  | int n => natText n
  | float x => (floatText Value.literalFloats x).toList
  | str s => '\x27' :: s.toList ++ ['\x27']

/-- The token for a value at the end of a path. -/
def writeToken (path : List String) (value : Scalar) : List Char :=
  Text.Percent.encode (Key.render path).toList ++ '=' :: Text.Percent.encode value.write

/-- The query string for a nested mapping. -/
def write (query : Query) : String :=
  String.ofList (['&'].intercalate ((leaves query).map fun leaf => writeToken leaf.1 leaf.2))

end Query

end WebRouter
