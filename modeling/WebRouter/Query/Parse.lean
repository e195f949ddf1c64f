import WebRouter.Query.Key
import WebRouter.Query.Scalar
import WebRouter.Query.Tree
import WebRouter.Text.Percent

/-!
# Query strings

A query string is tokens between `&`, each a key, `=` and a value. `pairs` cuts
it up and decodes both parts; a token without `=` has an empty value and an
empty token counts for nothing. `parse` then stores one value after the other in
a nested mapping, a bracketed key along its path and any other key at the top,
so that of several assignments to one place the last one stands.
-/

namespace WebRouter

/-- A parsed query: a nested mapping of coerced values. -/
abbrev Query := Query.Forest String Query.Scalar

namespace Query

/-- The decoded form of a part of a token. -/
def decoded (part : List Char) : String :=
  String.ofList (Text.Percent.decode part)

/-- The decoded keys and values of a query string. -/
def pairs (raw : String) : List (String × String) :=
  ((Text.splitOn '&' raw.toList).filter (!·.isEmpty)).map fun token =>
    (decoded (Text.before '=' token), decoded (Text.after '=' token))

/-- Stores one value. A key without brackets takes the place of whatever stands
there; a bracketed one is merged with it. -/
def assign (query : Query) (key : String) (value : Scalar) : Query :=
  match Key.parse? key with
  | some (name :: names) => mergeInto query (nestUnder name names (.leaf value))
  | _ => Ordered.put key (.leaf value) query

/-- The nested mapping that a query string describes. -/
def parse (raw : String) : Query :=
  (pairs raw).foldl (fun query pair => assign query pair.1 (Scalar.ofText pair.2)) []

mutual

/-- A tree among the values that handlers deal in. -/
def valueOfTree : Tree String Scalar → Value
  | .leaf value => value.toValue
  | .branch children => .dict (entriesOfForest children)

/-- A forest as the entries of a mapping. -/
def entriesOfForest : Forest String Scalar → List (Value × Value)
  | [] => []
  | (key, t) :: rest => (.str key, valueOfTree t) :: entriesOfForest rest

end

/-- A query as a value. -/
def toValue (query : Query) : Value :=
  .dict (entriesOfForest query)

end Query

end WebRouter
