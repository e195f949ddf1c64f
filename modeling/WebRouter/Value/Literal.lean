import WebRouter.Value
import WebRouter.Number.Shortest
import WebRouter.Text.Quoted

/-!
# Values as text

`literal` spells a value the way messages show it: texts quoted, brackets round
lists, tuples and mappings. `display` is the same for everything but a text,
which displays as itself.
-/

namespace WebRouter.Value

open Number (FloatSpelling floatText intText)

/-- In messages the unusual numbers are spelt in short. -/
def literalFloats : FloatSpelling :=
  { infinity := "inf", nan := "nan" }

mutual

/-- A value as messages show it. -/
def literal : Value → String
  | null => "None"
  | bool b => if b then "True" else "False"
  | int i => String.ofList (intText i)
  | float x => floatText literalFloats x
  | str s => Text.Quoted.text s
  | bytes bs => Text.Quoted.bytes bs
  | list items => "[" ++ ", ".intercalate (literals items) ++ "]"
  | tuple items =>
    match literals items with
    | [item] => "(" ++ item ++ ",)"
    | many => "(" ++ ", ".intercalate many ++ ")"
  | dict entries => "\x7b" ++ ", ".intercalate (entryLiterals entries) ++ "\x7d"
  | response body status contentType headers =>
    let pairs :=
      match headerLiterals headers with
      | [pair] => "(" ++ pair ++ ",)"
      | many => "(" ++ ", ".intercalate many ++ ")"
    "Response(body=" ++ literal body ++ ", status=" ++ literal status
      ++ ", content_type=" ++ literal contentType ++ ", headers=" ++ pairs ++ ")"
  | object kind => "<" ++ kind ++ ">"

/-- Every value of a list as messages show it. -/
def literals : List Value → List String
  | [] => []
  | v :: rest => literal v :: literals rest

/-- Every entry of a mapping as messages show it. -/
def entryLiterals : List (Value × Value) → List String
  | [] => []
  | (k, v) :: rest => (literal k ++ ": " ++ literal v) :: entryLiterals rest

/-- Every header of a response as messages show it. -/
def headerLiterals : List (Value × Value) → List String
  | [] => []
  | (k, v) :: rest => ("(" ++ literal k ++ ", " ++ literal v ++ ")") :: headerLiterals rest

end

/-- A value as running text. -/
def display : Value → String
  | str s => s
  | v => literal v

end WebRouter.Value
