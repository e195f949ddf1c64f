import WebRouter.Number.Decimal
import WebRouter.Value

/-!
# The values of a query

A query string carries texts, and a handler wants numbers and truth values. A
decoded value is read by the first of four rules that accepts all of it: a text
between two equal quotes, `true` or `false`, up to 4300 digits, digits with a
sign in front if need be and a point among them. A value that no rule accepts
stays the text it is.
-/

namespace WebRouter.Query

open Number (Binary64 isDigit ofDigits)

/-- A value in a query string. -/
inductive Scalar where
  | bool (b : Bool)
  | int (n : Nat)
  | float (x : Binary64)
  | str (s : String)
  deriving DecidableEq

namespace Scalar

/-- A query value among the values that handlers deal in. -/
def toValue : Scalar → Value
  | bool b => .bool b
  | int n => .int n
  | float x => .float x
  | str s => .str s

/-- A text between two equal quotes stands for what is between them. -/
def quoted? : List Char → Option Scalar
  | [] => none
  | quote :: rest =>
    if (quote = '\x27' ∨ quote = '\x22') ∧ rest.getLast? = some quote then
      some (str (String.ofList rest.dropLast))
    else none

/-- The two truth values. -/
def bool? (text : List Char) : Option Scalar :=
  if text = "true".toList then some (bool true)
  else if text = "false".toList then some (bool false)
  else none

/-- A run of digits that is not too long. -/
def int? (text : List Char) : Option Scalar :=
  if text ≠ [] ∧ text.all isDigit ∧ text.length ≤ Number.maxDigits then
    some (int (ofDigits text))
  else none

/-- A text without the sign it may begin with, and whether that is a minus. -/
def unsigned : List Char → Bool × List Char
  | '-' :: rest => (true, rest)
  | '+' :: rest => (false, rest)
  | text => (false, text)

/-- Digits, a point and digits, after a sign or none. -/
def float? (text : List Char) : Option Scalar :=
  let (negative, magnitude) := unsigned text
  let whole := magnitude.takeWhile isDigit
  match magnitude.dropWhile isDigit with
  | '.' :: places =>
    if whole ≠ [] ∧ places ≠ [] ∧ places.all isDigit then
      some (float (Binary64.ofDecimal negative (ofDigits (whole ++ places)) (-(places.length : Int))))
    else none
  | _ => none

/-- The rules, in the order in which they are asked. -/
def rules : List (List Char → Option Scalar) :=
  [quoted?, bool?, int?, float?]

/-- The value that the first accepting rule gives, the text itself without one. -/
def coerceBy (rules : List (List Char → Option Scalar)) (text : List Char) : Scalar :=
  (rules.findSome? (· text)).getD (str (String.ofList text))

/-- The value of a decoded text. -/
def ofText (text : String) : Scalar :=
  coerceBy rules text.toList

end Scalar

end WebRouter.Query
