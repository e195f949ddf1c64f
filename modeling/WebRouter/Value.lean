import WebRouter.Number.Binary64
import WebRouter.Text.Latin1
import WebRouter.Ordered

/-!
# The values that handlers deal in

What a handler returns is not known in advance, and neither is what a caller
puts into a configuration, so both are a `Value`. A response is among the
values: a handler may return one, alone or inside another value. Its parts are
values too, since nothing looks into them before the response is sent.

Three questions are asked of any value: what kind it is called in a message
(`typeName`), whether it counts as given (`isTruthy`), and whether two values
are the same key of a mapping (`sameKey`).
-/

namespace WebRouter

open Number (Binary64)

/-- A value that a handler returns or a caller passes in. -/
inductive Value where
  | null
  | bool (b : Bool)
  | int (i : Int)
  | float (x : Binary64)
  /-- a text, without lone surrogates -/
  | str (s : String)
  | bytes (bs : Bytes)
  | list (items : List Value)
  /-- a fixed group of values, such as a body with its status -/
  | tuple (items : List Value)
  | dict (entries : List (Value × Value))
  | response (body status contentType : Value) (headers : List (Value × Value))
  /-- anything else, known by the name of its kind alone -/
  | object (kind : String)
  deriving Inhabited

namespace Value

/-- What a value's kind is called in messages. -/
def typeName : Value → String
  | null => "NoneType"
  | bool _ => "bool"
  | int _ => "int"
  | float _ => "float"
  | str _ => "str"
  | bytes _ => "bytes"
  | list _ => "list"
  | tuple _ => "tuple"
  | dict _ => "dict"
  | response .. => "Response"
  | object kind => kind

/-- Whether a value counts as given: nothing, false, zero and what is empty do not. -/
def isTruthy : Value → Bool
  | null => false
  | bool b => b
  | int i => i != 0
  | float x => !x.isZero
  | str s => s != ""
  | bytes bs => !bs.isEmpty
  | list items => !items.isEmpty
  | tuple items => !items.isEmpty
  | dict entries => !entries.isEmpty
  | response .. => true
  | object _ => true

/-- `a` if it is given and `b` otherwise. -/
def orElse (a b : Value) : Value :=
  if a.isTruthy then a else b

/-- A number as a key: integers, truth values (0 and 1) and whole floats by their
integer, other floats by themselves. -/
def number? : Value → Option (Int ⊕ Binary64)
  | bool b => some (.inl (if b then 1 else 0))
  | int i => some (.inl i)
  | float x =>
    match x.toInt? with
    | some i => some (.inl i)
    | none => some (.inr x)
  | _ => none

/-- Whether two numbers are the same key; what is not a number is never the same
as anything. -/
def sameNumber : Int ⊕ Binary64 → Int ⊕ Binary64 → Bool
  | .inl i, .inl j => i == j
  | .inr x, .inr y => !x.isNaN && x == y
  | _, _ => false

mutual

/-- Whether two values are the same key of a mapping. -/
def sameKey : Value → Value → Bool
  | null, null => true
  | str s, str t => s == t
  | bytes s, bytes t => s == t
  | list s, list t => sameKeys s t
  | tuple s, tuple t => sameKeys s t
  | response b s c h, response b' s' c' h' =>
    sameKey b b' && sameKey s s' && sameKey c c' && sameEntries h h'
  | a, b =>
    match a.number?, b.number? with
    | some m, some n => sameNumber m n
    | _, _ => false

/-- `sameKey`, item by item. -/
def sameKeys : List Value → List Value → Bool
  | [], [] => true
  | a :: s, b :: t => sameKey a b && sameKeys s t
  | _, _ => false

/-- `sameKey`, header by header. -/
def sameEntries : List (Value × Value) → List (Value × Value) → Bool
  | [], [] => true
  | (k, v) :: s, (l, w) :: t => sameKey k l && sameKey v w && sameEntries s t
  | _, _ => false

end

instance : BEq Value := ⟨sameKey⟩

/-- The entries of a mapping given as pairs. -/
def dictOf (pairs : List (Value × Value)) : Value :=
  dict (Ordered.ofList pairs)

end Value

end WebRouter
