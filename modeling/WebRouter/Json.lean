import WebRouter.Failure

/-!
# Values as JSON

`write` spells a value as JSON in ASCII: a comma and a space between items, a
colon and a space after a key, and everything that is not printable ASCII by
its UTF-16 units. Tuples become arrays. A key that is a number, a truth value or
nothing is spelt as it would be on its own and put between quotes; any other key
that is not a text is refused. A value that JSON has no form for becomes the
text it displays as. The three unusual floats are spelt by name, although JSON
has no such tokens.

Values may be nested to any depth. A writer that runs out of stack on a value
nested about a thousand times is idealised away.
-/

namespace WebRouter.Json

open Number (FloatSpelling floatText intText)

/-- In JSON the unusual numbers are spelt out. -/
def floats : FloatSpelling :=
  { infinity := "Infinity", nan := "NaN" }

/-- A UTF-16 unit as an escape. -/
def unitEscape (n : Nat) : List Char :=
  '\x5c' :: 'u' :: Text.Quoted.hex 4 n

/-- A character inside a JSON text. -/
def escapeChar (c : Char) : List Char :=
  if c = '\x22' then ['\x5c', '\x22']
  else if c = '\x5c' then ['\x5c', '\x5c']
  else if c = '\n' then ['\x5c', 'n']
  else if c = '\r' then ['\x5c', 'r']
  else if c = '\t' then ['\x5c', 't']
  else if c = '\x08' then ['\x5c', 'b']
  else if c = '\x0c' then ['\x5c', 'f']
  else
    let n := c.toNat
    if 0x20 ≤ n ∧ n ≤ 0x7E then [c]
    else if n < 0x10000 then unitEscape n
    else unitEscape (0xD800 + (n - 0x10000) / 1024) ++ unitEscape (0xDC00 + (n - 0x10000) % 1024)

/-- A text between quotes. -/
def text (s : String) : String :=
  String.ofList ('\x22' :: s.toList.flatMap escapeChar ++ ['\x22'])

/-- An integer, refused if its numeral is too long. -/
def integer (i : Int) : Except Failure String :=
  let numeral := Number.natText i.natAbs
  if numeral.length ≤ Number.maxDigits then .ok (String.ofList (intText i))
  else .error .tooManyDigits

/-- The key of a JSON object. -/
def key : Value → Except Failure String
  | .str s => .ok (text s)
  | .null => .ok (text "null")
  | .bool b => .ok (text (if b then "true" else "false"))
  | .int i => (integer i).map text
  | .float x => .ok (text (floatText floats x))
  | v => .error (.jsonKey v.typeName)

mutual

/-- A value as JSON. -/
def write : Value → Except Failure String
  | .null => .ok "null"
  | .bool b => .ok (if b then "true" else "false")
  | .int i => integer i
  | .float x => .ok (floatText floats x)
  | .str s => .ok (text s)
  | .list items => do return "[" ++ ", ".intercalate (← writeItems items) ++ "]"
  | .tuple items => do return "[" ++ ", ".intercalate (← writeItems items) ++ "]"
  | .dict entries => do return "\x7b" ++ ", ".intercalate (← writeEntries entries) ++ "\x7d"
  | .bytes bs => .ok (text (Value.display (.bytes bs)))
  | .response body status contentType headers =>
    .ok (text (Value.display (.response body status contentType headers)))
  | .object kind => .ok (text (Value.display (.object kind)))

/-- The items of a JSON array. -/
def writeItems : List Value → Except Failure (List String)
  | [] => .ok []
  | v :: rest => do return (← write v) :: (← writeItems rest)

/-- The members of a JSON object. -/
def writeEntries : List (Value × Value) → Except Failure (List String)
  | [] => .ok []
  | (k, v) :: rest => do return ((← key k) ++ ": " ++ (← write v)) :: (← writeEntries rest)

end

end WebRouter.Json
