import WebRouter.Text.Printable
import WebRouter.Text.Utf8
import WebRouter.Text.Percent

/-!
# Quoted text

A text or a byte string that appears in a message stands between quotes: single
ones, unless it holds a single quote and no double one. The backslash, the quote
in use, tab, line feed and carriage return are written with a backslash, and
what is not printable by the number of its code point in two, four or eight
hexadecimal digits. Of bytes only printable ASCII is shown as itself.
-/

namespace WebRouter.Text.Quoted

/-- The quote that a text is put between. -/
def quoteFor (text : List Char) : Char :=
  if text.contains '\x27' && !text.contains '\x22' then '\x22' else '\x27'

/-- The last `width` hexadecimal digits of a number, in lower case. -/
def hex : Nat → Nat → List Char
  | 0, _ => []
  | width + 1, n =>
    let digit := n % 16
    hex width (n / 16) ++ [Char.ofNat (if digit < 10 then 48 + digit else 87 + digit)]

/-- The escape of a character by its number. -/
def numbered (n : Nat) : List Char :=
  if n < 0x100 then '\x5c' :: 'x' :: hex 2 n
  else if n < 0x10000 then '\x5c' :: 'u' :: hex 4 n
  else '\x5c' :: 'U' :: hex 8 n

/-- A character between quotes, if `shown` tells which characters stand for
themselves. -/
def escapeChar (shown : Char → Bool) (quote c : Char) : List Char :=
  if c = quote ∨ c = '\x5c' then ['\x5c', c]
  else if c = '\t' then ['\x5c', 't']
  else if c = '\n' then ['\x5c', 'n']
  else if c = '\r' then ['\x5c', 'r']
  else if shown c then [c]
  else numbered c.toNat

/-- Characters between the quotes they call for. -/
def quoteWith (shown : Char → Bool) (text : List Char) : List Char :=
  let quote := quoteFor text
  quote :: text.flatMap (escapeChar shown quote) ++ [quote]

/-- A quoted text. -/
def text (s : String) : String :=
  String.ofList (quoteWith isPrintable s.toList)

/-- A quoted byte string, marked by a `b` in front. -/
def bytes (bs : Bytes) : String :=
  String.ofList
    ('b' :: quoteWith (fun c => isPrintable c && c.toNat < 0x80) (bs.map Latin1.charOf))

end WebRouter.Text.Quoted
