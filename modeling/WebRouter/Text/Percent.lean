import WebRouter.Text.Utf8

/-!
# Percent-encoding

Writing (`encode`) spells the UTF-8 bytes of a text, the unreserved characters
as themselves and every other byte as `%` and two capital hexadecimal digits.

Reading (`decode`) is lenient. A `%` that two hexadecimal digits do not follow
stands for itself. Each run of ASCII characters is turned into bytes and read
as UTF-8 on its own, so a raw non-ASCII character, which stands for itself, cuts
an encoded sequence short.
-/

namespace WebRouter.Text.Percent

/-- The value of a hexadecimal digit of either case. -/
def hexValue? (c : Char) : Option Nat :=
  let n := c.toNat
  if 48 ≤ n ∧ n ≤ 57 then some (n - 48)
  else if 65 ≤ n ∧ n ≤ 70 then some (n - 55)
  else if 97 ≤ n ∧ n ≤ 102 then some (n - 87)
  else none

/-- The capital hexadecimal digit of a number below 16. -/
def hexDigit (n : Nat) : Char :=
  Char.ofNat (if n < 10 then 48 + n else 55 + n)

/-- The characters that are written as themselves. -/
def isUnreserved (c : Char) : Bool :=
  c.isAlphanum || c == '_' || c == '.' || c == '-' || c == '~'

/-- The spelling of one byte. -/
def encodeByte (b : UInt8) : List Char :=
  if isUnreserved (Latin1.charOf b) then [Latin1.charOf b]
  else ['%', hexDigit (b.toNat / 16), hexDigit (b.toNat % 16)]

/-- The spelling of a byte string. -/
def encodeBytes (bytes : Bytes) : List Char :=
  bytes.flatMap encodeByte

/-- The spelling of a text. -/
def encode (text : List Char) : List Char :=
  encodeBytes (Utf8.encode text)

/-- The bytes that a run of ASCII characters spells. -/
def unescape : List Char → Bytes
  | '%' :: a :: b :: rest =>
    match hexValue? a, hexValue? b with
    | some high, some low => Utf8.byte (16 * high + low) :: unescape rest
    | _, _ => Utf8.byte 37 :: unescape (a :: b :: rest)
  | c :: rest => Utf8.byte c.toNat :: unescape rest
  | [] => []

/-- The text that a run of ASCII characters spells. -/
def decodeRun (run : List Char) : List Char :=
  Utf8.decodeReplacing (unescape run)

/-- Reads a text whose current ASCII run, in reverse, is `run`. -/
def decodeFrom (run : List Char) : List Char → List Char
  | [] => decodeRun run.reverse
  | c :: rest =>
    if c.toNat < 128 then decodeFrom (c :: run) rest
    else decodeRun run.reverse ++ c :: decodeFrom [] rest

/-- The text that a percent-encoded text spells. -/
def decode (text : List Char) : List Char :=
  decodeFrom [] text

end WebRouter.Text.Percent
