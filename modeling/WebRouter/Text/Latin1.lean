/-!
# One byte per character

Header names, header values and the two halves of a request line travel as
bytes that stand for the first 256 code points. Every byte string can be read
so; a text can be written so if none of its characters lies beyond them.
-/

namespace WebRouter

/-- A string of bytes. -/
abbrev Bytes := List UInt8

namespace Text.Latin1

/-- The character a byte stands for. -/
def charOf (b : UInt8) : Char :=
  Char.ofNat b.toNat

/-- The text that bytes stand for. -/
def decode (bytes : Bytes) : String :=
  String.ofList (bytes.map charOf)

/-- The byte that stands for a character, for the first 256 of them. -/
def byteOf? (c : Char) : Option UInt8 :=
  if c.toNat < 256 then some (UInt8.ofNat c.toNat) else none

/-- The bytes that stand for a text; `none` if a character has no byte. -/
def encode? (text : String) : Option Bytes :=
  text.toList.mapM byteOf?

/-- The bytes of a text whose characters all have one. -/
def bytesOf (text : String) : Bytes :=
  text.toList.map fun c => UInt8.ofNat c.toNat

end Text.Latin1

end WebRouter
