import WebRouter.Text.Latin1

/-!
# UTF-8, with a replacement for what is ill-formed

`scan` reads bytes one at a time. A lead byte announces how many bytes continue
it and the range the first of those must lie in (the range is what excludes
overlong forms, surrogates and code points past the last one); each further
byte must be an ordinary continuation. A byte that does not fit ends the
sequence as ill-formed and is looked at afresh, so every longest ill-formed
stretch counts once. `decode?` refuses such text and `decodeReplacing` writes
U+FFFD for each stretch. `clip` keeps as much of a text as a number of bytes
holds.

A text consists of characters, and a surrogate on its own is none; so `encode` has
bytes for every text. Texts with lone surrogates in them are not modelled.
-/

namespace WebRouter.Text.Utf8

/-- The byte of a number below 256. -/
def byte (n : Nat) : UInt8 :=
  UInt8.ofNat n

/-- The bytes of one character. -/
def encodeChar (c : Char) : Bytes :=
  let n := c.toNat
  if n < 0x80 then
    [byte n]
  else if n < 0x800 then
    [byte (0xC0 + n / 64), byte (0x80 + n % 64)]
  else if n < 0x10000 then
    [byte (0xE0 + n / 4096), byte (0x80 + n / 64 % 64), byte (0x80 + n % 64)]
  else
    [byte (0xF0 + n / 262144), byte (0x80 + n / 4096 % 64), byte (0x80 + n / 64 % 64),
      byte (0x80 + n % 64)]

/-- The bytes of a text. -/
def encode (text : List Char) : Bytes :=
  text.flatMap encodeChar

/-- A sequence under way: `count` bytes are still to come, the next one between
`low` and `high`, and `bits` is the number read so far. -/
structure Pending where
  count : Nat
  low : Nat
  high : Nat
  bits : Nat

/-- What a byte that begins a character leads to: a whole character, an
ill-formed byte (`none`), or a sequence under way. -/
def start (b : Nat) : List (Option Char) × Option Pending :=
  if b < 0x80 then ([some (Char.ofNat b)], none)
  else if b < 0xC2 then ([none], none)
  else if b < 0xE0 then ([], some ⟨1, 0x80, 0xBF, b - 0xC0⟩)
  else if b = 0xE0 then ([], some ⟨2, 0xA0, 0xBF, 0⟩)
  else if b = 0xED then ([], some ⟨2, 0x80, 0x9F, 13⟩)
  else if b < 0xF0 then ([], some ⟨2, 0x80, 0xBF, b - 0xE0⟩)
  else if b = 0xF0 then ([], some ⟨3, 0x90, 0xBF, 0⟩)
  else if b < 0xF4 then ([], some ⟨3, 0x80, 0xBF, b - 0xF0⟩)
  else if b = 0xF4 then ([], some ⟨3, 0x80, 0x8F, 4⟩)
  else ([none], none)

/-- One byte further: what is finished by it, and the sequence under way after it. -/
def step : Option Pending → Nat → List (Option Char) × Option Pending
  | none, b => start b
  | some p, b =>
    if p.low ≤ b ∧ b ≤ p.high then
      if p.count ≤ 1 then ([some (Char.ofNat (p.bits * 64 + b % 64))], none)
      else ([], some ⟨p.count - 1, 0x80, 0xBF, p.bits * 64 + b % 64⟩)
    else
      let (done, pending) := start b
      (none :: done, pending)

/-- The characters of a byte string, with `none` for each ill-formed stretch. -/
def scan : Option Pending → Bytes → List (Option Char)
  | none, [] => []
  | some _, [] => [none]
  | pending, b :: rest =>
    let (done, next) := step pending b.toNat
    done ++ scan next rest

/-- The text of well-formed bytes; `none` if any stretch is ill-formed. -/
def decode? (bytes : Bytes) : Option (List Char) :=
  (scan none bytes).mapM id

/-- The text of any bytes, with U+FFFD for each ill-formed stretch. -/
def decodeReplacing (bytes : Bytes) : List Char :=
  (scan none bytes).map (·.getD '\uFFFD')

/-- What a text reads as if it is cut off after `limit` bytes. A character that
the cut goes through is replaced. -/
def clip (limit : Nat) (text : String) : String :=
  String.ofList (decodeReplacing ((encode text.toList).take limit))

end WebRouter.Text.Utf8
