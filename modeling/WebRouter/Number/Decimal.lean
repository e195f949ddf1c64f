import WebRouter.Text.Digit

/-!
# Decimal numerals

Writing a natural number or an integer in base ten, and reading one. Two kinds
of reading occur. A query value is a numeral only if it is ASCII digits and
nothing else (`ofDigits` gives its value). An option of the command line may
also have blanks around it, a sign, digits of any script and single underscores
between digits (`readInt?`).
-/

namespace WebRouter.Number

/-- The digit character of a number below ten. -/
def digitChar (n : Nat) : Char :=
  Char.ofNat (48 + n)

/-- The decimal digits of a number, the last digit first. -/
def digitsReversed (n : Nat) : List Nat :=
  if _h : n < 10 then [n] else n % 10 :: digitsReversed (n / 10)
  termination_by n
  decreasing_by omega

/-- The decimal digits of a number. -/
def digits (n : Nat) : List Nat :=
  (digitsReversed n).reverse

/-- The numeral of a natural number. -/
def natText (n : Nat) : List Char :=
  (digits n).map digitChar

/-- The numeral of an integer. -/
def intText (i : Int) : List Char :=
  if i < 0 then '-' :: natText i.natAbs else natText i.natAbs

/-- Whether a character is an ASCII digit. -/
def isDigit (c : Char) : Bool :=
  48 ≤ c.toNat && c.toNat ≤ 57

/-- The number that a text of ASCII digits denotes. -/
def ofDigits (text : List Char) : Nat :=
  text.foldl (fun n c => 10 * n + (c.toNat - 48)) 0

/-- More digits than this are not read as a number. -/
def maxDigits : Nat := 4300

/-- The values of the digits of a numeral in which single underscores may stand
between two digits. -/
def groupedDigits? : List Char → Option (List Nat)
  | [] => none
  | [c] => (Text.digitValue? c).map ([·])
  | c :: '_' :: rest =>
    match Text.digitValue? c, groupedDigits? rest with
    | some d, some more => some (d :: more)
    | _, _ => none
  | c :: rest =>
    match Text.digitValue? c, groupedDigits? rest with
    | some d, some more => some (d :: more)
    | _, _ => none

/-- A text without the blanks around it. -/
def strip (text : List Char) : List Char :=
  ((text.dropWhile Text.isBlank).reverse.dropWhile Text.isBlank).reverse

/-- The integer that a numeral of the command line denotes. -/
def readInt? (text : String) : Option Int :=
  let magnitude (numeral : List Char) : Option Nat := do
    let ds ← groupedDigits? numeral
    if ds.length ≤ maxDigits then some (ds.foldl (fun n d => 10 * n + d) 0) else none
  match strip text.toList with
  | '-' :: rest => (magnitude rest).map fun n => -(n : Int)
  | '+' :: rest => (magnitude rest).map fun n => (n : Int)
  | rest => (magnitude rest).map fun n => (n : Int)

end WebRouter.Number
