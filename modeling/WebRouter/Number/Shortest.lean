import WebRouter.Number.Binary64
import WebRouter.Number.Decimal

/-!
# The fewest digits that read back

Between a double-precision number and its neighbours lies an interval of
fractions that all round to it, its ends included when `m` is even. `shortest`
gives the decimal with the fewest digits in that interval, and of several with
that many digits the nearest one. It tries the number of digits from one
upwards; on the decimal grid of that many digits only the two points next to
the number need a look, since if any point of the grid lies in the interval one
of these two does.
-/

namespace WebRouter.Number

/-- The exponent of ten of the leading digit of the positive fraction `num / den`. -/
def leadingExponent (num den : Nat) : Int :=
  if den ≤ num then ((digitsReversed (num / den)).length : Int) - 1
  else -((digitsReversed ((den - 1) / num)).length : Int)

/-- A positive decimal: the digits of `digits`, times ten to the `exponent`. -/
structure Decimal where
  digits : Nat
  exponent : Int

/-- The positive number between the ends of the interval, all three over one
denominator. -/
structure Interval where
  low : Nat
  value : Nat
  high : Nat
  den : Nat
  closed : Bool

/-- The fractions that round to a positive finite number. The gap below a power
of two is half the gap above it. -/
def intervalOf (x : Binary64) : Interval :=
  let (m, q) := x.parts
  let down := if m = pow2 52 ∧ -1074 < q then 1 else 2
  let scaled (n : Nat) : Nat := if 2 ≤ q then n * pow2 (q - 2).toNat else n
  { low := scaled (4 * m - down)
    value := scaled (4 * m)
    high := scaled (4 * m + 2)
    den := if 2 ≤ q then 1 else pow2 (2 - q).toNat
    closed := m % 2 == 0 }

/-- Whether the fraction `num / den` lies in the interval. -/
def Interval.holds (i : Interval) (num den : Nat) : Bool :=
  if i.closed then i.low * den ≤ num * i.den && num * i.den ≤ i.high * den
  else i.low * den < num * i.den && num * i.den < i.high * den

/-- The point of the grid of multiples of `10^exponent` that lies in the interval
and next to the number, the nearer one if both do. -/
def Interval.pointOn? (i : Interval) (exponent : Int) : Option Nat :=
  let up := if 0 ≤ exponent then pow10 exponent.toNat else 1
  let down := if 0 ≤ exponent then 1 else pow10 (-exponent).toNat
  -- a grid point `d` is the fraction `d * up / down`
  let lower := i.value * down / (i.den * up)
  let upper := lower + 1
  let holdsLower := lower != 0 && i.holds (lower * up) down
  let holdsUpper := i.holds (upper * up) down
  let toLower := i.value * down - lower * up * i.den
  let toUpper := upper * up * i.den - i.value * down
  if holdsLower && holdsUpper then
    if toLower < toUpper then some lower
    else if toUpper < toLower then some upper
    else some (if lower % 2 == 0 then lower else upper)
  else if holdsLower then some lower
  else if holdsUpper then some upper
  else none

/-- The first grid, of `count` digits or finer, that has a point to offer;
seventeen digits always have one. -/
def Interval.shortestFrom (i : Interval) (lead : Int) : Nat → Nat → Decimal
  | _, 0 => ⟨0, 0⟩
  | count, fuel + 1 =>
    let exponent := lead - (count : Int) + 1
    match i.pointOn? exponent with
    | some d => ⟨d, exponent⟩
    | none => i.shortestFrom lead (count + 1) fuel

/-- The digits of a decimal without the zeros at their end. -/
def Decimal.significant (d : Decimal) : List Nat :=
  ((digitsReversed d.digits).dropWhile (· == 0)).reverse

/-- The position of the decimal point, counted from the first digit. -/
def Decimal.point (d : Decimal) : Int :=
  ((digitsReversed d.digits).length : Int) + d.exponent

/-- The shortest decimal of a positive finite number. -/
def shortest (x : Binary64) : Decimal :=
  let i := intervalOf x
  i.shortestFrom (leadingExponent i.value i.den) 1 17

/-- How a number is spelt where its digits do not decide it. -/
structure FloatSpelling where
  /-- infinity, without its sign -/
  infinity : String
  /-- what is not a number -/
  nan : String

/-- The spelling of an exponent of ten: a sign and at least two digits. -/
def exponentText (e : Int) : List Char :=
  let magnitude := natText e.natAbs
  (if e < 0 then '-' else '+') :: (if magnitude.length < 2 then '0' :: magnitude else magnitude)

/-- The spelling of the digits `ds` with the decimal point after `point` of them:
with an exponent if that of the leading digit is below -4 or above 15, otherwise
positionally and with a digit after the point. -/
def decimalText (ds : List Nat) (point : Int) : List Char :=
  let cs := ds.map digitChar
  if point ≤ -4 ∨ 16 < point then
    let e := 'e' :: exponentText (point - 1)
    match cs with
    | [] => e
    | [c] => c :: e
    | c :: more => c :: '.' :: more ++ e
  else if point ≤ 0 then
    '0' :: '.' :: List.replicate (-point).toNat '0' ++ cs
  else
    let whole := point.toNat
    let padded := cs ++ List.replicate (whole - cs.length) '0'
    let tail := padded.drop whole
    padded.take whole ++ '.' :: (if tail.isEmpty then ['0'] else tail)

/-- The text of a double-precision number. -/
def floatText (spelling : FloatSpelling) (x : Binary64) : String :=
  if x.isNaN then spelling.nan
  else
    let magnitude :=
      if x.isInfinite then spelling.infinity.toList
      else if x.isZero then ['0', '.', '0']
      else
        let d := shortest x
        decimalText d.significant d.point
    String.ofList (if x.isNegative then '-' :: magnitude else magnitude)

end WebRouter.Number
