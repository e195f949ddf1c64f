/-!
# Double-precision numbers

A number of the IEEE 754 format binary64 is held as its 64 bits. A finite one is
`m · 2^q` for a whole number `m` below `2^53`; `parts` takes the bits apart and
`assemble` puts them together. `ofRatio` is the number nearest to a fraction, a
fraction halfway between two neighbours going to the one whose `m` is even, and
everything from the middle past the largest number upwards going to infinity.
All of it is arithmetic on whole numbers.
-/

namespace WebRouter.Number

/-- A power of two. -/
def pow2 (n : Nat) : Nat :=
  Nat.pow 2 n

/-- A power of ten. -/
def pow10 (n : Nat) : Nat :=
  Nat.pow 10 n

/-- No factor gives one. -/
theorem pow2_zero : pow2 0 = 1 :=
  rfl

/-- One more factor doubles. -/
theorem pow2_succ (n : Nat) : pow2 (n + 1) = pow2 n * 2 :=
  rfl

/-- A power of two is never zero. -/
theorem pow2_pos (n : Nat) : 0 < pow2 n := by
  induction n with
  | zero => exact Nat.one_pos
  | succ n ih => rw [pow2_succ]; omega

/-- No factor gives one. -/
theorem pow10_zero : pow10 0 = 1 :=
  rfl

/-- One more factor multiplies by ten. -/
theorem pow10_succ (n : Nat) : pow10 (n + 1) = pow10 n * 10 :=
  rfl

/-- A power of ten is never zero. -/
theorem pow10_pos (n : Nat) : 0 < pow10 n := by
  induction n with
  | zero => exact Nat.one_pos
  | succ n ih => rw [pow10_succ]; omega

/-- A double-precision number, as its bits. -/
structure Binary64 where
  bits : UInt64
  deriving DecidableEq, Inhabited

namespace Binary64

/-- Whether the sign bit is set. -/
def isNegative (x : Binary64) : Bool :=
  x.bits.toNat / pow2 63 == 1

/-- The exponent field: 0 for zero and the subnormal numbers, 2047 for infinity
and what is not a number. -/
def exponentField (x : Binary64) : Nat :=
  x.bits.toNat / pow2 52 % 2048

/-- The 52 bits below the exponent field. -/
def fraction (x : Binary64) : Nat :=
  x.bits.toNat % pow2 52

/-- Not a number. -/
def isNaN (x : Binary64) : Bool :=
  x.exponentField == 2047 && x.fraction != 0

/-- One of the two infinities. -/
def isInfinite (x : Binary64) : Bool :=
  x.exponentField == 2047 && x.fraction == 0

/-- Zero, of either sign. -/
def isZero (x : Binary64) : Bool :=
  x.exponentField == 0 && x.fraction == 0

/-- `m` and `q` of the magnitude `m · 2^q` of a finite number. -/
def parts (x : Binary64) : Nat × Int :=
  if x.exponentField = 0 then (x.fraction, -1074)
  else (pow2 52 + x.fraction, (x.exponentField : Int) - 1075)

/-- The number with the given sign, exponent field and fraction. -/
def assemble (negative : Bool) (exponentField fraction : Nat) : Binary64 :=
  ⟨UInt64.ofNat ((if negative then pow2 63 else 0) + exponentField * pow2 52 + fraction)⟩

/-- Infinity. -/
def infinity (negative : Bool) : Binary64 :=
  assemble negative 2047 0

/-- The one way this library writes "not a number". -/
def nan : Binary64 :=
  assemble false 2047 (pow2 51)

/-- The whole number nearest to `num / den`, the even one of two equally near. -/
def roundHalfEven (num den : Nat) : Nat :=
  let quotient := num / den
  let twice := 2 * (num % den)
  if twice < den then quotient
  else if den < twice then quotient + 1
  else quotient + quotient % 2

/-- The exponent `q` at which `num / den` is `m · 2^q` with `m` of 53 bits, but
no less than the least one there is. -/
def scaleOf (num den : Nat) : Int :=
  let rough : Int := (Nat.log2 num : Int) - Nat.log2 den - 52
  -- `num / den` lies strictly between the powers `rough + 51` and `rough + 53` of two
  let below : Bool :=
    if 0 ≤ rough + 52 then num < den * pow2 (rough + 52).toNat
    else num * pow2 (-(rough + 52)).toNat < den
  max (if below then rough - 1 else rough) (-1074)

/-- The number nearest to the fraction `num / den`. -/
def ofRatio (negative : Bool) (num den : Nat) : Binary64 :=
  if num = 0 ∨ den = 0 then assemble negative 0 0
  else
    let q := scaleOf num den
    let m :=
      if 0 ≤ q then roundHalfEven num (den * pow2 q.toNat)
      else roundHalfEven (num * pow2 (-q).toNat) den
    -- rounding up may need one bit more
    let (m, q) := if m = pow2 53 then (pow2 52, q + 1) else (m, q)
    if m < pow2 52 then assemble negative 0 m
    else if 971 < q then infinity negative
    else assemble negative (q + 1075).toNat (m - pow2 52)

/-- The number nearest to `mantissa · 10^exponent`. -/
def ofDecimal (negative : Bool) (mantissa : Nat) (exponent : Int) : Binary64 :=
  if 0 ≤ exponent then ofRatio negative (mantissa * pow10 exponent.toNat) 1
  else ofRatio negative mantissa (pow10 (-exponent).toNat)

/-- The integer a number is, if it is one. -/
def toInt? (x : Binary64) : Option Int :=
  if x.exponentField = 2047 then none
  else
    let (m, q) := x.parts
    let magnitude? :=
      if 0 ≤ q then some (m * pow2 q.toNat)
      else if m % pow2 (-q).toNat = 0 then some (m / pow2 (-q).toNat)
      else none
    magnitude?.map fun n => if x.isNegative then -(n : Int) else (n : Int)

/-- Whether a number is at least the natural number `n`. -/
def atLeast (x : Binary64) (n : Nat) : Bool :=
  if x.isNaN then false
  else if x.isNegative then x.isZero && n == 0
  else if x.isInfinite then true
  else
    let (m, q) := x.parts
    if 0 ≤ q then n ≤ m * pow2 q.toNat else n * pow2 (-q).toNat ≤ m

end Binary64

end WebRouter.Number
