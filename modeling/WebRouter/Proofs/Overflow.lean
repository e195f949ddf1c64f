import Mathlib.Algebra.Order.Field.Power
import Mathlib.Data.Nat.Log
import Mathlib.Tactic.FieldSimp
import Mathlib.Tactic.Linarith
import Mathlib.Tactic.Positivity
import Mathlib.Tactic.Ring
import WebRouter.Number.Binary64

/-!
# Decimals that are too large for a double

The largest finite double is `(2^53 - 1) · 2^971`. The power of two that would come next is
`2^1024`, and from the middle between the two, `limit`, rounding goes to infinity.

A fraction is rounded at its scale `q`, where it is less than `2^53` steps of `2^q` and, unless
no finer scale exists, no less than `2^52` of them (`scaleOf_spec`). Below the scale 971 it is
therefore less than `2^1023` and stays finite, above it it is `2^1024` at least and does not. At
the scale 971 the rounding decides: it has to go up to `2^53` (`nearest_eq_iff`).

> `isInfinite_ofDecimal_iff`: the decimals that are read as an infinity are those from the limit
> on.

The comparisons of `scaleOf` are made on whole numbers, with a power of two on one side or on the
other. They are turned into comparisons of fractions (`scaled_lt_iff`), where `2^q` may have any
exponent.
-/

namespace WebRouter.Number

theorem cast_pow2 (n : Nat) : (pow2 n : ℚ) = 2 ^ n :=
  Nat.cast_pow 2 n

/-- A whole power of two, as the quotient of two powers of which one is 1. -/
theorem pow2_div_pow2 (e : Int) : (pow2 e.toNat : ℚ) / pow2 (-e).toNat = 2 ^ e := by
  obtain ⟨n, rfl | rfl⟩ := e.eq_nat_or_neg
  · rw [cast_pow2, cast_pow2, Int.toNat_natCast, Int.toNat_neg_natCast, pow_zero, div_one,
      zpow_natCast]
  · rw [cast_pow2, cast_pow2, Int.neg_neg, Int.toNat_natCast, Int.toNat_neg_natCast, pow_zero,
      zpow_neg, zpow_natCast, one_div]

namespace Binary64

/-! ## Rounding to a whole number -/

theorem roundHalfEven_le {num den k : Nat} (hden : 0 < den) (h : num < k * den) :
    roundHalfEven num den ≤ k := by
  have hq : num / den < k := (Nat.div_lt_iff_lt_mul hden).mpr h
  unfold roundHalfEven
  dsimp only
  split
  · omega
  · split <;> omega

theorem le_roundHalfEven {num den k : Nat} (hden : 0 < den) (h : k * den ≤ num) :
    k ≤ roundHalfEven num den := by
  have hq : k ≤ num / den := (Nat.le_div_iff_mul_le hden).mpr h
  unfold roundHalfEven
  dsimp only
  split
  · omega
  · split <;> omega

/-- Past an odd number rounding goes from the middle on. -/
theorem odd_lt_roundHalfEven_iff {num den k : Nat} (hden : 0 < den) (hk : k % 2 = 1) :
    k < roundHalfEven num den ↔ (2 * k + 1) * den ≤ 2 * num := by
  have hdiv : den * (num / den) + num % den = num := Nat.div_add_mod num den
  have hrest : num % den < den := Nat.mod_lt num hden
  have hmiddle : (2 * k + 1) * den = 2 * (den * k) + den := by ring
  rw [hmiddle]
  unfold roundHalfEven
  dsimp only
  -- only just above `k` does the remainder count
  rcases Nat.lt_trichotomy (num / den) k with hlt | heq | hgt
  · have hbelow : den * (num / den) + den ≤ den * k := by
      rw [← Nat.mul_succ]
      exact Nat.mul_le_mul_left den hlt
    have hnot : ¬ 2 * (den * k) + den ≤ 2 * num := by omega
    split
    · omega
    · split <;> omega
  · rw [heq] at hdiv ⊢
    split
    · omega
    · split <;> omega
  · have habove : den * k + den ≤ den * (num / den) := by
      rw [← Nat.mul_succ]
      exact Nat.mul_le_mul_left den hgt
    have hyes : 2 * (den * k) + den ≤ 2 * num := by omega
    split
    · omega
    · split <;> omega

/-! ## The scale of a fraction -/

section Scale

variable {num den : Nat}

/-- A fraction is compared with a multiple of a power of two by whole numbers. -/
theorem scaled_lt_iff (hden : 0 < den) (k : Nat) (q : Int) :
    num * pow2 (-q).toNat < k * (den * pow2 q.toNat) ↔ (num : ℚ) / den < k * 2 ^ q := by
  have hd : (0 : ℚ) < den := Nat.cast_pos.mpr hden
  have hp : (0 : ℚ) < pow2 (-q).toNat := Nat.cast_pos.mpr (pow2_pos _)
  rw [← pow2_div_pow2, ← mul_div_assoc, div_lt_div_iff₀ hd hp, mul_assoc, mul_comm _ (den : ℚ)]
  norm_cast

theorem log2_bounds (hnum : 0 < num) :
    (2 : ℚ) ^ (Nat.log2 num : Int) ≤ num ∧ (num : ℚ) < 2 ^ (Nat.log2 num + 1 : Int) := by
  have hne : num ≠ 0 := by omega
  constructor
  · rw [zpow_natCast]
    exact_mod_cast Nat.log2_self_le hne
  · have hlt : num < 2 ^ (Nat.log2 num + 1) := Nat.lt_log2_self
    exact_mod_cast hlt

/-- The comparison by which the scale is decided. -/
theorem below_iff (hden : 0 < den) (e : Int) :
    (if 0 ≤ e then decide (num < den * pow2 e.toNat) else decide (num * pow2 (-e).toNat < den))
      = true ↔ (num : ℚ) / den < 2 ^ e := by
  have hscaled : num * pow2 (-e).toNat < 1 * (den * pow2 e.toNat)
      ↔ (num : ℚ) / den < (1 : Nat) * 2 ^ e := scaled_lt_iff hden 1 e
  rw [Nat.one_mul, Nat.cast_one, one_mul] at hscaled
  rw [← hscaled]
  split
  · next h =>
    rw [decide_eq_true_eq, Int.toNat_of_nonpos (by omega : -e ≤ 0), pow2_zero, Nat.mul_one]
  · next h =>
    rw [decide_eq_true_eq, Int.toNat_of_nonpos (by omega : e ≤ 0), pow2_zero, Nat.mul_one]

/-- At its scale a fraction has 53 bits before the point, or fewer if no finer scale exists. -/
theorem scaleOf_spec (hnum : 0 < num) (hden : 0 < den) :
    -1074 ≤ scaleOf num den ∧ (num : ℚ) / den < 2 ^ (scaleOf num den + 53)
      ∧ (scaleOf num den = -1074 ∨ (2 : ℚ) ^ (scaleOf num den + 52) ≤ num / den) := by
  obtain ⟨hnumlow, hnumhigh⟩ := log2_bounds hnum
  obtain ⟨hdenlow, hdenhigh⟩ := log2_bounds hden
  have hd : (0 : ℚ) < den := Nat.cast_pos.mpr hden
  unfold scaleOf
  dsimp only
  simp only [below_iff hden]
  generalize hrough : (Nat.log2 num : Int) - Nat.log2 den - 52 = rough
  have hhigh : (num : ℚ) / den < 2 ^ (rough + 53) := by
    rw [div_lt_iff₀ hd]
    calc (num : ℚ) < 2 ^ (Nat.log2 num + 1 : Int) := hnumhigh
      _ = 2 ^ (rough + 53) * 2 ^ (Nat.log2 den : Int) := by
        rw [← zpow_add₀ two_ne_zero]
        congr 1
        omega
      _ ≤ 2 ^ (rough + 53) * den := mul_le_mul_of_nonneg_left hdenlow (by positivity)
  have hlow : (2 : ℚ) ^ (rough + 51) ≤ num / den := by
    rw [le_div_iff₀ hd]
    calc (2 : ℚ) ^ (rough + 51) * den ≤ 2 ^ (rough + 51) * 2 ^ (Nat.log2 den + 1 : Int) :=
          mul_le_mul_of_nonneg_left hdenhigh.le (by positivity)
      _ = 2 ^ (Nat.log2 num : Int) := by
        rw [← zpow_add₀ two_ne_zero]
        congr 1
        omega
      _ ≤ num := hnumlow
  -- the comparison says in which of the two intervals the fraction is
  have hexact : ∃ exact : Int, (if (num : ℚ) / den < 2 ^ (rough + 52) then rough - 1 else rough)
      = exact ∧ (num : ℚ) / den < 2 ^ (exact + 53) ∧ (2 : ℚ) ^ (exact + 52) ≤ num / den := by
    split
    · next h => exact ⟨_, rfl, by rwa [show rough - 1 + 53 = rough + 52 by ring],
        by rwa [show rough - 1 + 52 = rough + 51 by ring]⟩
    · next h => exact ⟨_, rfl, hhigh, not_lt.mp h⟩
  obtain ⟨exact, hscale, habove, hbelow⟩ := hexact
  rw [hscale]
  refine ⟨le_max_right _ _, habove.trans_le ?_, ?_⟩
  · exact zpow_le_zpow_right₀ one_le_two (by omega)
  · rcases le_total exact (-1074) with h | h
    · exact Or.inl (max_eq_right h)
    · rw [max_eq_left h]
      exact Or.inr hbelow

end Scale

/-! ## The fields of a number -/

section Fields

variable {negative : Bool} {e f : Nat}

theorem pow2_52 : pow2 52 = 4503599627370496 :=
  rfl

/-- The sign, the exponent field and the fraction do not overlap. -/
theorem toNat_assemble (he : e < 2048) (hf : f < pow2 52) :
    (assemble negative e f).bits.toNat
      = (if negative then 9223372036854775808 else 0) + e * 4503599627370496 + f := by
  have hsign : pow2 63 = 9223372036854775808 := rfl
  rw [pow2_52] at hf
  rw [assemble, UInt64.toNat_ofNat', hsign, pow2_52, Nat.mod_eq_of_lt]
  split <;> omega

theorem exponentField_assemble (he : e < 2048) (hf : f < pow2 52) :
    (assemble negative e f).exponentField = e := by
  rw [exponentField, toNat_assemble he hf, pow2_52]
  rw [pow2_52] at hf
  split <;> omega

theorem fraction_assemble (he : e < 2048) (hf : f < pow2 52) :
    (assemble negative e f).fraction = f := by
  rw [fraction, toNat_assemble he hf, pow2_52]
  rw [pow2_52] at hf
  split <;> omega

/-- With a smaller exponent field a number is finite. -/
theorem finite_assemble (negative : Bool) (he : e < 2047) (hf : f < pow2 52) :
    (assemble negative e f).isNaN = false ∧ (assemble negative e f).isInfinite = false := by
  have hfield : (assemble negative e f).exponentField = e :=
    exponentField_assemble (by omega) hf
  have hne : (e == 2047) = false := beq_eq_false_iff_ne.mpr (by omega)
  rw [isNaN, isInfinite, hfield, hne]
  exact ⟨rfl, rfl⟩

theorem infinite_infinity (negative : Bool) :
    (infinity negative).isNaN = false ∧ (infinity negative).isInfinite = true := by
  have hfield : (infinity negative).exponentField = 2047 :=
    exponentField_assemble (by omega) (pow2_pos 52)
  have hfraction : (infinity negative).fraction = 0 :=
    fraction_assemble (by omega) (pow2_pos 52)
  rw [isNaN, isInfinite, hfield, hfraction]
  exact ⟨rfl, rfl⟩

end Fields

/-! ## The number nearest to a fraction -/

/-- The number `m · 2^q`, or infinity if there is none so large. -/
def ofScaled (negative : Bool) (m : Nat) (q : Int) : Binary64 :=
  -- rounding up may have needed one bit more
  let (m, q) := if m = pow2 53 then (pow2 52, q + 1) else (m, q)
  if m < pow2 52 then assemble negative 0 m
  else if 971 < q then infinity negative
  else assemble negative (q + 1075).toNat (m - pow2 52)

/-- The multiple of `2^q` nearest to a fraction. -/
def nearest (num den : Nat) (q : Int) : Nat :=
  roundHalfEven (num * pow2 (-q).toNat) (den * pow2 q.toNat)

/-- A fraction is rounded at its scale. -/
theorem ofRatio_eq_ofScaled {negative : Bool} {num den : Nat} (hnum : 0 < num) (hden : 0 < den) :
    ofRatio negative num den
      = ofScaled negative (nearest num den (scaleOf num den)) (scaleOf num den) := by
  have hpositive : ¬ (num = 0 ∨ den = 0) := by omega
  unfold ofRatio nearest
  rw [if_neg hpositive]
  dsimp only
  split
  · next h =>
    rw [Int.toNat_of_nonpos (by omega : -(scaleOf num den) ≤ 0), pow2_zero, Nat.mul_one]
    rfl
  · next h =>
    rw [Int.toNat_of_nonpos (by omega : scaleOf num den ≤ 0), pow2_zero, Nat.mul_one]
    rfl

theorem nearest_le {num den : Nat} (hden : 0 < den) {q : Int}
    (h : (num : ℚ) / den < 2 ^ (q + 53)) : nearest num den q ≤ pow2 53 := by
  refine roundHalfEven_le (Nat.mul_pos hden (pow2_pos _)) ((scaled_lt_iff hden _ q).mpr ?_)
  rwa [cast_pow2, ← zpow_natCast, ← zpow_add₀ two_ne_zero, add_comm]

theorem le_nearest {num den : Nat} (hden : 0 < den) {q : Int}
    (h : (2 : ℚ) ^ (q + 52) ≤ num / den) : pow2 52 ≤ nearest num den q := by
  refine le_roundHalfEven (Nat.mul_pos hden (pow2_pos _)) (Nat.le_of_not_lt fun hlt => ?_)
  have hbelow := (scaled_lt_iff hden _ q).mp hlt
  rw [cast_pow2, ← zpow_natCast, ← zpow_add₀ two_ne_zero, add_comm] at hbelow
  exact absurd h (not_le.mpr hbelow)

/-- Infinity is made of the numbers from `2^1024` on, and of nothing else. -/
theorem ofScaled_spec (negative : Bool) {m : Nat} {q : Int} (hm : m ≤ pow2 53) (hq : -1074 ≤ q)
    (hfull : q = -1074 ∨ pow2 52 ≤ m) :
    (ofScaled negative m q).isNaN = false
      ∧ ((ofScaled negative m q).isInfinite = true ↔ 971 < q ∨ q = 971 ∧ m = pow2 53) := by
  have h53 : pow2 53 = 2 * pow2 52 := rfl
  have hpos : 0 < pow2 52 := pow2_pos 52
  unfold ofScaled
  by_cases hcarry : m = pow2 53
  · rw [if_pos hcarry]
    dsimp only
    rw [if_neg (Nat.lt_irrefl _), Nat.sub_self]
    by_cases hlarge : 971 < q + 1
    · rw [if_pos hlarge, (infinite_infinity negative).1, (infinite_infinity negative).2]
      exact ⟨rfl, iff_of_true rfl (by omega)⟩
    · have hfinite := finite_assemble negative (by omega : (q + 1 + 1075).toNat < 2047) hpos
      rw [if_neg hlarge, hfinite.1, hfinite.2]
      exact ⟨rfl, iff_of_false Bool.false_ne_true (by omega)⟩
  · rw [if_neg hcarry]
    dsimp only
    by_cases hsmall : m < pow2 52
    · have hfinite := finite_assemble negative (by omega : 0 < 2047) hsmall
      rw [if_pos hsmall, hfinite.1, hfinite.2]
      exact ⟨rfl, iff_of_false Bool.false_ne_true (by omega)⟩
    · rw [if_neg hsmall]
      by_cases hlarge : 971 < q
      · rw [if_pos hlarge, (infinite_infinity negative).1, (infinite_infinity negative).2]
        exact ⟨rfl, iff_of_true rfl (by omega)⟩
      · have hfinite := finite_assemble negative (by omega : (q + 1075).toNat < 2047)
          (by omega : m - pow2 52 < pow2 52)
        rw [if_neg hlarge, hfinite.1, hfinite.2]
        exact ⟨rfl, iff_of_false Bool.false_ne_true (by omega)⟩

/-- The middle between the largest number there is and the power of two that comes next. -/
def limit : Nat :=
  (pow2 54 - 1) * pow2 970

theorem cast_limit : (limit : ℚ) = (2 ^ 54 - 1) * 2 ^ (970 : Int) := by
  rw [limit, Nat.cast_mul, Nat.cast_pred (pow2_pos 54), cast_pow2, cast_pow2]
  rfl

theorem pow1023_le_limit : (2 : ℚ) ^ (1023 : Int) ≤ limit := by
  rw [cast_limit, show (1023 : Int) = 53 + 970 by rfl, zpow_add₀ two_ne_zero]
  exact mul_le_mul_of_nonneg_right (by norm_num) (by positivity)

theorem limit_le_pow1024 : (limit : ℚ) ≤ 2 ^ (1024 : Int) := by
  rw [cast_limit, show (1024 : Int) = 54 + 970 by rfl, zpow_add₀ two_ne_zero]
  exact mul_le_mul_of_nonneg_right (by norm_num) (by positivity)

/-- At the largest scale there is, the limit is the middle below `2^53`. -/
theorem nearest_eq_iff {num den : Nat} (hden : 0 < den) (hle : nearest num den 971 ≤ pow2 53) :
    nearest num den 971 = pow2 53 ↔ limit * den ≤ num := by
  have hpos : 0 < pow2 53 := pow2_pos 53
  have hsteps : 2 * (pow2 53 - 1) + 1 = pow2 54 - 1 := rfl
  have hscale : 0 < den * pow2 971 := Nat.mul_pos hden (pow2_pos 971)
  calc nearest num den 971 = pow2 53 ↔ pow2 53 - 1 < nearest num den 971 := by omega
    _ ↔ (2 * (pow2 53 - 1) + 1) * (den * pow2 971) ≤ 2 * (num * 1) :=
      odd_lt_roundHalfEven_iff hscale (by decide)
    _ ↔ 2 * (limit * den) ≤ 2 * num := by
      rw [hsteps, pow2_succ 970, limit, Nat.mul_one]
      ring_nf
    _ ↔ limit * den ≤ num := by omega

/-- **From the limit on fractions are rounded to infinity**, and none to what is not a number. -/
theorem ofRatio_spec (negative : Bool) {num den : Nat} (hden : 0 < den) :
    (ofRatio negative num den).isNaN = false
      ∧ ((ofRatio negative num den).isInfinite = true ↔ limit * den ≤ num) := by
  rcases Nat.eq_zero_or_pos num with rfl | hnum
  · have hlimit : 0 < limit * den :=
      Nat.mul_pos (Nat.mul_pos (by decide) (pow2_pos 970)) hden
    have hfinite := finite_assemble negative (by omega : 0 < 2047) (pow2_pos 52)
    rw [ofRatio, if_pos (Or.inl rfl), hfinite.1, hfinite.2]
    exact ⟨rfl, iff_of_false Bool.false_ne_true (Nat.not_le.mpr hlimit)⟩
  obtain ⟨hleast, hhigh, hlow⟩ := scaleOf_spec hnum hden
  rw [ofRatio_eq_ofScaled hnum hden]
  generalize scaleOf num den = q at *
  obtain ⟨hnumber, hinfinite⟩ :=
    ofScaled_spec negative (nearest_le hden hhigh) hleast
      (hlow.imp_right (le_nearest hden))
  refine ⟨hnumber, hinfinite.trans ?_⟩
  have hlimit : limit * den ≤ num ↔ (limit : ℚ) ≤ num / den := by
    rw [le_div_iff₀ (Nat.cast_pos.mpr hden)]
    norm_cast
  -- at the largest scale it depends on the rounding, at any other on the scale alone
  rcases lt_trichotomy q 971 with hlt | rfl | hgt
  · refine iff_of_false (by omega) fun h => ?_
    have hpow : (2 : ℚ) ^ (q + 53) ≤ 2 ^ (1023 : Int) :=
      zpow_le_zpow_right₀ one_le_two (by omega)
    exact absurd (hlimit.mp h) (not_le.mpr (hhigh.trans_le (hpow.trans pow1023_le_limit)))
  · rw [← nearest_eq_iff hden (nearest_le hden hhigh)]
    omega
  · refine iff_of_true (Or.inl hgt) (hlimit.mpr (limit_le_pow1024.trans ?_))
    rcases hlow with h | h
    · omega
    · exact le_trans (zpow_le_zpow_right₀ one_le_two (by omega)) h

/-! ## Decimals -/

/-- A decimal is a fraction with a power of ten above or below the line. -/
theorem ofDecimal_eq_ofRatio (negative : Bool) (mantissa : Nat) (exponent : Int) :
    ofDecimal negative mantissa exponent
      = ofRatio negative (mantissa * pow10 exponent.toNat) (pow10 (-exponent).toNat) := by
  unfold ofDecimal
  split
  · next h => rw [Int.toNat_of_nonpos (by omega : -exponent ≤ 0), pow10_zero]
  · next h => rw [Int.toNat_of_nonpos (by omega : exponent ≤ 0), pow10_zero, Nat.mul_one]

/-- Every decimal has a number. -/
theorem isNaN_ofDecimal (negative : Bool) (mantissa : Nat) (exponent : Int) :
    (ofDecimal negative mantissa exponent).isNaN = false := by
  rw [ofDecimal_eq_ofRatio]
  exact (ofRatio_spec negative (pow10_pos _)).1

/-- **The decimals that are read as an infinity are those from the limit on.** -/
theorem isInfinite_ofDecimal_iff (negative : Bool) (mantissa : Nat) (exponent : Int) :
    (ofDecimal negative mantissa exponent).isInfinite = true
      ↔ limit * pow10 (-exponent).toNat ≤ mantissa * pow10 exponent.toNat := by
  rw [ofDecimal_eq_ofRatio]
  exact (ofRatio_spec negative (pow10_pos _)).2

end Binary64

end WebRouter.Number
