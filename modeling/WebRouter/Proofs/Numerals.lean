import Mathlib.Data.List.Induction
import Mathlib.Data.Nat.Digits.Defs
import WebRouter.Number.Shortest
import WebRouter.Proofs.ScalarRoundTrip

/-!
# Numerals

A numeral is ASCII digits, at least one of them; `numberOf` is the number that it denotes, and
reading its digits from the front comes to the same (`ofDigits_eq_numberOf`). The digits of a
number other than zero do not begin with a zero (`digitsReversed_eq_concat`), and neither do
they once the zeros at their end are taken off (`Decimal.significant_eq_cons`). The number that a
numeral denotes is not written with more digits than the numeral has (`length_natText_numberOf`).
-/

namespace WebRouter.Number

/-- At least one ASCII digit, and nothing else. -/
def IsNumeral (text : List Char) : Prop :=
  text ≠ [] ∧ ∀ c ∈ text, isDigit c = true

/-- A sign, or none. -/
def IsSign (text : List Char) : Prop :=
  text = [] ∨ text = ['-'] ∨ text = ['+']

/-- The number that decimal digits denote, the last digit counting ones. -/
def numberOf (text : List Char) : Nat :=
  Nat.ofDigits 10 (text.reverse.map fun c => c.toNat - 48)

/-- Digits are read from the front. -/
theorem ofDigits_eq_numberOf (text : List Char) : ofDigits text = numberOf text := by
  -- by the last digit, which is the first one to count
  unfold numberOf
  induction text using List.reverseRecOn with
  | nil => rfl
  | append_singleton text c ih =>
    rw [List.reverse_append, List.reverse_singleton, List.singleton_append, List.map_cons,
      Nat.ofDigits_cons, ← ih, ofDigits, List.foldl_append, ← ofDigits]
    show 10 * ofDigits text + (c.toNat - 48) = c.toNat - 48 + 10 * ofDigits text
    omega

theorem isNumeral_natText (n : Nat) : IsNumeral (natText n) :=
  ⟨natText_ne_nil n, fun _ => isDigit_of_mem_natText⟩

/-! ## Leading digits -/

/-- The digits of a number are below ten. -/
theorem lt_of_mem_digitsReversed {n d : Nat} (h : d ∈ digitsReversed n) : d < 10 := by
  induction n using Nat.strongRecOn with
  | ind n ih =>
    rw [digitsReversed] at h
    split at h
    · next hn => rwa [List.mem_singleton.mp h]
    · rcases List.mem_cons.mp h with rfl | hrest
      · exact Nat.mod_lt n (by decide)
      · exact ih (n / 10) (by omega) hrest

/-- The leading digit of a number other than zero is not zero. -/
theorem digitsReversed_eq_concat {n : Nat} (h : n ≠ 0) :
    ∃ rest lead, digitsReversed n = rest ++ [lead] ∧ lead ≠ 0 := by
  induction n using Nat.strongRecOn with
  | ind n ih =>
    rw [digitsReversed]
    split
    · exact ⟨[], n, rfl, h⟩
    · obtain ⟨rest, lead, hfront, hlead⟩ := ih (n / 10) (by omega) (by omega)
      exact ⟨n % 10 :: rest, lead, by rw [hfront]; rfl, hlead⟩

/-- Digits that begin as the numeral of a number does. -/
theorem Decimal.significant_eq_cons {d : Decimal} (h : d.digits ≠ 0) :
    ∃ lead rest, d.significant = lead :: rest ∧ lead ≠ 0 := by
  obtain ⟨rest, lead, hdigits, hlead⟩ := digitsReversed_eq_concat h
  have hkept : (lead == 0) = false := beq_eq_false_iff_ne.mpr hlead
  -- the zeros are taken off at the other end
  have hdrop : (rest ++ [lead]).dropWhile (· == 0) = rest.dropWhile (· == 0) ++ [lead] := by
    rw [List.dropWhile_append]
    split
    · next hempty =>
      rw [List.isEmpty_iff.mp hempty, List.dropWhile_cons_of_neg (by simp [hlead])]
      rfl
    · rfl
  refine ⟨lead, (rest.dropWhile (· == 0)).reverse, ?_, hlead⟩
  rw [significant, hdigits, hdrop, List.reverse_append]
  rfl

theorem Decimal.lt_of_mem_significant {d : Decimal} {n : Nat} (h : n ∈ d.significant) : n < 10 :=
  lt_of_mem_digitsReversed ((List.dropWhile_sublist _).mem (List.mem_reverse.mp h))

theorem digitChar_ne_zero : ∀ {d : Nat}, d < 10 → d ≠ 0 → digitChar d ≠ '0' := by
  decide

/-! ## The length of a numeral -/

theorem length_natText_le {k : Nat} :
    ∀ {n : Nat}, n < pow10 (k + 1) → (natText n).length ≤ k + 1 := by
  induction k with
  | zero =>
    intro n h
    rw [natText_of_lt h]
    exact Nat.le_refl 1
  | succ k ih =>
    intro n h
    -- the last digit comes off, and with it a power of ten
    by_cases hn : n < 10
    · rw [natText_of_lt hn]
      exact Nat.le_add_left 1 (k + 1)
    · have hfront : n / 10 < pow10 (k + 1) := by
        rw [pow10_succ] at h
        omega
      rw [natText_of_le (Nat.not_lt.mp hn), List.length_append]
      exact Nat.add_le_add_right (ih hfront) 1

theorem ofDigits_lt {text : List Char} (h : ∀ c ∈ text, isDigit c = true) :
    ofDigits text < pow10 text.length := by
  -- by the last digit, which is the lowest
  induction text using List.reverseRecOn with
  | nil => exact Nat.one_pos
  | append_singleton text c ih =>
    have hc : isDigit c = true := h c (List.mem_append_right _ (List.mem_singleton.mpr rfl))
    have hfront := ih fun d hd => h d (List.mem_append_left _ hd)
    rw [isDigit, Bool.and_eq_true, decide_eq_true_eq, decide_eq_true_eq] at hc
    rw [ofDigits_append_singleton, List.length_append, List.length_singleton, pow10_succ]
    omega

/-- A number has no more digits than the numeral that it was read from. -/
theorem length_natText_numberOf {text : List Char} (h : IsNumeral text) :
    (natText (numberOf text)).length ≤ text.length := by
  obtain ⟨c, rest, htext⟩ := List.exists_cons_of_ne_nil h.1
  have hlength : text.length = rest.length + 1 := by rw [htext, List.length_cons]
  have hbound := ofDigits_lt h.2
  rw [hlength] at hbound ⊢
  rw [← ofDigits_eq_numberOf]
  exact length_natText_le hbound

end WebRouter.Number
