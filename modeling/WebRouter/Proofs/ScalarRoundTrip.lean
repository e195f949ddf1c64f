import WebRouter.Query.Write

/-!
# Written values read as themselves

A natural number is read from its own numeral (`ofDigits_natText`), a text from
between its quotes, and a truth value from its word. What is left to see is that
no rule asked earlier takes it for something else: a numeral does not begin with
a quote, and no digit stands in the words for the truth values.

> `ofText_write`: a value that can be written is read from what is written.

`Writable` leaves out what cannot: a number is written with all its digits, and
more than `maxDigits` of them are not read as a number.
-/

namespace WebRouter

namespace Number

theorem toNat_digitChar {d : Nat} (h : d < 10) : (digitChar d).toNat = 48 + d :=
  Text.toNat_ofNat (by omega)

theorem isDigit_digitChar {d : Nat} (h : d < 10) : isDigit (digitChar d) = true := by
  rw [isDigit, toNat_digitChar h, Bool.and_eq_true, decide_eq_true_eq, decide_eq_true_eq]
  omega

/-- A numeral is the numeral of the number without its last digit, and that digit. -/
theorem natText_of_le {n : Nat} (h : 10 ≤ n) :
    natText n = natText (n / 10) ++ [digitChar (n % 10)] := by
  rw [natText, digits, digitsReversed, dif_neg (Nat.not_lt.mpr h), List.reverse_cons,
    List.map_append]
  rfl

theorem natText_of_lt {n : Nat} (h : n < 10) : natText n = [digitChar n] := by
  rw [natText, digits, digitsReversed, dif_pos h]
  rfl

theorem natText_ne_nil (n : Nat) : natText n ≠ [] := by
  by_cases h : n < 10
  · rw [natText_of_lt h]
    exact List.cons_ne_nil _ _
  · rw [natText_of_le (Nat.not_lt.mp h)]
    exact List.append_ne_nil_of_right_ne_nil _ (List.cons_ne_nil _ _)

/-- A numeral is made of digits. -/
theorem isDigit_of_mem_natText {n : Nat} {c : Char} (hc : c ∈ natText n) : isDigit c = true := by
  induction n using Nat.strongRecOn with
  | ind n ih =>
    by_cases h : n < 10
    · rw [natText_of_lt h] at hc
      rw [List.mem_singleton.mp hc]
      exact isDigit_digitChar h
    · rw [natText_of_le (Nat.not_lt.mp h)] at hc
      rcases List.mem_append.mp hc with hfront | hlast
      · exact ih (n / 10) (by omega) hfront
      · rw [List.mem_singleton.mp hlast]
        exact isDigit_digitChar (by omega)

theorem ofDigits_append_singleton (text : List Char) (c : Char) :
    ofDigits (text ++ [c]) = 10 * ofDigits text + (c.toNat - 48) := by
  rw [ofDigits, List.foldl_append]
  rfl

/-- **A number is read from its numeral.** -/
theorem ofDigits_natText (n : Nat) : ofDigits (natText n) = n := by
  induction n using Nat.strongRecOn with
  | ind n ih =>
    by_cases h : n < 10
    · rw [natText_of_lt h]
      show 10 * 0 + ((digitChar n).toNat - 48) = n
      rw [toNat_digitChar h]
      omega
    · rw [natText_of_le (Nat.not_lt.mp h), ofDigits_append_singleton, ih (n / 10) (by omega),
        toNat_digitChar (by omega)]
      omega

end Number

namespace Query.Scalar

open Number (natText isDigit)

/-- The values that can be written: texts, truth values and numbers whose numeral
is not too long. -/
def Writable : Scalar → Prop
  | bool _ => True
  | int n => (natText n).length ≤ Number.maxDigits
  | float _ => False
  | str _ => True

instance : (value : Scalar) → Decidable value.Writable
  | bool _ => isTrue trivial
  | int n => inferInstanceAs (Decidable ((natText n).length ≤ Number.maxDigits))
  | float _ => isFalse id
  | str _ => isTrue trivial

theorem quoted?_of_digit {c : Char} (h : isDigit c = true) (rest : List Char) :
    quoted? (c :: rest) = none := by
  have hquote : ¬ (c = '\x27' ∨ c = '\x22') := by
    rintro (rfl | rfl) <;> exact absurd h (by decide)
  rw [quoted?, if_neg (fun hboth => hquote hboth.1)]

theorem bool?_of_digit {c : Char} (h : isDigit c = true) (rest : List Char) :
    bool? (c :: rest) = none := by
  have htrue : c :: rest ≠ "true".toList := by
    intro he
    have hc : c = 't' := (List.cons.inj he).1
    rw [hc] at h
    exact absurd h (by decide)
  have hfalse : c :: rest ≠ "false".toList := by
    intro he
    have hc : c = 'f' := (List.cons.inj he).1
    rw [hc] at h
    exact absurd h (by decide)
  rw [bool?, if_neg htrue, if_neg hfalse]

/-- Between two quotes stands a text. -/
theorem coerceBy_quoted (text : List Char) :
    coerceBy rules ('\x27' :: text ++ ['\x27']) = str (String.ofList text) := by
  have hquoted : quoted? ('\x27' :: text ++ ['\x27']) = some (str (String.ofList text)) := by
    rw [List.cons_append, quoted?, if_pos ⟨Or.inl rfl, List.getLast?_concat⟩, List.dropLast_concat]
  rw [coerceBy, rules, List.findSome?_cons, hquoted]
  rfl

/-- A numeral that is not too long stands for its number. -/
theorem coerceBy_natText {n : Nat} (h : (natText n).length ≤ Number.maxDigits) :
    coerceBy rules (natText n) = int n := by
  have hall : (natText n).all isDigit = true :=
    List.all_eq_true.mpr fun c hc => Number.isDigit_of_mem_natText hc
  have hint : int? (natText n) = some (int n) := by
    rw [int?, if_pos ⟨Number.natText_ne_nil n, hall, h⟩, Number.ofDigits_natText]
  -- the rules before the one for numbers are ruled out by the first digit
  obtain ⟨c, rest, hcons⟩ := List.exists_cons_of_ne_nil (Number.natText_ne_nil n)
  have hc : isDigit c = true :=
    Number.isDigit_of_mem_natText (n := n) (hcons ▸ List.mem_cons_self)
  rw [coerceBy, rules, List.findSome?_cons, hcons, quoted?_of_digit hc, List.findSome?_cons,
    bool?_of_digit hc, List.findSome?_cons, ← hcons, hint]
  rfl

/-- **A written value reads as itself.** -/
theorem ofText_write {value : Scalar} (h : value.Writable) :
    ofText (String.ofList value.write) = value := by
  rw [ofText, String.toList_ofList]
  cases value with
  | bool b => cases b <;> rfl
  | int n => exact coerceBy_natText h
  | float x => exact h.elim
  | str s =>
    rw [write, coerceBy_quoted, String.ofList_toList]

end Query.Scalar

end WebRouter
