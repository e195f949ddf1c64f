import WebRouter.Json
import WebRouter.Proofs.Numerals

/-!
# Numbers in JSON

JSON knows numbers as a whole part without leading zeros, digits after a point and an exponent,
of which the last two may be missing (`IsNumber`). Numerals are numbers, and so is the text of
every finite float, however its digits are laid out (`isNumber_floatText`). There is no number
for the others: what is written for them is one of three words (`floatText_mem_words`).
-/

namespace WebRouter.Json

open Number (Binary64 Decimal Interval IsNumeral IsSign decimalText digitChar digitsReversed
  exponentText floatText intText intervalOf isDigit leadingExponent natText shortest)

/-- Digits of which the first is zero only if it is the only one. -/
inductive IsWhole : List Char → Prop
  | zero : IsWhole ['0']
  | digits {c : Char} {rest : List Char} (hdigit : isDigit c = true) (hlead : c ≠ '0')
      (hrest : ∀ d ∈ rest, isDigit d = true) : IsWhole (c :: rest)

/-- A point and digits, or nothing. -/
inductive IsFraction : List Char → Prop
  | none : IsFraction []
  | places {text : List Char} (h : IsNumeral text) : IsFraction ('.' :: text)

/-- The letter of exponents and a numeral, perhaps with a sign, or nothing. -/
inductive IsExponent : List Char → Prop
  | none : IsExponent []
  | power {letter : Char} {sign text : List Char} (hletter : letter = 'e' ∨ letter = 'E')
      (hsign : IsSign sign) (h : IsNumeral text) : IsExponent (letter :: sign ++ text)

/-- A number without a sign. -/
inductive IsMagnitude : List Char → Prop
  | parts {whole fraction exponent : List Char} (hwhole : IsWhole whole)
      (hfraction : IsFraction fraction) (hexponent : IsExponent exponent) :
      IsMagnitude (whole ++ fraction ++ exponent)

/-- A number, perhaps with a minus. -/
inductive IsNumber : List Char → Prop
  | unsigned {text : List Char} (h : IsMagnitude text) : IsNumber text
  | negative {text : List Char} (h : IsMagnitude text) : IsNumber ('-' :: text)

/-- What stands in a number. -/
def IsNumberChar (c : Char) : Prop :=
  isDigit c = true ∨ c ∈ ['.', '-', '+', 'e', 'E']

section Characters

variable {text : List Char} {c : Char}

theorem IsWhole.isNumberChar (h : IsWhole text) (hc : c ∈ text) : IsNumberChar c := by
  cases h with
  | zero =>
    rw [List.mem_singleton.mp hc]
    exact Or.inl (by decide)
  | digits hdigit hlead hrest =>
    rcases List.mem_cons.mp hc with rfl | hc
    · exact Or.inl hdigit
    · exact Or.inl (hrest c hc)

theorem IsFraction.isNumberChar (h : IsFraction text) (hc : c ∈ text) : IsNumberChar c := by
  cases h with
  | none => cases hc
  | places hplaces =>
    rcases List.mem_cons.mp hc with rfl | hc
    · exact Or.inr (by decide)
    · exact Or.inl (hplaces.2 c hc)

theorem IsExponent.isNumberChar (h : IsExponent text) (hc : c ∈ text) : IsNumberChar c := by
  cases h with
  | none => cases hc
  | power hletter hsign hdigits =>
    rcases List.mem_append.mp hc with hc | hc
    · rcases List.mem_cons.mp hc with rfl | hc
      · rcases hletter with rfl | rfl <;> exact Or.inr (by decide)
      · rcases hsign with rfl | rfl | rfl
        · cases hc
        · rw [List.mem_singleton.mp hc]
          exact Or.inr (by decide)
        · rw [List.mem_singleton.mp hc]
          exact Or.inr (by decide)
    · exact Or.inl (hdigits.2 c hc)

theorem IsNumber.isNumberChar (h : IsNumber text) (hc : c ∈ text) : IsNumberChar c := by
  have hmagnitude : ∀ {text : List Char}, IsMagnitude text → c ∈ text → IsNumberChar c := by
    intro text hparts hc
    cases hparts with
    | parts hwhole hfraction hexponent =>
      rcases List.mem_append.mp hc with hc | hc
      · rcases List.mem_append.mp hc with hc | hc
        · exact hwhole.isNumberChar hc
        · exact hfraction.isNumberChar hc
      · exact hexponent.isNumberChar hc
  cases h with
  | unsigned h => exact hmagnitude h hc
  | negative h =>
    rcases List.mem_cons.mp hc with rfl | hc
    · exact Or.inr (by decide)
    · exact hmagnitude h hc

end Characters

/-! ## Numerals -/

theorem isWhole_natText (n : Nat) : IsWhole (natText n) := by
  by_cases h : n = 0
  · rw [h, Number.natText_of_lt (by decide)]
    exact .zero
  · obtain ⟨rest, lead, hdigits, hlead⟩ := Number.digitsReversed_eq_concat h
    have hsmall : ∀ d ∈ lead :: rest.reverse, d < 10 := fun d hd =>
      Number.lt_of_mem_digitsReversed (n := n) (by rw [hdigits]; simpa [or_comm] using hd)
    rw [natText, Number.digits, hdigits, List.reverse_append]
    refine .digits (Number.isDigit_digitChar (hsmall lead List.mem_cons_self))
      (Number.digitChar_ne_zero (hsmall lead List.mem_cons_self) hlead) fun c hc => ?_
    obtain ⟨d, hd, rfl⟩ := List.mem_map.mp hc
    exact Number.isDigit_digitChar (hsmall d (List.mem_cons_of_mem _ hd))

/-- The numeral of an integer is a number. -/
theorem isNumber_intText (i : Int) : IsNumber (intText i) := by
  have hmagnitude : IsMagnitude (natText i.natAbs) := by
    have hparts := IsMagnitude.parts (isWhole_natText i.natAbs) .none .none
    rwa [List.append_nil, List.append_nil] at hparts
  unfold intText
  split
  · exact .negative hmagnitude
  · exact .unsigned hmagnitude

/-! ## Floats -/

theorem isExponent_exponentText (e : Int) : IsExponent ('e' :: exponentText e) := by
  have hpower : ∀ {sign : Char} {text : List Char}, sign = '-' ∨ sign = '+' → IsNumeral text →
      IsExponent ('e' :: sign :: text) := fun hsign htext =>
    .power (Or.inl rfl) (Or.inr (hsign.imp (congrArg ([·])) (congrArg ([·])))) htext
  obtain ⟨hne, hall⟩ := Number.isNumeral_natText e.natAbs
  refine hpower ?_ ?_
  · split
    · exact Or.inl rfl
    · exact Or.inr rfl
  · split
    · exact ⟨List.cons_ne_nil _ _, List.forall_mem_cons.mpr ⟨by decide, hall⟩⟩
    · exact ⟨hne, hall⟩

theorem isNumeral_zero : IsNumeral ['0'] :=
  ⟨List.cons_ne_nil _ _, List.forall_mem_singleton.mpr (by decide)⟩

/-- The layouts of digits that do not begin with a zero are numbers. -/
theorem isMagnitude_decimalText {lead : Nat} {rest : List Nat} (hlead : lead ≠ 0)
    (hsmall : ∀ d ∈ lead :: rest, d < 10) (point : Int) :
    IsMagnitude (decimalText (lead :: rest) point) := by
  have hdigit : isDigit (digitChar lead) = true :=
    Number.isDigit_digitChar (hsmall lead List.mem_cons_self)
  have hzero : digitChar lead ≠ '0' :=
    Number.digitChar_ne_zero (hsmall lead List.mem_cons_self) hlead
  have hrest : ∀ c ∈ rest.map digitChar, isDigit c = true := by
    intro c hc
    obtain ⟨d, hd, rfl⟩ := List.mem_map.mp hc
    exact Number.isDigit_digitChar (hsmall d (List.mem_cons_of_mem _ hd))
  unfold decimalText
  rw [List.map_cons]
  generalize digitChar lead = c at hdigit hzero
  generalize rest.map digitChar = more at hrest
  have hall : ∀ d ∈ c :: more, isDigit d = true := List.forall_mem_cons.mpr ⟨hdigit, hrest⟩
  have hzeros : ∀ n : Nat, ∀ d ∈ List.replicate n '0', isDigit d = true := by
    intro n d hd
    rw [List.eq_of_mem_replicate hd]
    decide
  dsimp only
  split
  · -- one digit before the point, the others behind it, and an exponent
    have hone : IsWhole [c] := .digits hdigit hzero (List.forall_mem_nil _)
    cases more with
    | nil => exact .parts hone .none (isExponent_exponentText _)
    | cons d more =>
      exact .parts hone (.places ⟨List.cons_ne_nil _ _, hrest⟩) (isExponent_exponentText _)
  split
  · -- zeros behind the point, then the digits
    have hplaces : IsNumeral (List.replicate (-point).toNat '0' ++ c :: more) :=
      ⟨List.append_ne_nil_of_right_ne_nil _ (List.cons_ne_nil _ _),
        List.forall_mem_append.mpr ⟨hzeros _, hall⟩⟩
    have hparts := IsMagnitude.parts .zero (.places hplaces) .none
    rwa [List.append_nil] at hparts
  · -- as many digits before the point as it says, zeros where there are none
    obtain ⟨whole, hwhole⟩ : ∃ whole, point.toNat = whole + 1 := ⟨point.toNat - 1, by omega⟩
    have hpadded : ∀ d ∈ more ++ List.replicate (whole + 1 - (c :: more).length) '0',
        isDigit d = true := List.forall_mem_append.mpr ⟨hrest, hzeros _⟩
    rw [hwhole, List.cons_append, List.take_succ_cons, List.drop_succ_cons]
    generalize more ++ List.replicate (whole + 1 - (c :: more).length) '0' = padded at hpadded
    have hfront : IsWhole (c :: padded.take whole) :=
      .digits hdigit hzero fun d hd => hpadded d (List.mem_of_mem_take hd)
    have hplaces :
        IsNumeral (if (padded.drop whole).isEmpty then ['0'] else padded.drop whole) := by
      split
      · exact isNumeral_zero
      · next hempty =>
        exact ⟨fun h => hempty (List.isEmpty_iff.mpr h),
          fun d hd => hpadded d (List.mem_of_mem_drop hd)⟩
    have hparts := IsMagnitude.parts hfront (.places hplaces) .none
    rwa [List.append_nil] at hparts

/-- No grid offers zero as the point next to a positive number. -/
theorem pointOn?_ne_zero {i : Interval} {exponent : Int} {d : Nat}
    (h : i.pointOn? exponent = some d) : d ≠ 0 := by
  unfold Interval.pointOn? at h
  dsimp only at h
  -- the point below is offered only if it is not zero, and the point above never is
  generalize i.value * _ / _ = lower at h
  have hupper : lower + 1 ≠ 0 := Nat.succ_ne_zero lower
  grind

/-- If no grid has a point to offer, the decimal is zero. -/
theorem shortestFrom_cases (i : Interval) (lead : Int) (count fuel : Nat) :
    (i.shortestFrom lead count fuel).digits ≠ 0 ∨ i.shortestFrom lead count fuel = ⟨0, 0⟩ := by
  induction fuel generalizing count with
  | zero => exact Or.inr rfl
  | succ fuel ih =>
    rw [Interval.shortestFrom]
    split
    · next d hpoint => exact Or.inl (pointOn?_ne_zero hpoint)
    · exact ih (count + 1)

theorem isMagnitude_zero : IsMagnitude ['0', '.', '0'] :=
  .parts .zero (.places isNumeral_zero) .none

/-- The shortest decimal of a float is a number in any layout. -/
theorem isMagnitude_shortest (x : Binary64) :
    IsMagnitude (decimalText (shortest x).significant (shortest x).point) := by
  unfold shortest
  dsimp only
  rcases shortestFrom_cases (intervalOf x)
    (leadingExponent (intervalOf x).value (intervalOf x).den) 1 17 with h | h
  · obtain ⟨lead, rest, hdigits, hlead⟩ := Decimal.significant_eq_cons h
    have hsmall : ∀ n ∈ lead :: rest, n < 10 := fun n hn =>
      Decimal.lt_of_mem_significant (hdigits.symm ▸ hn)
    rw [hdigits]
    exact isMagnitude_decimalText hlead hsmall _
  · have hzero : digitsReversed 0 = [0] := by rw [digitsReversed, dif_pos (by decide)]
    rw [h, Decimal.significant, Decimal.point, hzero]
    exact isMagnitude_zero

/-- A number, and not an infinite one. -/
def IsFinite (x : Binary64) : Prop :=
  x.isNaN = false ∧ x.isInfinite = false

/-- **The text of a finite float is a number.** -/
theorem isNumber_floatText {x : Binary64} (h : IsFinite x) :
    IsNumber (floatText floats x).toList := by
  obtain ⟨hnumber, hfinite⟩ := h
  have hmagnitude : IsMagnitude (if x.isZero then ['0', '.', '0'] else
      decimalText (shortest x).significant (shortest x).point) := by
    split
    · exact isMagnitude_zero
    · exact isMagnitude_shortest x
  unfold floatText
  rw [hnumber, hfinite]
  rw [if_neg Bool.false_ne_true, if_neg Bool.false_ne_true, String.toList_ofList]
  split
  · exact .negative hmagnitude
  · exact .unsigned hmagnitude

/-- The text of an infinite float is a word, perhaps with a minus. -/
theorem floatText_of_isInfinite {x : Binary64} (h : x.isInfinite = true) :
    floatText floats x = if x.isNegative then "-Infinity" else "Infinity" := by
  have hnumber : x.isNaN = false := by
    rw [Binary64.isInfinite, Bool.and_eq_true] at h
    rw [Binary64.isNaN, bne, h.2, Bool.not_true, Bool.and_false]
  unfold floatText
  rw [hnumber, h, if_neg Bool.false_ne_true]
  cases x.isNegative with
  | false =>
    show String.ofList "Infinity".toList = "Infinity"
    decide
  | true =>
    show String.ofList ('-' :: "Infinity".toList) = "-Infinity"
    decide

/-- What is written for the floats that are not finite. -/
def words : List (List Char) :=
  ["NaN".toList, "Infinity".toList, "-Infinity".toList]

theorem floatText_mem_words {x : Binary64} (h : ¬ IsFinite x) :
    (floatText floats x).toList ∈ words := by
  cases hnumber : x.isNaN with
  | true =>
    rw [floatText, hnumber, if_pos rfl]
    exact List.mem_cons_self
  | false =>
    have hinfinite : x.isInfinite = true := by
      rw [← Bool.not_eq_false]
      exact fun hfinite => h ⟨hnumber, hfinite⟩
    rw [floatText_of_isInfinite hinfinite]
    cases x.isNegative with
    | false => decide
    | true => decide

end WebRouter.Json
