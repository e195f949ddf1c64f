import Mathlib.Data.List.Basic
import Mathlib.Data.List.TakeWhile
import WebRouter.Proofs.Numerals
import WebRouter.Query.Scalar

/-!
# What the text of a value stands for

Four rules are asked about a text, and each accepts the texts of one shape: text between two
equal quotes, the two words for truth values, a run of digits that is not too long, digits with
a point among them (`Shape.Fits`). Each rule gives every text of its shape a value
(`rule_eq_some_iff`), so none can fail once it has accepted a text.

No text is of two shapes (`Shape.Fits.unique`). Its first character tells what is quoted, what is
a word and what is a number (`leadOf`), and of numbers only decimals have a point. Hence it does
not matter in which order the rules are asked, and

> `ofText_unambiguous`: a text stands for what the one rule that accepts it makes of it, and for
> itself if there is none, in whatever order the rules are asked.
-/

namespace WebRouter.Query.Scalar

open Number (Binary64 IsNumeral IsSign isDigit numberOf)

/-! ## Shapes -/

/-- What the texts that a rule accepts look like. -/
inductive Shape where
  | quoted
  | bool
  | int
  | float

/-- One of the two quotes. -/
def IsQuote (c : Char) : Prop :=
  c = '\x27' ∨ c = '\x22'

/-- The texts of a shape. -/
inductive Shape.Fits : Shape → List Char → Prop
  | quoted {quote : Char} (hquote : IsQuote quote) (inner : List Char) :
      Fits .quoted (quote :: inner ++ [quote])
  | yes : Fits .bool "true".toList
  | no : Fits .bool "false".toList
  | int {text : List Char} (hdigits : IsNumeral text)
      (hlength : text.length ≤ Number.maxDigits) : Fits .int text
  | float {sign whole places : List Char} (hsign : IsSign sign) (hwhole : IsNumeral whole)
      (hplaces : IsNumeral places) : Fits .float (sign ++ whole ++ '.' :: places)

/-- The value of a text of a shape. -/
inductive Shape.Gives : Shape → List Char → Scalar → Prop
  | quoted {quote : Char} (hquote : IsQuote quote) (inner : List Char) :
      Gives .quoted (quote :: inner ++ [quote]) (.str (String.ofList inner))
  | yes : Gives .bool "true".toList (.bool true)
  | no : Gives .bool "false".toList (.bool false)
  | int {text : List Char} (hdigits : IsNumeral text)
      (hlength : text.length ≤ Number.maxDigits) : Gives .int text (.int (numberOf text))
  | float {sign whole places : List Char} (hsign : IsSign sign) (hwhole : IsNumeral whole)
      (hplaces : IsNumeral places) :
      Gives .float (sign ++ whole ++ '.' :: places)
        (.float (Binary64.ofDecimal (sign == ['-']) (numberOf (whole ++ places))
          (-(places.length : Int))))

/-- A text stands for the value that its shape gives it, and for itself if it is of none. -/
inductive Denotes (text : List Char) : Scalar → Prop
  | shaped {shape : Shape} {value : Scalar} (h : shape.Gives text value) : Denotes text value
  | itself (h : ∀ shape : Shape, ¬ shape.Fits text) : Denotes text (.str (String.ofList text))

/-- The texts of a shape are those that it gives a value. -/
theorem Shape.fits_iff {shape : Shape} {text : List Char} :
    shape.Fits text ↔ ∃ value, shape.Gives text value := by
  constructor
  · intro h
    cases h with
    | quoted hquote inner => exact ⟨_, .quoted hquote inner⟩
    | yes => exact ⟨_, .yes⟩
    | no => exact ⟨_, .no⟩
    | int hdigits hlength => exact ⟨_, .int hdigits hlength⟩
    | float hsign hwhole hplaces => exact ⟨_, .float hsign hwhole hplaces⟩
  · rintro ⟨value, h⟩
    cases h with
    | quoted hquote inner => exact .quoted hquote inner
    | yes => exact .yes
    | no => exact .no
    | int hdigits hlength => exact .int hdigits hlength
    | float hsign hwhole hplaces => exact .float hsign hwhole hplaces

/-! ## No text is of two shapes -/

/-- What the first character of a text announces. -/
inductive Lead where
  | quote
  | number
  | word
  deriving DecidableEq

/-- What a first character announces. -/
def leadOf (c : Char) : Lead :=
  if c = '\x27' ∨ c = '\x22' then .quote
  else if isDigit c ∨ c = '-' ∨ c = '+' then .number
  else .word

/-- What a text of a shape begins with. -/
def Shape.lead : Shape → Lead
  | .quoted => .quote
  | .bool => .word
  | .int => .number
  | .float => .number

theorem leadOf_digit {c : Char} (h : isDigit c = true) : leadOf c = .number := by
  have hquote : ¬ (c = '\x27' ∨ c = '\x22') := by
    rintro (rfl | rfl)
    · exact absurd h (by decide)
    · exact absurd h (by decide)
  rw [leadOf, if_neg hquote, if_pos (Or.inl h)]

/-- A text of a shape begins as its shape does. -/
theorem Shape.Fits.leads {shape : Shape} {text : List Char} (h : shape.Fits text) :
    ∃ c rest, text = c :: rest ∧ leadOf c = shape.lead := by
  cases h with
  | quoted hquote inner => exact ⟨_, _, rfl, if_pos hquote⟩
  | yes => exact ⟨'t', _, rfl, rfl⟩
  | no => exact ⟨'f', _, rfl, rfl⟩
  | int hdigits hlength =>
    obtain ⟨c, rest, rfl⟩ := List.exists_cons_of_ne_nil hdigits.1
    exact ⟨c, rest, rfl, leadOf_digit (hdigits.2 c List.mem_cons_self)⟩
  | @float sign whole places hsign hwhole hplaces =>
    obtain ⟨c, rest, rfl⟩ := List.exists_cons_of_ne_nil hwhole.1
    rcases hsign with rfl | rfl | rfl
    · exact ⟨c, _, rfl, leadOf_digit (hwhole.2 c List.mem_cons_self)⟩
    · exact ⟨'-', _, rfl, rfl⟩
    · exact ⟨'+', _, rfl, rfl⟩

/-- There is no point among digits. -/
theorem Shape.not_fits_int_float {text : List Char} (hint : Shape.int.Fits text) :
    ¬ Shape.float.Fits text := by
  intro hfloat
  cases hint with
  | int hdigits hlength =>
    cases hfloat with
    | @float sign whole places hsign hwhole hplaces =>
      have hpoint : '.' ∈ sign ++ whole ++ '.' :: places :=
        List.mem_append_right _ List.mem_cons_self
      exact absurd (hdigits.2 '.' hpoint) (by decide)

/-- **No text is of two shapes.** -/
theorem Shape.Fits.unique {a b : Shape} {text : List Char} (ha : a.Fits text)
    (hb : b.Fits text) : a = b := by
  obtain ⟨c, rest, htext, hleada⟩ := ha.leads
  obtain ⟨d, rest', htext', hleadb⟩ := hb.leads
  have hfirst : c = d := (List.cons.inj (htext.symm.trans htext')).1
  have hlead : a.lead = b.lead := by rw [← hleada, ← hleadb, hfirst]
  -- shapes that begin alike are equal, but for whole numbers and decimals
  cases a <;> cases b <;> try first | rfl | cases hlead
  · exact absurd hb (not_fits_int_float ha)
  · exact absurd ha (not_fits_int_float hb)

/-! ## Each rule gives the texts of its shape their values -/

/-- The rule for a shape. -/
def Shape.rule : Shape → List Char → Option Scalar
  | .quoted => quoted?
  | .bool => bool?
  | .int => int?
  | .float => float?

theorem quoted?_eq_some_iff {text : List Char} {value : Scalar} :
    quoted? text = some value ↔ Shape.quoted.Gives text value := by
  constructor
  · intro h
    unfold quoted? at h
    split at h
    · cases h
    · next quote rest =>
      split at h
      · next hends =>
        obtain ⟨hquote, hlast⟩ := hends
        cases h
        have htext : quote :: rest.dropLast ++ [quote] = quote :: rest := by
          rw [List.cons_append, List.dropLast_append_getLast? quote hlast]
        have hgives := Shape.Gives.quoted hquote rest.dropLast
        rwa [htext] at hgives
      · cases h
  · intro h
    cases h with
    | quoted hquote inner =>
      rw [List.cons_append, quoted?, if_pos ⟨hquote, List.getLast?_concat⟩, List.dropLast_concat]

theorem bool?_eq_some_iff {text : List Char} {value : Scalar} :
    bool? text = some value ↔ Shape.bool.Gives text value := by
  constructor
  · intro h
    unfold bool? at h
    split at h
    · next htext =>
      cases h
      rw [htext]
      exact .yes
    · split at h
      · next htext =>
        cases h
        rw [htext]
        exact .no
      · cases h
  · intro h
    cases h with
    | yes => rfl
    | no => rfl

theorem int?_eq_some_iff {text : List Char} {value : Scalar} :
    int? text = some value ↔ Shape.int.Gives text value := by
  constructor
  · intro h
    unfold int? at h
    split at h
    · next haccepts =>
      obtain ⟨hne, hall, hlength⟩ := haccepts
      cases h
      rw [Number.ofDigits_eq_numberOf]
      exact .int ⟨hne, List.all_eq_true.mp hall⟩ hlength
    · cases h
  · intro h
    cases h with
    | int hdigits hlength =>
      rw [int?, if_pos ⟨hdigits.1, List.all_eq_true.mpr hdigits.2, hlength⟩,
        Number.ofDigits_eq_numberOf]

/-- What `unsigned` takes off is a sign. -/
theorem exists_sign (text : List Char) :
    ∃ sign, IsSign sign ∧ text = sign ++ (unsigned text).2
      ∧ (unsigned text).1 = (sign == ['-']) := by
  unfold unsigned
  split
  · exact ⟨['-'], Or.inr (Or.inl rfl), rfl, rfl⟩
  · exact ⟨['+'], Or.inr (Or.inr rfl), rfl, rfl⟩
  · exact ⟨[], Or.inl rfl, rfl, rfl⟩

/-- A sign comes off what begins with a digit. -/
theorem unsigned_append {sign : List Char} (hsign : IsSign sign) {c : Char}
    (hc : isDigit c = true) (rest : List Char) :
    unsigned (sign ++ c :: rest) = (sign == ['-'], c :: rest) := by
  rcases hsign with rfl | rfl | rfl
  · show unsigned (c :: rest) = (false, c :: rest)
    unfold unsigned
    split
    · next h => cases h; exact absurd hc (by decide)
    · next h => cases h; exact absurd hc (by decide)
    · rfl
  · rfl
  · rfl

theorem float?_eq_some_iff {text : List Char} {value : Scalar} :
    float? text = some value ↔ Shape.float.Gives text value := by
  constructor
  · intro h
    obtain ⟨sign, hsign, htext, hnegative⟩ := exists_sign text
    unfold float? at h
    dsimp only at h
    split at h
    · next places hpoint =>
      split at h
      · next haccepts =>
        obtain ⟨hwhole, hplaces, hall⟩ := haccepts
        cases h
        have hsplit := List.takeWhile_append_dropWhile (p := isDigit) (l := (unsigned text).2)
        rw [hpoint] at hsplit
        have hgives := Shape.Gives.float hsign
          ⟨hwhole, fun c hc => List.mem_takeWhile_imp hc⟩ ⟨hplaces, List.all_eq_true.mp hall⟩
        rw [List.append_assoc, hsplit, ← htext, ← hnegative,
          ← Number.ofDigits_eq_numberOf] at hgives
        exact hgives
      · cases h
    · cases h
  · intro h
    cases h with
    | @float sign whole places hsign hwhole hplaces =>
      obtain ⟨c, rest, rfl⟩ := List.exists_cons_of_ne_nil hwhole.1
      have hunsigned : unsigned (sign ++ (c :: rest) ++ '.' :: places)
          = (sign == ['-'], (c :: rest) ++ '.' :: places) := by
        rw [List.append_assoc]
        exact unsigned_append hsign (hwhole.2 c List.mem_cons_self) _
      have htake : ((c :: rest) ++ '.' :: places).takeWhile isDigit = c :: rest := by
        rw [List.takeWhile_append_of_pos hwhole.2, List.takeWhile_cons_of_neg (by decide),
          List.append_nil]
      have hdrop : ((c :: rest) ++ '.' :: places).dropWhile isDigit = '.' :: places := by
        rw [List.dropWhile_append_of_pos hwhole.2, List.dropWhile_cons_of_neg (by decide)]
      unfold float?
      rw [hunsigned]
      dsimp only
      rw [htake, hdrop]
      show (if c :: rest ≠ [] ∧ places ≠ [] ∧ places.all isDigit = true then some (float _)
        else none) = _
      rw [if_pos ⟨hwhole.1, hplaces.1, List.all_eq_true.mpr hplaces.2⟩,
        Number.ofDigits_eq_numberOf]

/-- **A rule gives the texts of its shape their values**, and accepts no others. -/
theorem Shape.rule_eq_some_iff {shape : Shape} {text : List Char} {value : Scalar} :
    shape.rule text = some value ↔ shape.Gives text value := by
  cases shape with
  | quoted => exact quoted?_eq_some_iff
  | bool => exact bool?_eq_some_iff
  | int => exact int?_eq_some_iff
  | float => exact float?_eq_some_iff

/-- A rule that accepts a text gives it a value. -/
theorem Shape.exists_rule_iff {shape : Shape} {text : List Char} :
    (∃ value, shape.rule text = some value) ↔ shape.Fits text := by
  rw [Shape.fits_iff]
  exact exists_congr fun value => Shape.rule_eq_some_iff

/-! ## The order of the rules -/

/-- The rules are those for the shapes. -/
theorem mem_rules_iff {rule : List Char → Option Scalar} :
    rule ∈ rules ↔ ∃ shape : Shape, rule = shape.rule := by
  simp only [rules, List.mem_cons, List.not_mem_nil, or_false]
  constructor
  · rintro (rfl | rfl | rfl | rfl)
    · exact ⟨.quoted, rfl⟩
    · exact ⟨.bool, rfl⟩
    · exact ⟨.int, rfl⟩
    · exact ⟨.float, rfl⟩
  · rintro ⟨shape, rfl⟩
    cases shape with
    | quoted => exact Or.inl rfl
    | bool => exact Or.inr (Or.inl rfl)
    | int => exact Or.inr (Or.inr (Or.inl rfl))
    | float => exact Or.inr (Or.inr (Or.inr rfl))

section Order

variable {order : List (List Char → Option Scalar)} {text : List Char}

/-- What the one rule that accepts a text gives is what any order of the rules comes to. -/
theorem coerceBy_of_gives (horder : ∀ rule, rule ∈ order ↔ rule ∈ rules) {shape : Shape}
    {value : Scalar} (h : shape.Gives text value) : coerceBy order text = value := by
  have hmem : shape.rule ∈ order := (horder _).mpr (mem_rules_iff.mpr ⟨shape, rfl⟩)
  have hsome : (order.findSome? (· text)).isSome = true := by
    rw [List.findSome?_isSome_iff]
    exact ⟨shape.rule, hmem, by rw [Shape.rule_eq_some_iff.mpr h]; rfl⟩
  obtain ⟨found, hfound⟩ := Option.isSome_iff_exists.mp hsome
  obtain ⟨rule, hrule, haccepts⟩ := List.exists_of_findSome?_eq_some hfound
  -- the rule that was found is the one for the shape, since no text is of two
  obtain ⟨other, rfl⟩ := mem_rules_iff.mp ((horder _).mp hrule)
  have hsame : other = shape :=
    (Shape.exists_rule_iff.mp ⟨found, haccepts⟩).unique (Shape.fits_iff.mpr ⟨value, h⟩)
  rw [hsame, Shape.rule_eq_some_iff.mpr h, Option.some.injEq] at haccepts
  rw [coerceBy, hfound, haccepts]
  rfl

/-- A text that no rule accepts stays the text it is. -/
theorem coerceBy_of_not_fits (horder : ∀ rule, rule ∈ order ↔ rule ∈ rules)
    (h : ∀ shape : Shape, ¬ shape.Fits text) :
    coerceBy order text = str (String.ofList text) := by
  have hnone : order.findSome? (· text) = none := by
    rw [List.findSome?_eq_none_iff]
    intro rule hrule
    obtain ⟨shape, rfl⟩ := mem_rules_iff.mp ((horder _).mp hrule)
    rw [Option.eq_none_iff_forall_ne_some]
    exact fun value haccepts => h shape (Shape.exists_rule_iff.mp ⟨value, haccepts⟩)
  rw [coerceBy, hnone]
  rfl

/-- In whatever order the rules are asked, a text comes to what it stands for. -/
theorem coerceBy_eq_iff (horder : ∀ rule, rule ∈ order ↔ rule ∈ rules) {value : Scalar} :
    coerceBy order text = value ↔ Denotes text value := by
  constructor
  · rintro rfl
    by_cases h : ∃ shape : Shape, shape.Fits text
    · obtain ⟨shape, hfits⟩ := h
      obtain ⟨value, hgives⟩ := Shape.fits_iff.mp hfits
      rw [coerceBy_of_gives horder hgives]
      exact .shaped hgives
    · have hnone : ∀ shape : Shape, ¬ shape.Fits text := not_exists.mp h
      rw [coerceBy_of_not_fits horder hnone]
      exact .itself hnone
  · intro h
    cases h with
    | shaped hgives => exact coerceBy_of_gives horder hgives
    | itself hnone => exact coerceBy_of_not_fits horder hnone

end Order

/-- The value of a text is what the text stands for. -/
theorem ofText_eq_iff {text : String} {value : Scalar} :
    ofText text = value ↔ Denotes text.toList value :=
  coerceBy_eq_iff fun _ => Iff.rfl

/-- **What a text stands for is unambiguous.** No text is of two shapes, and the rule for a shape
gives each text of the shape a value and accepts no other text. In whatever order the rules are
asked, the value of a text is the one that its shape gives it, and the text itself if it is of
none. -/
theorem ofText_unambiguous (text : String) :
    (∀ a b : Shape, a.Fits text.toList → b.Fits text.toList → a = b)
      ∧ (∀ shape : Shape, (∃ value, shape.rule text.toList = some value) ↔ shape.Fits text.toList)
      ∧ (∀ order : List (List Char → Option Scalar), order.Perm rules →
          coerceBy order text.toList = ofText text)
      ∧ ∀ value, ofText text = value ↔ Denotes text.toList value := by
  refine ⟨fun a b => Shape.Fits.unique, fun shape => Shape.exists_rule_iff, ?_,
    fun value => ofText_eq_iff⟩
  intro order horder
  exact (coerceBy_eq_iff fun _ => horder.mem_iff).mpr (ofText_eq_iff.mp rfl)

end WebRouter.Query.Scalar
