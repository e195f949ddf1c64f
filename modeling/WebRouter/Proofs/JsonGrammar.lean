import WebRouter.Proofs.JsonNumber
import WebRouter.Text.Percent

/-!
# Which texts are JSON

`Derives` is the grammar of JSON, with what counts as a number left open, so that it can be
widened by words that are no JSON; `IsText` is the grammar as it is.

That a text is *not* JSON is seen from the characters outside its strings. A reader that goes
through a text is outside a string, inside one, or behind a backslash in one (`Place`), and it is
outside again after everything that the grammar derives. So the characters outside strings are
those of the parts (`Only.append`), and in JSON there are no capital letters among them but the
one of exponents.

> `IsText.only`: what stands in JSON outside strings.
-/

namespace WebRouter.Json

/-! ## The grammar -/

/-- Blanks, any number of them. -/
def IsBlank (text : List Char) : Prop :=
  ∀ c ∈ text, c ∈ [' ', '\t', '\n', '\r']

/-- A hexadecimal digit of either case. -/
def IsHex (c : Char) : Prop :=
  ∃ n, Text.Percent.hexValue? c = some n

/-- What a string is made of: characters that stand for themselves, and escapes. -/
inductive IsStringPart : List Char → Prop
  | plain {c : Char} (hcontrol : 0x20 ≤ c.toNat) (hquote : c ≠ '\x22') (hescape : c ≠ '\x5c') :
      IsStringPart [c]
  | short {c : Char} (h : c ∈ ['\x22', '\x5c', '/', 'b', 'f', 'n', 'r', 't']) :
      IsStringPart ['\x5c', c]
  | unit {a b c d : Char} (ha : IsHex a) (hb : IsHex b) (hc : IsHex c) (hd : IsHex d) :
      IsStringPart ['\x5c', 'u', a, b, c, d]

/-- A string between its quotes. -/
inductive IsString : List Char → Prop
  | quoted {parts : List (List Char)} (h : ∀ part ∈ parts, IsStringPart part) :
      IsString ('\x22' :: parts.flatten ++ ['\x22'])

/-- What holds several values together. -/
inductive Bracket where
  | array
  | object

/-- What a bracket begins with. -/
def Bracket.opening : Bracket → Char
  | array => '['
  | object => '\x7b'

/-- What a bracket ends with. -/
def Bracket.closing : Bracket → Char
  | array => ']'
  | object => '\x7d'

/-- What stands before a value between brackets: in an object its key and a colon. -/
inductive IsLead : Bracket → List Char → Prop
  | array : IsLead .array []
  | object {before key after : List Char} (hbefore : IsBlank before) (hkey : IsString key)
      (hafter : IsBlank after) : IsLead .object (before ++ key ++ after ++ [':'])

/-- What the grammar derives: a value, a value with blanks around it, and what stands between
brackets if that is not nothing. -/
inductive Category where
  | value
  | padded
  | items (bracket : Bracket)

/-- The grammar of JSON. -/
inductive Derives (number : List Char → Prop) : Category → List Char → Prop
  | word {text : List Char} (h : text ∈ ["null".toList, "true".toList, "false".toList]) :
      Derives number .value text
  | number {text : List Char} (h : number text) : Derives number .value text
  | string {text : List Char} (h : IsString text) : Derives number .value text
  | empty (bracket : Bracket) {blanks : List Char} (h : IsBlank blanks) :
      Derives number .value (bracket.opening :: blanks ++ [bracket.closing])
  | filled {bracket : Bracket} {text : List Char} (h : Derives number (.items bracket) text) :
      Derives number .value (bracket.opening :: text ++ [bracket.closing])
  | padded {before text after : List Char} (hbefore : IsBlank before)
      (h : Derives number .value text) (hafter : IsBlank after) :
      Derives number .padded (before ++ text ++ after)
  | last {bracket : Bracket} {lead text : List Char} (hlead : IsLead bracket lead)
      (h : Derives number .padded text) : Derives number (.items bracket) (lead ++ text)
  | more {bracket : Bracket} {lead text rest : List Char} (hlead : IsLead bracket lead)
      (h : Derives number .padded text) (hrest : Derives number (.items bracket) rest) :
      Derives number (.items bracket) (lead ++ text ++ ',' :: rest)

/-- A text that is JSON. -/
def IsText (text : List Char) : Prop :=
  Derives IsNumber .padded text

section Items

variable {number : List Char → Prop} {bracket : Bracket} {blanks text more : List Char}

theorem IsBlank.append (hblanks : IsBlank blanks) (h : IsBlank more) : IsBlank (blanks ++ more) :=
  List.forall_mem_append.mpr ⟨hblanks, h⟩

/-- Blanks before an item are blanks in it: before its key, or else before its value. -/
theorem IsLead.blanks_append {lead : List Char} (hblanks : IsBlank blanks)
    (hlead : IsLead bracket lead) (h : Derives number .padded text) :
    ∃ lead' text', blanks ++ (lead ++ text) = lead' ++ text' ∧ IsLead bracket lead'
      ∧ Derives number .padded text' := by
  cases hlead with
  | array =>
    cases h with
    | padded hbefore h hafter =>
      refine ⟨[], _, ?_, .array, .padded (hblanks.append hbefore) h hafter⟩
      simp only [List.nil_append, List.append_assoc]
  | object hbefore hkey hafter =>
    refine ⟨_, text, ?_, .object (hblanks.append hbefore) hkey hafter, h⟩
    simp only [List.append_assoc]

theorem Derives.blanks_append (hblanks : IsBlank blanks)
    (h : Derives number (.items bracket) text) :
    Derives number (.items bracket) (blanks ++ text) := by
  cases h with
  | last hlead h =>
    obtain ⟨lead', text', htext, hlead', h'⟩ := hlead.blanks_append hblanks h
    rw [htext]
    exact .last hlead' h'
  | more hlead h hrest =>
    obtain ⟨lead', text', htext, hlead', h'⟩ := hlead.blanks_append hblanks h
    rw [← List.append_assoc, htext]
    exact .more hlead' h' hrest

/-- Items can be put together with a comma between them. -/
theorem Derives.items_append (h : Derives number (.items bracket) text)
    (hmore : Derives number (.items bracket) more) :
    Derives number (.items bracket) (text ++ ',' :: more) := by
  generalize hitems : Category.items bracket = category at h
  induction h with
  | last hlead h _ =>
    cases hitems
    exact .more hlead h hmore
  | more hlead h _ _ ih =>
    cases hitems
    rw [List.append_assoc _ (',' :: _), List.cons_append]
    exact .more hlead h (ih rfl)
  | word _ => cases hitems
  | number _ => cases hitems
  | string _ => cases hitems
  | empty _ _ => cases hitems
  | filled _ _ => cases hitems
  | padded _ _ _ _ => cases hitems

end Items

/-! ## Outside strings -/

/-- Where a reader of JSON is. -/
inductive Place where
  | outside
  | inside
  | escaped

/-- Where a reader is after one more character. -/
def Place.next : Place → Char → Place
  | outside, c => if c = '\x22' then inside else outside
  | inside, c => if c = '\x22' then outside else if c = '\x5c' then escaped else inside
  | escaped, _ => inside

/-- The characters that a reader sees outside strings, the quotes before them included. -/
def outer : Place → List Char → List Char
  | _, [] => []
  | .outside, c :: rest => c :: outer (Place.next .outside c) rest
  | place, c :: rest => outer (place.next c) rest

theorem outer_append (place : Place) (text more : List Char) :
    outer place (text ++ more) = outer place text ++ outer (text.foldl Place.next place) more := by
  induction text generalizing place with
  | nil =>
    cases place <;> rfl
  | cons c text ih =>
    cases place with
    | outside => rw [List.cons_append, outer, ih, outer, List.foldl_cons, List.cons_append]
    | inside => exact ih _
    | escaped => exact ih _

/-- A text after which a reader is outside strings, all of whose characters outside them are of
one kind. -/
structure Only (kind : Char → Prop) (text : List Char) : Prop where
  closes : text.foldl Place.next .outside = .outside
  all : ∀ c ∈ outer .outside text, kind c

section Only

variable {kind : Char → Prop} {text more : List Char}

/-- The characters outside strings are those of the parts. -/
theorem mem_outer_append (h : text.foldl Place.next .outside = .outside) {c : Char} :
    c ∈ outer .outside (text ++ more) ↔ c ∈ outer .outside text ∨ c ∈ outer .outside more := by
  rw [outer_append, h, List.mem_append]

theorem Only.append (htext : Only kind text) (hmore : Only kind more) :
    Only kind (text ++ more) where
  closes := by rw [List.foldl_append, htext.closes, hmore.closes]
  all c hc := ((mem_outer_append htext.closes).mp hc).elim (htext.all c) (hmore.all c)

/-- Outside strings is all that has no quotes. -/
theorem outer_of_plain (h : ∀ c ∈ text, c ≠ '\x22') :
    text.foldl Place.next .outside = .outside ∧ outer .outside text = text := by
  induction text with
  | nil => exact ⟨rfl, rfl⟩
  | cons c text ih =>
    have hnext : Place.next .outside c = .outside := if_neg (h c List.mem_cons_self)
    obtain ⟨hcloses, houter⟩ := ih fun d hd => h d (List.mem_cons_of_mem _ hd)
    rw [List.foldl_cons, outer, hnext, houter]
    exact ⟨hcloses, rfl⟩

theorem Only.of_plain (h : ∀ c ∈ text, c ≠ '\x22' ∧ kind c) : Only kind text := by
  obtain ⟨hcloses, houter⟩ := outer_of_plain fun c hc => (h c hc).1
  exact ⟨hcloses, fun c hc => (h c (houter ▸ hc)).2⟩

end Only

theorem IsHex.ne {c d : Char} (h : IsHex c) (hd : Text.Percent.hexValue? d = none) : c ≠ d := by
  rintro rfl
  obtain ⟨n, hn⟩ := h
  rw [hd] at hn
  cases hn

/-- Behind a part of a string a reader is still in the string. -/
theorem IsStringPart.stays {part : List Char} (h : IsStringPart part) :
    part.foldl Place.next .inside = .inside ∧ outer .inside part = [] := by
  cases h with
  | plain hcontrol hquote hescape =>
    refine ⟨?_, rfl⟩
    rw [List.foldl_cons, Place.next, if_neg hquote, if_neg hescape]
    rfl
  | short h => exact ⟨rfl, rfl⟩
  | @unit a b c d ha hb hc hd =>
    have hstep : ∀ {c : Char}, IsHex c → Place.next .inside c = .inside := fun hc => by
      rw [Place.next, if_neg (hc.ne rfl), if_neg (hc.ne rfl)]
    have hfirst : ([a, b, c, d]).foldl Place.next .inside = .inside := by
      rw [List.foldl_cons, List.foldl_cons, List.foldl_cons, List.foldl_cons, hstep ha, hstep hb,
        hstep hc, hstep hd]
      rfl
    refine ⟨hfirst, ?_⟩
    show outer .inside [a, b, c, d] = []
    rw [outer, hstep ha, outer, hstep hb, outer, hstep hc, outer, outer]
    all_goals exact nofun

theorem stays_of_parts {parts : List (List Char)} (h : ∀ part ∈ parts, IsStringPart part) :
    parts.flatten.foldl Place.next .inside = .inside ∧ outer .inside parts.flatten = [] := by
  induction parts with
  | nil => exact ⟨rfl, rfl⟩
  | cons part parts ih =>
    obtain ⟨hpart, houter⟩ := (h part List.mem_cons_self).stays
    obtain ⟨hparts, houters⟩ := ih fun other hother => h other (List.mem_cons_of_mem _ hother)
    rw [List.flatten_cons, List.foldl_append, hpart, outer_append, hpart, houter, houters]
    exact ⟨hparts, rfl⟩

/-- The characters outside strings, apart from numbers. -/
def marks : List Char :=
  [' ', '\t', '\n', '\r', '[', ']', '\x7b', '\x7d', ',', ':', '\x22', 'n', 'u', 'l', 't', 'r', 'e',
    'f', 'a', 's']

section Derived

variable {kind : Char → Prop} (hmarks : ∀ c ∈ marks, kind c)

include hmarks

theorem IsString.only {text : List Char} (h : IsString text) : Only kind text := by
  cases h with
  | @quoted parts h =>
    obtain ⟨hcloses, houter⟩ := stays_of_parts h
    have hall : outer .outside ('\x22' :: parts.flatten ++ ['\x22']) = ['\x22'] := by
      rw [List.cons_append, outer]
      show '\x22' :: outer .inside (parts.flatten ++ ['\x22']) = ['\x22']
      rw [outer_append, houter, hcloses]
      rfl
    constructor
    · rw [List.foldl_append]
      show ['\x22'].foldl Place.next (parts.flatten.foldl Place.next .inside) = .outside
      rw [hcloses]
      rfl
    · intro c hc
      rw [hall] at hc
      rw [List.mem_singleton.mp hc]
      exact hmarks _ (by decide)

/-- The marks but for quotes. -/
theorem Only.of_marks {text : List Char} (h : text ⊆ marks.erase '\x22') : Only kind text :=
  .of_plain fun c hc =>
    ⟨fun hquote => absurd (hquote ▸ h hc) (by decide), hmarks c (List.mem_of_mem_erase (h hc))⟩

theorem IsBlank.only {text : List Char} (h : IsBlank text) : Only kind text := by
  have hblanks : [' ', '\t', '\n', '\r'] ⊆ marks.erase '\x22' := by decide
  exact .of_marks hmarks fun c hc => hblanks (h c hc)

theorem Bracket.only_opening (bracket : Bracket) : Only kind [bracket.opening] := by
  refine .of_marks hmarks ?_
  cases bracket <;> decide

theorem Bracket.only_closing (bracket : Bracket) : Only kind [bracket.closing] := by
  refine .of_marks hmarks ?_
  cases bracket <;> decide

theorem IsLead.only {bracket : Bracket} {text : List Char} (h : IsLead bracket text) :
    Only kind text := by
  cases h with
  | array => exact ⟨rfl, fun c hc => nomatch hc⟩
  | object hbefore hkey hafter =>
    exact (((hbefore.only hmarks).append (hkey.only hmarks)).append (hafter.only hmarks)).append
      (.of_marks hmarks (by decide))

/-- What the grammar derives is closed, and outside its strings are the characters of its numbers
and the marks. -/
theorem Derives.only {number : List Char → Prop}
    (hnumber : ∀ {text : List Char}, number text → ∀ c ∈ text, c ≠ '\x22' ∧ kind c)
    {category : Category} {text : List Char} (h : Derives number category text) :
    Only kind text := by
  induction h with
  | word h =>
    have hwords : ∀ word ∈ ["null".toList, "true".toList, "false".toList],
        word ⊆ marks.erase '\x22' := by decide
    exact .of_marks hmarks (hwords _ h)
  | number h => exact .of_plain (hnumber h)
  | string h => exact h.only hmarks
  | empty bracket h =>
    exact ((bracket.only_opening hmarks).append (h.only hmarks)).append
      (bracket.only_closing hmarks)
  | @filled bracket _ _ ih =>
    exact ((bracket.only_opening hmarks).append ih).append (bracket.only_closing hmarks)
  | padded hbefore _ hafter ih =>
    exact ((hbefore.only hmarks).append ih).append (hafter.only hmarks)
  | last hlead _ ih => exact (hlead.only hmarks).append ih
  | @more _ _ _ rest hlead _ _ ih ihrest =>
    have hcomma : Only kind [','] := .of_marks hmarks (by decide)
    exact ((hlead.only hmarks).append ih).append (hcomma.append ihrest)

end Derived

/-- **Outside the strings of a JSON text** stand only marks and the characters of numbers. -/
theorem IsText.only {text : List Char} (h : IsText text) :
    Only (fun c => c ∈ marks ∨ IsNumberChar c) text := by
  refine Derives.only (fun c hc => Or.inl hc) (fun hnumber c hc => ?_) h
  have hc := hnumber.isNumberChar hc
  refine ⟨?_, Or.inr hc⟩
  rintro rfl
  rcases hc with hc | hc <;> exact absurd hc (by decide)

end WebRouter.Json
