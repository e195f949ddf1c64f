import WebRouter.Proofs.JsonGrammar
import WebRouter.Proofs.JsonText
import WebRouter.Proofs.Sending

/-!
# What is written is JSON

A value that can be written is written in ASCII, and as the grammar of JSON derives it, if only
what is written for its floats counts as a number (`spells_write`). For finite floats it does. For
the others it is one of three words, and there is an `N` or an `I` outside strings, which no JSON
text has. So

> `isText_write_iff`: what is written for a value is JSON if all its floats are finite, and not if
> there is one that is not.

Keys do not matter: a float that is a key is written as a text.
-/

namespace WebRouter

open Number (Binary64 floatText intText)

namespace Value

mutual

/-- The floats in a value, those in keys left out: they are written as texts. -/
def floats : Value → List Binary64
  | float x => [x]
  | list items => floatsOfItems items
  | tuple items => floatsOfItems items
  | dict entries => floatsOfEntries entries
  | _ => []

/-- The floats in the items of a list. -/
def floatsOfItems : List Value → List Binary64
  | [] => []
  | v :: rest => v.floats ++ floatsOfItems rest

/-- The floats in the values of a mapping. -/
def floatsOfEntries : List (Value × Value) → List Binary64
  | [] => []
  | (_, v) :: rest => v.floats ++ floatsOfEntries rest

end

end Value

namespace Json

/-- Nothing but ASCII. -/
def IsAscii (text : List Char) : Prop :=
  ∀ c ∈ text, c.toNat < 128

instance (text : List Char) : Decidable (IsAscii text) :=
  List.decidableBAll _ text

theorem IsAscii.append {text more : List Char} (htext : IsAscii text) (hmore : IsAscii more) :
    IsAscii (text ++ more) :=
  List.forall_mem_append.mpr ⟨htext, hmore⟩

/-! ## Strings -/

theorem isHex_hexDigit {n : Nat} (h : n < 16) :
    IsHex (Char.ofNat (if n < 10 then 48 + n else 87 + n))
      ∧ (Char.ofNat (if n < 10 then 48 + n else 87 + n)).toNat < 128 := by
  refine ⟨⟨n, hexValue?_hexDigit n h⟩, ?_⟩
  split
  · rw [Text.toNat_ofNat (by omega)]
    omega
  · rw [Text.toNat_ofNat (by omega)]
    omega

/-- Parts of a string in ASCII, one after the other. -/
def IsAsciiBody (text : List Char) : Prop :=
  ∃ parts : List (List Char), text = parts.flatten
    ∧ ∀ part ∈ parts, IsStringPart part ∧ IsAscii part

theorem IsStringPart.body {part : List Char} (h : IsStringPart part) (hascii : IsAscii part) :
    IsAsciiBody part :=
  ⟨[part], List.flatten_singleton.symm, List.forall_mem_singleton.mpr ⟨h, hascii⟩⟩

theorem IsAsciiBody.append {text more : List Char} (htext : IsAsciiBody text)
    (hmore : IsAsciiBody more) : IsAsciiBody (text ++ more) := by
  obtain ⟨parts, rfl, hparts⟩ := htext
  obtain ⟨others, rfl, hothers⟩ := hmore
  exact ⟨parts ++ others, List.flatten_append.symm, List.forall_mem_append.mpr ⟨hparts, hothers⟩⟩

/-- An escape of one letter. -/
theorem isAsciiBody_short {letter : Char}
    (h : letter ∈ ['\x22', '\x5c', '/', 'b', 'f', 'n', 'r', 't']) :
    IsAsciiBody ['\x5c', letter] := by
  have hletters : IsAscii ['\x22', '\x5c', '/', 'b', 'f', 'n', 'r', 't'] := by decide
  exact (IsStringPart.short h).body (List.forall_mem_cons.mpr
    ⟨by decide, List.forall_mem_singleton.mpr (hletters letter h)⟩)

/-- An escape by number. -/
theorem isAsciiBody_unitEscape (n : Nat) : IsAsciiBody (unitEscape n) := by
  have hdigit : ∀ n : Nat, n % 16 < 16 := fun n => Nat.mod_lt n (by decide)
  obtain ⟨ha, hasciia⟩ := isHex_hexDigit (hdigit (n / 16 / 16 / 16))
  obtain ⟨hb, hasciib⟩ := isHex_hexDigit (hdigit (n / 16 / 16))
  obtain ⟨hc, hasciic⟩ := isHex_hexDigit (hdigit (n / 16))
  obtain ⟨hd, hasciid⟩ := isHex_hexDigit (hdigit n)
  refine (IsStringPart.unit ha hb hc hd).body ?_
  have hstart : IsAscii ['\x5c', 'u'] := by decide
  refine hstart.append (List.forall_mem_cons.mpr ⟨hasciia, List.forall_mem_cons.mpr ⟨hasciib, ?_⟩⟩)
  exact List.forall_mem_cons.mpr ⟨hasciic, List.forall_mem_singleton.mpr hasciid⟩

/-- A character is written as one part of a string, or as two. -/
theorem isAsciiBody_escapeChar (c : Char) : IsAsciiBody (escapeChar c) := by
  unfold escapeChar
  split
  · exact isAsciiBody_short (by decide)
  split
  · exact isAsciiBody_short (by decide)
  split
  · exact isAsciiBody_short (by decide)
  split
  · exact isAsciiBody_short (by decide)
  split
  · exact isAsciiBody_short (by decide)
  split
  · exact isAsciiBody_short (by decide)
  split
  · exact isAsciiBody_short (by decide)
  dsimp only
  split
  · next hquote hescape _ _ _ _ _ hplain =>
    refine (IsStringPart.plain hplain.1 hquote hescape).body (List.forall_mem_singleton.mpr ?_)
    omega
  split
  · exact isAsciiBody_unitEscape _
  · exact (isAsciiBody_unitEscape _).append (isAsciiBody_unitEscape _)

/-- A text is written as a string in ASCII. -/
theorem isString_text (s : String) : IsString (text s).toList ∧ IsAscii (text s).toList := by
  have hbody : ∀ chars : List Char, IsAsciiBody (chars.flatMap escapeChar) := by
    intro chars
    induction chars with
    | nil => exact ⟨[], rfl, List.forall_mem_nil _⟩
    | cons c chars ih => exact (isAsciiBody_escapeChar c).append ih
  obtain ⟨parts, htext, hall⟩ := hbody s.toList
  rw [text, String.toList_ofList, htext]
  refine ⟨.quoted fun part hpart => (hall part hpart).1, ?_⟩
  refine .append (List.forall_mem_cons.mpr ⟨by decide, fun c hc => ?_⟩)
    (List.forall_mem_singleton.mpr (by decide))
  obtain ⟨part, hpart, hc⟩ := List.mem_flatten.mp hc
  exact (hall part hpart).2 c hc

/-! ## Values -/

/-- What tells the words for unusual floats from all that is JSON. -/
def IsSignal (c : Char) : Prop :=
  c = 'N' ∨ c = 'I'

/-- A text that the grammar derives, if all it takes for numbers are numerals and the texts of the
given floats, and in which there is a signal outside strings if one of these is not finite. -/
structure Spells (category : Category) (xs : List Binary64) (text : List Char) : Prop where
  derives {number : List Char → Prop} (hint : ∀ i, number (intText i))
    (hfloat : ∀ x ∈ xs, number (floatText floats x).toList) : Derives number category text
  ascii : IsAscii text
  signal {x : Binary64} (hx : x ∈ xs) (h : ¬ IsFinite x) : ∃ c ∈ outer .outside text, IsSignal c

/-- ASCII without quotes. -/
def IsPlain (text : List Char) : Prop :=
  ∀ c ∈ text, c ≠ '\x22' ∧ c.toNat < 128

instance (text : List Char) : Decidable (IsPlain text) :=
  List.decidableBAll _ text

theorem IsNumberChar.plain {c : Char} (h : IsNumberChar c) : c ≠ '\x22' ∧ c.toNat < 128 := by
  rcases h with h | h
  · refine ⟨fun hc => absurd (hc ▸ h) (by decide), ?_⟩
    rw [Number.isDigit, Bool.and_eq_true, decide_eq_true_eq, decide_eq_true_eq] at h
    omega
  · have hothers : IsPlain ['.', '-', '+', 'e', 'E'] := by decide
    exact hothers c h

theorem isPlain_intText (i : Int) : IsPlain (intText i) :=
  fun _ hc => ((isNumber_intText i).isNumberChar hc).plain

theorem isPlain_floatText (x : Binary64) : IsPlain (floatText floats x).toList := by
  by_cases h : IsFinite x
  · exact fun _ hc => ((isNumber_floatText h).isNumberChar hc).plain
  · have hwords : ∀ word ∈ words, IsPlain word := by decide
    exact hwords _ (floatText_mem_words h)

section Spells

variable {category : Category} {bracket : Bracket} {xs ys : List Binary64} {text more : List Char}

/-- Behind what is written a reader is outside strings. -/
theorem Spells.closes (h : Spells category xs text) :
    text.foldl Place.next .outside = .outside := by
  have hderives : Derives (fun text => ∀ c ∈ text, c ≠ '\x22') category text :=
    h.derives (fun i c hc => (isPlain_intText i c hc).1) fun x _ c hc => (isPlain_floatText x c hc).1
  have honly : Only (fun _ => True) text :=
    hderives.only (fun _ _ => trivial) fun hplain c hc => ⟨hplain c hc, trivial⟩
  exact honly.closes

theorem Spells.of_word (h : text ∈ ["null".toList, "true".toList, "false".toList]) :
    Spells .value [] text where
  derives _ _ := .word h
  ascii := by
    have hwords : ∀ word ∈ ["null".toList, "true".toList, "false".toList], IsAscii word := by
      decide
    exact hwords _ h
  signal hx := nomatch hx

theorem Spells.of_text (s : String) : Spells .value [] (Json.text s).toList where
  derives _ _ := .string (isString_text s).1
  ascii := (isString_text s).2
  signal hx := nomatch hx

theorem Spells.of_int (i : Int) : Spells .value [] (intText i) where
  derives hint _ := .number (hint i)
  ascii c hc := (isPlain_intText i c hc).2
  signal hx := nomatch hx

theorem Spells.of_float (x : Binary64) : Spells .value [x] (floatText floats x).toList where
  derives _ hfloat := .number (hfloat x List.mem_cons_self)
  ascii c hc := (isPlain_floatText x c hc).2
  signal hx h := by
    have hwords : ∀ word ∈ words, 'N' ∈ word ∨ 'I' ∈ word := by decide
    rw [(outer_of_plain fun c hc => (isPlain_floatText x c hc).1).2]
    rcases hwords _ (floatText_mem_words (List.mem_singleton.mp hx ▸ h)) with hword | hword
    · exact ⟨'N', hword, Or.inl rfl⟩
    · exact ⟨'I', hword, Or.inr rfl⟩

theorem isBlank_nil : IsBlank [] :=
  List.forall_mem_nil _

theorem isBlank_space : IsBlank [' '] :=
  List.forall_mem_singleton.mpr (by decide)

/-- A value is an item of an array as it is. -/
theorem Spells.element (h : Spells .value xs text) : Spells (.items .array) xs text where
  derives hint hfloat := by
    have hlast := Derives.last .array (.padded isBlank_nil (h.derives hint hfloat) isBlank_nil)
    rwa [List.nil_append, List.nil_append, List.append_nil] at hlast
  ascii := h.ascii
  signal := h.signal

/-- A value is an item of an object with a key before it. -/
theorem Spells.member {key : List Char} (hkey : IsString key ∧ IsAscii key)
    (h : Spells .value xs text) : Spells (.items .object) xs (key ++ [':', ' '] ++ text) where
  derives hint hfloat := by
    have hlast := Derives.last (.object isBlank_nil hkey.1 isBlank_nil)
      (.padded isBlank_space (h.derives hint hfloat) isBlank_nil)
    rw [List.nil_append, List.append_nil, List.append_nil, List.append_assoc,
      ← List.append_assoc [':']] at hlast
    rw [List.append_assoc]
    exact hlast
  ascii := (hkey.2.append (by decide)).append h.ascii
  signal hx hfinite := by
    have honly : Only (fun _ => True) key := hkey.1.only fun _ _ => trivial
    have hcloses : (key ++ [':', ' ']).foldl Place.next .outside = .outside := by
      rw [List.foldl_append, honly.closes]
      rfl
    obtain ⟨c, hc, hsignal⟩ := h.signal hx hfinite
    exact ⟨c, (mem_outer_append hcloses).mpr (Or.inr hc), hsignal⟩

/-- Items stand next to each other with a comma and a space between them. -/
theorem Spells.join (h : Spells (.items bracket) xs text)
    (hmore : Spells (.items bracket) ys more) :
    Spells (.items bracket) (xs ++ ys) (text ++ [',', ' '] ++ more) where
  derives hint hfloat := by
    have hboth := (h.derives hint fun x hx => hfloat x (List.mem_append_left _ hx)).items_append
      ((hmore.derives hint fun x hx => hfloat x (List.mem_append_right _ hx)).blanks_append
        isBlank_space)
    rwa [List.append_assoc]
  ascii := (h.ascii.append (by decide)).append hmore.ascii
  signal hx hfinite := by
    have hcloses : (text ++ [',', ' ']).foldl Place.next .outside = .outside := by
      rw [List.foldl_append, h.closes]
      rfl
    rcases List.mem_append.mp hx with hx | hx
    · obtain ⟨c, hc, hsignal⟩ := h.signal hx hfinite
      rw [List.append_assoc]
      exact ⟨c, (mem_outer_append h.closes).mpr (Or.inl hc), hsignal⟩
    · obtain ⟨c, hc, hsignal⟩ := hmore.signal hx hfinite
      exact ⟨c, (mem_outer_append hcloses).mpr (Or.inr hc), hsignal⟩

theorem Bracket.ascii (bracket : Bracket) :
    IsAscii [bracket.opening] ∧ IsAscii [bracket.closing] := by
  cases bracket <;> decide

/-- Items between their brackets are a value. -/
theorem Spells.filled (h : Spells (.items bracket) xs text) :
    Spells .value xs (bracket.opening :: text ++ [bracket.closing]) where
  derives hint hfloat := .filled (h.derives hint hfloat)
  ascii := (bracket.ascii.1.append h.ascii).append bracket.ascii.2
  signal hx hfinite := by
    have hopening : [bracket.opening].foldl Place.next .outside = .outside := by
      cases bracket <;> rfl
    obtain ⟨c, hc, hsignal⟩ := h.signal hx hfinite
    refine ⟨c, ?_, hsignal⟩
    show c ∈ outer .outside ([bracket.opening] ++ (text ++ [bracket.closing]))
    exact (mem_outer_append hopening).mpr (Or.inr ((mem_outer_append h.closes).mpr (Or.inl hc)))

theorem Spells.empty (bracket : Bracket) :
    Spells .value [] (bracket.opening :: [] ++ [bracket.closing]) where
  derives _ _ := .empty bracket isBlank_nil
  ascii := bracket.ascii.1.append bracket.ascii.2
  signal hx := nomatch hx

/-- The items of a list or a mapping, one text for each. -/
inductive Listed (bracket : Bracket) : List Binary64 → List String → Prop
  | nil : Listed bracket [] []
  | cons {xs ys : List Binary64} {text : String} {rest : List String}
      (h : Spells (.items bracket) xs text.toList) (hrest : Listed bracket ys rest) :
      Listed bracket (xs ++ ys) (text :: rest)

theorem Listed.joined {text : String} {rest : List String} (h : Listed bracket xs (text :: rest)) :
    Spells (.items bracket) xs (", ".intercalate (text :: rest)).toList := by
  have hcomma : ", ".toList = [',', ' '] := by decide
  induction rest generalizing text xs with
  | nil =>
    cases h with
    | cons h hrest =>
      cases hrest
      rwa [String.toList_intercalate, List.map_singleton, List.intercalate_singleton,
        List.append_nil]
  | cons next rest ih =>
    cases h with
    | cons h hrest =>
      have hjoin := h.join (ih hrest)
      rw [String.toList_intercalate, hcomma] at hjoin ⊢
      rwa [List.map_cons, List.map_cons, List.intercalate_cons_cons, ← List.map_cons]

theorem Listed.enclosed {texts : List String} (h : Listed bracket xs texts) :
    Spells .value xs (bracket.opening :: (", ".intercalate texts).toList ++ [bracket.closing]) := by
  cases texts with
  | nil =>
    cases h
    exact .empty bracket
  | cons text rest => exact h.joined.filled

theorem exists_text_of_key {k : Value} {name : String} (h : key k = .ok name) :
    ∃ s, name = Json.text s := by
  cases k with
  | str s => exact ⟨s, (Except.ok.inj h).symm⟩
  | null => exact ⟨_, (Except.ok.inj h).symm⟩
  | bool b => exact ⟨_, (Except.ok.inj h).symm⟩
  | float x => exact ⟨_, (Except.ok.inj h).symm⟩
  | int i =>
    obtain ⟨numeral, -, hname⟩ := map_eq_ok_iff.mp h
    exact ⟨numeral, hname.symm⟩
  | bytes bs => cases h
  | list items => cases h
  | tuple items => cases h
  | dict entries => cases h
  | response body status contentType headers => cases h
  | object kind => cases h

theorem spells_integer {i : Int} {s : String} (h : integer i = .ok s) :
    Spells .value [] s.toList := by
  unfold integer at h
  dsimp only at h
  split at h
  · cases h
    rw [String.toList_ofList]
    exact .of_int i
  · cases h

mutual

/-- What is written for a value spells its floats. -/
theorem spells_write : ∀ (v : Value) {s : String}, write v = .ok s → Spells .value v.floats s.toList
  | .null, _, h => by
    rw [write] at h
    rw [← Except.ok.inj h]
    exact .of_word (by decide)
  | .bool b, _, h => by
    rw [write] at h
    rw [← Except.ok.inj h]
    cases b <;> exact .of_word (by decide)
  | .int i, _, h => by
    rw [write] at h
    exact spells_integer h
  | .float x, _, h => by
    rw [write] at h
    rw [← Except.ok.inj h]
    exact .of_float x
  | .str s, _, h => by
    rw [write] at h
    rw [← Except.ok.inj h]
    exact .of_text s
  | .list items, _, h => by
    rw [write] at h
    obtain ⟨texts, htexts, h⟩ := bind_eq_ok_iff.mp h
    rw [← Except.ok.inj h, String.toList_append, String.toList_append]
    exact (spells_writeItems items htexts).enclosed
  | .tuple items, _, h => by
    rw [write] at h
    obtain ⟨texts, htexts, h⟩ := bind_eq_ok_iff.mp h
    rw [← Except.ok.inj h, String.toList_append, String.toList_append]
    exact (spells_writeItems items htexts).enclosed
  | .dict entries, _, h => by
    rw [write] at h
    obtain ⟨texts, htexts, h⟩ := bind_eq_ok_iff.mp h
    rw [← Except.ok.inj h, String.toList_append, String.toList_append]
    exact (spells_writeEntries entries htexts).enclosed
  | .bytes bs, _, h => by
    rw [write] at h
    rw [← Except.ok.inj h]
    exact .of_text _
  | .response body status contentType headers, _, h => by
    rw [write] at h
    rw [← Except.ok.inj h]
    exact .of_text _
  | .object kind, _, h => by
    rw [write] at h
    rw [← Except.ok.inj h]
    exact .of_text _

theorem spells_writeItems : ∀ (items : List Value) {texts : List String},
    writeItems items = .ok texts → Listed .array (Value.floatsOfItems items) texts
  | [], _, h => by
    rw [writeItems] at h
    rw [← Except.ok.inj h]
    exact .nil
  | v :: rest, _, h => by
    rw [writeItems] at h
    obtain ⟨text, htext, h⟩ := bind_eq_ok_iff.mp h
    obtain ⟨texts, htexts, h⟩ := bind_eq_ok_iff.mp h
    rw [← Except.ok.inj h]
    exact .cons (spells_write v htext).element (spells_writeItems rest htexts)

theorem spells_writeEntries : ∀ (entries : List (Value × Value)) {texts : List String},
    writeEntries entries = .ok texts → Listed .object (Value.floatsOfEntries entries) texts
  | [], _, h => by
    rw [writeEntries] at h
    rw [← Except.ok.inj h]
    exact .nil
  | (k, v) :: rest, _, h => by
    rw [writeEntries] at h
    obtain ⟨name, hname, h⟩ := bind_eq_ok_iff.mp h
    obtain ⟨text, htext, h⟩ := bind_eq_ok_iff.mp h
    obtain ⟨texts, htexts, h⟩ := bind_eq_ok_iff.mp h
    obtain ⟨s, hs⟩ := exists_text_of_key hname
    have hmember := (spells_write v htext).member (isString_text s)
    rw [← Except.ok.inj h]
    refine .cons ?_ (spells_writeEntries rest htexts)
    rwa [hs, String.toList_append, String.toList_append]

end

end Spells

/-- A value is JSON whether or not blanks may stand around it. -/
theorem Derives.alone {number : List Char → Prop} {text : List Char}
    (h : Derives number .value text) : Derives number .padded text := by
  have hpadded := Derives.padded isBlank_nil h isBlank_nil
  rwa [List.nil_append, List.append_nil] at hpadded

/-- **What is written is JSON unless there is a float in it that is not finite.** -/
theorem isText_write_iff {v : Value} {s : String} (h : write v = .ok s) :
    IsText s.toList ↔ ∀ x ∈ v.floats, IsFinite x := by
  have hspells := spells_write v h
  constructor
  · intro htext x hx
    by_contra hfinite
    obtain ⟨c, hc, hsignal⟩ := hspells.signal hx hfinite
    -- neither of the two letters is among the characters outside strings
    rcases htext.only.all c hc with hmark | hnumber
    · rcases hsignal with rfl | rfl <;> exact absurd hmark (by decide)
    · rcases hsignal with rfl | rfl <;> rcases hnumber with h | h <;> exact absurd h (by decide)
  · intro hfinite
    exact (hspells.derives isNumber_intText fun x hx => isNumber_floatText (hfinite x hx)).alone

end Json

end WebRouter
