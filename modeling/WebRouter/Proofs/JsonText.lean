import WebRouter.Json

/-!
# Texts are told apart by their JSON

A character is read back from its escape, whatever follows it (`readChar_escapeChar`), and no
escape begins with the quote that ends a text. So a text ends in JSON where it ends, and

> `write_textMapping_inj`: two mappings from texts to texts that have the same JSON are the
> same, with their keys in the same order.
-/

namespace WebRouter.Json

/-! ## Characters are read back from their escapes -/

/-- The number that four hexadecimal digits denote. -/
def readUnit (a b c d : Char) : Option Nat := do
  let a ← Text.Percent.hexValue? a
  let b ← Text.Percent.hexValue? b
  let c ← Text.Percent.hexValue? c
  let d ← Text.Percent.hexValue? d
  return 16 * (16 * (16 * a + b) + c) + d

/-- The character of an escape of one letter. -/
def readShort (c : Char) : Char :=
  if c = 'n' then '\n'
  else if c = 'r' then '\r'
  else if c = 't' then '\t'
  else if c = 'b' then '\x08'
  else if c = 'f' then '\x0c'
  else c

/-- Reads the first character inside a JSON text; a character beyond U+FFFF is two units. -/
def readChar : List Char → Option (Char × List Char)
  | '\x5c' :: 'u' :: a :: b :: c :: d :: rest => do
    let unit ← readUnit a b c d
    if 0xD800 ≤ unit ∧ unit < 0xDC00 then
      match rest with
      | '\x5c' :: 'u' :: a :: b :: c :: d :: rest =>
        let second ← readUnit a b c d
        return (Char.ofNat (0x10000 + 1024 * (unit - 0xD800) + (second - 0xDC00)), rest)
      | _ => none
    else return (Char.ofNat unit, rest)
  | '\x5c' :: c :: rest => some (readShort c, rest)
  | c :: rest => some (c, rest)
  | [] => none

theorem hexValue?_hexDigit : ∀ n : Nat, n < 16 →
    Text.Percent.hexValue? (Char.ofNat (if n < 10 then 48 + n else 87 + n)) = some n := by
  decide

/-- A unit is read from its escape. -/
theorem readUnit_hex {n : Nat} (h : n < 0x10000) :
    ∃ a b c d, Text.Quoted.hex 4 n = [a, b, c, d] ∧ readUnit a b c d = some n := by
  refine ⟨_, _, _, _, rfl, ?_⟩
  rw [readUnit, hexValue?_hexDigit _ (by omega), hexValue?_hexDigit _ (by omega),
    hexValue?_hexDigit _ (by omega), hexValue?_hexDigit _ (by omega)]
  show some (16 * (16 * (16 * (n / 16 / 16 / 16 % 16) + n / 16 / 16 % 16) + n / 16 % 16) + n % 16)
    = some n
  congr 1
  omega

theorem readChar_short {c : Char} (h : c ≠ 'u') (rest : List Char) :
    readChar ('\x5c' :: c :: rest) = some (readShort c, rest) := by
  rw [readChar]
  intro a b c' d more hc
  exact absurd hc h

theorem readChar_plain {c : Char} (h : c ≠ '\x5c') (rest : List Char) :
    readChar (c :: rest) = some (c, rest) := by
  rw [readChar]
  · intro a b c' d more hc
    exact absurd hc h
  · intro c' more hc
    exact absurd hc h

/-- An escape of one unit is read as the character of that number. -/
theorem readChar_unitEscape {n : Nat} (h : n < 0x10000) (hone : ¬ (0xD800 ≤ n ∧ n < 0xDC00))
    (rest : List Char) : readChar (unitEscape n ++ rest) = some (Char.ofNat n, rest) := by
  obtain ⟨a, b, c, d, hhex, hread⟩ := readUnit_hex h
  rw [unitEscape, hhex]
  show readChar ('\x5c' :: 'u' :: a :: b :: c :: d :: rest) = _
  rw [readChar, hread]
  show (if 0xD800 ≤ n ∧ n < 0xDC00 then _ else some (Char.ofNat n, rest)) = _
  rw [if_neg hone]

/-- Two escapes that begin with the first unit of a pair are read as one character. -/
theorem readChar_pair {first second : Nat} (hfirst : 0xD800 ≤ first ∧ first < 0xDC00)
    (hsecond : second < 0x10000) (rest : List Char) :
    readChar (unitEscape first ++ unitEscape second ++ rest)
      = some (Char.ofNat (0x10000 + 1024 * (first - 0xD800) + (second - 0xDC00)), rest) := by
  obtain ⟨a, b, c, d, hhex, hread⟩ := readUnit_hex (n := first) (by omega)
  obtain ⟨a', b', c', d', hhex', hread'⟩ := readUnit_hex hsecond
  rw [unitEscape, unitEscape, hhex, hhex']
  show readChar ('\x5c' :: 'u' :: a :: b :: c :: d :: '\x5c' :: 'u' :: a' :: b' :: c' :: d' :: rest)
    = _
  rw [readChar, hread]
  show (if 0xD800 ≤ first ∧ first < 0xDC00 then _ else _) = _
  rw [if_pos hfirst]
  show (readUnit a' b' c' d' >>= _) = _
  rw [hread', Option.bind_eq_bind, Option.bind_some, Option.pure_def]

/-- **A character is read back from its escape**, whatever follows. -/
theorem readChar_escapeChar (c : Char) (rest : List Char) :
    readChar (escapeChar c ++ rest) = some (c, rest) := by
  have hshort : ∀ letter : Char, letter ≠ 'u' → readShort letter = c →
      readChar (['\x5c', letter] ++ rest) = some (c, rest) := by
    intro letter hletter hread
    rw [List.cons_append, List.singleton_append, readChar_short hletter, hread]
  unfold escapeChar
  split
  · next h => exact hshort _ (by decide) h.symm
  split
  · next h => exact hshort _ (by decide) h.symm
  split
  · next h => exact hshort _ (by decide) h.symm
  split
  · next h => exact hshort _ (by decide) h.symm
  split
  · next h => exact hshort _ (by decide) h.symm
  split
  · next h => exact hshort _ (by decide) h.symm
  split
  · next h => exact hshort _ (by decide) h.symm
  dsimp only
  split
  · exact readChar_plain ‹c ≠ '\x5c'› rest
  have hvalid : c.toNat < 0xD800 ∨ 0xDFFF < c.toNat ∧ c.toNat < 0x110000 := c.valid
  split
  · next hunit =>
    -- the units of pairs are no characters
    rw [readChar_unitEscape hunit (by omega), Char.ofNat_toNat]
  · have hnumber : 0x10000 + 1024 * (0xD800 + (c.toNat - 0x10000) / 1024 - 0xD800)
        + (0xDC00 + (c.toNat - 0x10000) % 1024 - 0xDC00) = c.toNat := by
      omega
    rw [readChar_pair (by omega) (by omega), hnumber, Char.ofNat_toNat]

/-- Characters are told apart by their escapes. -/
theorem escapeChar_cancel {c d : Char} {rest more : List Char}
    (h : escapeChar c ++ rest = escapeChar d ++ more) : c = d ∧ rest = more := by
  have hread := congrArg readChar h
  rw [readChar_escapeChar, readChar_escapeChar] at hread
  cases hread
  exact ⟨rfl, rfl⟩

/-- No escape begins with the quote that ends a text. -/
theorem escapeChar_ne_quote (c : Char) (rest more : List Char) :
    escapeChar c ++ rest ≠ '\x22' :: more := by
  intro h
  have hread := congrArg readChar h
  rw [readChar_escapeChar, readChar_plain (by decide)] at hread
  cases hread
  cases h

/-- A text ends where its quote is. -/
theorem escaped_cancel {text : List Char} : ∀ {other rest more : List Char},
    text.flatMap escapeChar ++ '\x22' :: rest = other.flatMap escapeChar ++ '\x22' :: more →
      text = other ∧ rest = more := by
  -- the texts are walked in step: where one ends, the other one has no character left
  induction text with
  | nil =>
    intro other rest more h
    cases other with
    | nil =>
      cases h
      exact ⟨rfl, rfl⟩
    | cons d other =>
      rw [List.flatMap_cons, List.append_assoc] at h
      exact absurd h.symm (escapeChar_ne_quote d _ _)
  | cons c text ih =>
    intro other rest more h
    cases other with
    | nil =>
      rw [List.flatMap_cons, List.append_assoc] at h
      exact absurd h (escapeChar_ne_quote c _ _)
    | cons d other =>
      rw [List.flatMap_cons, List.flatMap_cons, List.append_assoc, List.append_assoc] at h
      obtain ⟨hchar, htail⟩ := escapeChar_cancel h
      obtain ⟨htext, hrest⟩ := ih htail
      exact ⟨by rw [hchar, htext], hrest⟩

/-- **A text is told from every other by its JSON**, whatever follows. -/
theorem text_cancel {s t : String} {rest more : List Char}
    (h : (text s).toList ++ rest = (text t).toList ++ more) : s = t ∧ rest = more := by
  rw [text, text, String.toList_ofList, String.toList_ofList, List.cons_append, List.cons_append,
    List.append_assoc, List.append_assoc] at h
  obtain ⟨htext, hrest⟩ := escaped_cancel (List.cons.inj h).2
  exact ⟨String.toList_inj.mp htext, hrest⟩

/-! ## Mappings from texts to texts -/

/-- A mapping from texts to texts among the values. -/
def textMapping (pairs : List (String × String)) : Value :=
  .dict (pairs.map fun pair => (.str pair.1, .str pair.2))

/-- A member of such a mapping as JSON. -/
def memberText (pair : String × String) : String :=
  text pair.1 ++ ": " ++ text pair.2

theorem writeEntries_texts (pairs : List (String × String)) :
    writeEntries (pairs.map fun pair => (.str pair.1, .str pair.2))
      = .ok (pairs.map memberText) := by
  induction pairs with
  | nil => rfl
  | cons pair rest ih =>
    rw [List.map_cons, writeEntries, ih]
    rfl

/-- A mapping from texts to texts can always be written. -/
theorem write_textMapping (pairs : List (String × String)) :
    write (textMapping pairs)
      = .ok ("\x7b" ++ ", ".intercalate (pairs.map memberText) ++ "\x7d") := by
  rw [textMapping, write, writeEntries_texts]
  rfl

theorem memberText_cancel {pair other : String × String} {rest more : List Char}
    (h : (memberText pair).toList ++ rest = (memberText other).toList ++ more) :
    pair = other ∧ rest = more := by
  rw [memberText, memberText] at h
  simp only [String.toList_append, List.append_assoc] at h
  obtain ⟨hkey, hvalue⟩ := text_cancel h
  obtain ⟨hvalue, hrest⟩ := text_cancel (List.append_cancel_left hvalue)
  exact ⟨Prod.ext hkey hvalue, hrest⟩

/-- What stands behind the first member of a mapping. -/
def behindFirst (rest : List (String × String)) : List Char :=
  rest.flatMap (fun pair => ',' :: ' ' :: (memberText pair).toList) ++ ['\x7d']

theorem behindFirst_cons (pair : String × String) (rest : List (String × String)) :
    behindFirst (pair :: rest) = ',' :: ' ' :: ((memberText pair).toList ++ behindFirst rest) := by
  rw [behindFirst, List.flatMap_cons, List.append_assoc]
  rfl

theorem intercalate_members (pair : String × String) (rest : List (String × String)) :
    (", ".intercalate ((pair :: rest).map memberText) ++ "\x7d").toList
      = (memberText pair).toList ++ behindFirst rest := by
  have hcomma : ", ".toList = [',', ' '] := by decide
  have hclose : "\x7d".toList = ['\x7d'] := by decide
  rw [String.toList_append, String.toList_intercalate, List.map_map, hcomma, hclose]
  induction rest generalizing pair with
  | nil =>
    rw [List.map_singleton, List.intercalate_singleton, behindFirst, List.flatMap_nil,
      List.nil_append, Function.comp_apply]
  | cons next rest ih =>
    rw [List.map_cons, List.map_cons, List.intercalate_cons_cons, List.append_assoc,
      List.append_assoc, ← List.map_cons, ih, behindFirst_cons, Function.comp_apply,
      List.cons_append, List.singleton_append]

theorem behindFirst_inj {rest : List (String × String)} :
    ∀ {others : List (String × String)}, behindFirst rest = behindFirst others → rest = others := by
  induction rest with
  | nil =>
    intro others h
    cases others with
    | nil => rfl
    | cons other others =>
      rw [behindFirst_cons] at h
      cases h
  | cons pair rest ih =>
    intro others h
    cases others with
    | nil =>
      rw [behindFirst_cons] at h
      cases h
    | cons other others =>
      rw [behindFirst_cons, behindFirst_cons] at h
      obtain ⟨hpair, hrest⟩ := memberText_cancel (List.cons.inj (List.cons.inj h).2).2
      rw [hpair, ih hrest]

theorem memberText_ne (pair : String × String) (rest more : List Char) :
    (memberText pair).toList ++ rest ≠ '\x7d' :: more := by
  intro h
  rw [memberText, text] at h
  simp at h

/-- **Mappings from texts to texts are told apart by their JSON.** -/
theorem write_textMapping_inj {pairs others : List (String × String)}
    (h : write (textMapping pairs) = write (textMapping others)) : pairs = others := by
  rw [write_textMapping, write_textMapping, Except.ok.injEq, String.append_assoc,
    String.append_assoc, String.append_right_inj] at h
  have h := congrArg String.toList h
  -- an empty mapping closes at once, and no member begins with the brace that closes
  cases pairs with
  | nil =>
    cases others with
    | nil => rfl
    | cons other others =>
      rw [intercalate_members] at h
      exact absurd h.symm (memberText_ne other _ _)
  | cons pair rest =>
    cases others with
    | nil =>
      rw [intercalate_members] at h
      exact absurd h (memberText_ne pair _ _)
    | cons other others =>
      rw [intercalate_members, intercalate_members] at h
      obtain ⟨hpair, hrest⟩ := memberText_cancel h
      rw [hpair, behindFirst_inj hrest]

end WebRouter.Json
