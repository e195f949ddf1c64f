import WebRouter.Proofs.Utf8RoundTrip
import WebRouter.Text.CodePoints
import WebRouter.Text.Percent

/-!
# A percent-encoded text reads as that text

Every byte is spelt either as one unreserved character or as `%` and two digits,
and read back from either, whatever comes after it (`unescape_encodeByte`). All
that is written is ASCII, so that nothing cuts a run short and a text is read in
one piece:

> `decode_encode`: what a percent-encoded text spells is the text.

Nothing in it but unreserved characters and `%` (`isWritten_of_mem_encode`) is
what lets it stand between separators.
-/

namespace WebRouter.Text.Percent

theorem hexValue?_hexDigit : ∀ n : Nat, n < 16 → hexValue? (hexDigit n) = some n := by
  decide

/-- The characters that an encoded text is made of. -/
def isWritten (c : Char) : Bool :=
  isUnreserved c || c == '%'

theorem isUnreserved_hexDigit : ∀ n : Nat, n < 16 → isUnreserved (hexDigit n) = true := by
  decide

theorem toNat_charOf (b : UInt8) : (Latin1.charOf b).toNat = b.toNat := by
  have hb : b.toNat < 256 := UInt8.toNat_lt b
  exact toNat_ofNat (by omega)

/-- Unreserved characters are ASCII. -/
theorem toNat_lt_of_isUnreserved {c : Char} (h : isUnreserved c = true) : c.toNat < 128 := by
  simp only [isUnreserved, Bool.or_eq_true, beq_iff_eq] at h
  rcases h with (((h | rfl) | rfl) | rfl) | rfl
  · exact toNat_lt_of_isAlphanum h
  all_goals decide

theorem unescape_cons_of_ne {c : Char} (h : c ≠ '%') (rest : List Char) :
    unescape (c :: rest) = Utf8.byte c.toNat :: unescape rest := by
  rw [unescape]
  intro a b more hc
  exact absurd hc h

/-- A byte is read back from its spelling, whatever follows. -/
theorem unescape_encodeByte (b : UInt8) (rest : List Char) :
    unescape (encodeByte b ++ rest) = b :: unescape rest := by
  have hb : b.toNat < 256 := UInt8.toNat_lt b
  unfold encodeByte
  split
  · next h =>
    -- a character that is written as itself is not taken for the start of an escape
    have hne : Latin1.charOf b ≠ '%' := by
      intro he
      rw [he] at h
      exact absurd h (by decide)
    rw [List.singleton_append, unescape_cons_of_ne hne, toNat_charOf]
    exact congrArg (· :: unescape rest) UInt8.ofNat_toNat
  · have hvalue : 16 * (b.toNat / 16) + b.toNat % 16 = b.toNat := Nat.div_add_mod _ _
    rw [List.cons_append, List.cons_append, List.cons_append, List.nil_append, unescape,
      hexValue?_hexDigit _ (by omega), hexValue?_hexDigit _ (by omega)]
    show Utf8.byte (16 * (b.toNat / 16) + b.toNat % 16) :: unescape rest = _
    rw [hvalue]
    exact congrArg (· :: unescape rest) UInt8.ofNat_toNat

/-- A byte string is read back from its spelling. -/
theorem unescape_encodeBytes (bytes : Bytes) : unescape (encodeBytes bytes) = bytes := by
  induction bytes with
  | nil => rfl
  | cons b rest ih =>
    show unescape (encodeByte b ++ encodeBytes rest) = _
    rw [unescape_encodeByte, ih]

theorem isWritten_of_mem_encodeByte {b : UInt8} {c : Char} (h : c ∈ encodeByte b) :
    isWritten c = true := by
  have hb : b.toNat < 256 := UInt8.toNat_lt b
  have hdigit : ∀ n : Nat, n < 16 → isWritten (hexDigit n) = true := fun n hn =>
    Bool.or_eq_true_iff.mpr (Or.inl (isUnreserved_hexDigit n hn))
  unfold encodeByte at h
  split at h
  · next hu =>
    rw [List.mem_singleton.mp h]
    exact Bool.or_eq_true_iff.mpr (Or.inl hu)
  · rcases List.mem_cons.mp h with rfl | h
    · rfl
    · rcases List.mem_cons.mp h with rfl | h
      · exact hdigit _ (by omega)
      · rw [List.mem_singleton.mp h]
        exact hdigit _ (by omega)

/-- An encoded text is made of unreserved characters and `%`. -/
theorem isWritten_of_mem_encode {text : List Char} {c : Char} (h : c ∈ encode text) :
    isWritten c = true := by
  obtain ⟨b, -, hc⟩ := List.mem_flatMap.mp h
  exact isWritten_of_mem_encodeByte hc

/-- No other character stands in an encoded text. -/
theorem not_mem_encode {c : Char} (h : isWritten c = false) (text : List Char) :
    c ∉ encode text := by
  intro hc
  rw [isWritten_of_mem_encode hc] at h
  cases h

theorem toNat_lt_of_isWritten {c : Char} (h : isWritten c = true) : c.toNat < 128 := by
  rcases Bool.or_eq_true_iff.mp h with hu | hp
  · exact toNat_lt_of_isUnreserved hu
  · rw [beq_iff_eq.mp hp]
    decide

/-- ASCII text is read in one run. -/
theorem decodeFrom_of_ascii {text : List Char} (h : ∀ c ∈ text, c.toNat < 128)
    (run : List Char) : decodeFrom run text = decodeRun (run.reverse ++ text) := by
  induction text generalizing run with
  | nil => rw [decodeFrom, List.append_nil]
  | cons c rest ih =>
    obtain ⟨hc, hrest⟩ := List.forall_mem_cons.mp h
    rw [decodeFrom, if_pos hc, ih hrest, List.reverse_cons, List.append_assoc,
      List.singleton_append]

/-- **A percent-encoded text reads as that text.** -/
theorem decode_encode (text : List Char) : decode (encode text) = text := by
  have hascii : ∀ c ∈ encode text, c.toNat < 128 := fun c hc =>
    toNat_lt_of_isWritten (isWritten_of_mem_encode hc)
  rw [decode, decodeFrom_of_ascii hascii, List.reverse_nil, List.nil_append, decodeRun, encode,
    unescape_encodeBytes, Utf8.decodeReplacing_encode]

end WebRouter.Text.Percent
