import WebRouter.Text.Utf8

/-!
# UTF-8 bytes of a text read as that text

A character is written as a lead byte, which holds its highest bits, and as many
further bytes as the lead byte announces, with six bits each. `start_two`,
`start_three` and `start_four` say which sequence a lead byte opens and that the
byte written next lies in the range it is given; the first of these ranges are
where a shorter form, a surrogate or a number past the last code point would
lie, and no character is written there. So `scan` takes the bytes of a character
for that character whatever comes after them (`scan_encodeChar`), and
`decodeReplacing` has nothing to replace (`decodeReplacing_encode`).
-/

namespace WebRouter.Text.Utf8

theorem toNat_byte {n : Nat} (h : n < 256) : (byte n).toNat = n :=
  UInt8.toNat_ofNat_of_lt' h

/-- Scanning goes on from where one byte leads. -/
theorem scan_cons (pending : Option Pending) (b : UInt8) (rest : Bytes) :
    scan pending (b :: rest) = (step pending b.toNat).1 ++ scan (step pending b.toNat).2 rest := by
  cases pending <;> rfl

/-- A lead byte opens the sequence that it announces. -/
theorem scan_start {n : Nat} (hn : n < 256) {p : Pending} (h : start n = ([], some p))
    (rest : Bytes) : scan none (byte n :: rest) = scan (some p) rest := by
  rw [scan_cons, toNat_byte hn, step, h]
  rfl

/-- A byte in range that is not the last one. -/
theorem scan_more {count low high : Nat} (hcount : 1 < count) {n : Nat}
    (hlow : low ≤ 0x80 + n % 64) (hhigh : 0x80 + n % 64 ≤ high) (bits : Nat) (rest : Bytes) :
    scan (some ⟨count, low, high, bits⟩) (byte (0x80 + n % 64) :: rest)
      = scan (some ⟨count - 1, 0x80, 0xBF, bits * 64 + n % 64⟩) rest := by
  have hbits : (0x80 + n % 64) % 64 = n % 64 := by omega
  rw [scan_cons, toNat_byte (by omega), step, if_pos ⟨hlow, hhigh⟩, if_neg (Nat.not_le.mpr hcount),
    hbits]
  rfl

/-- The last byte, which is an ordinary one. -/
theorem scan_last (bits n : Nat) (rest : Bytes) :
    scan (some ⟨1, 0x80, 0xBF, bits⟩) (byte (0x80 + n % 64) :: rest)
      = some (Char.ofNat (bits * 64 + n % 64)) :: scan none rest := by
  have hlow : 0x80 ≤ 0x80 + n % 64 := Nat.le_add_right _ _
  have hhigh : 0x80 + n % 64 ≤ 0xBF := by omega
  have hbits : (0x80 + n % 64) % 64 = n % 64 := by omega
  rw [scan_cons, toNat_byte (by omega), step, if_pos ⟨hlow, hhigh⟩, if_pos (Nat.le_refl 1), hbits]
  rfl

/-! ## Lead bytes -/

theorem start_one {n : Nat} (h : n < 0x80) : start n = ([some (Char.ofNat n)], none) := by
  rw [start, if_pos h]

theorem start_two {n : Nat} (hmin : 0x80 ≤ n) (hmax : n < 0x800) :
    start (0xC0 + n / 64) = ([], some ⟨1, 0x80, 0xBF, n / 64⟩) := by
  rw [start, if_neg (by omega), if_neg (by omega), if_pos (by omega), Nat.add_sub_cancel_left]

theorem start_three {n : Nat} (hmin : 0x800 ≤ n) (hmax : n < 0x10000)
    (hvalid : n < 0xD800 ∨ 0xDFFF < n) :
    ∃ low high, start (0xE0 + n / 4096) = ([], some ⟨2, low, high, n / 4096⟩)
      ∧ low ≤ 0x80 + n / 64 % 64 ∧ 0x80 + n / 64 % 64 ≤ high := by
  have hnot : ¬ 0xE0 + n / 4096 < 0x80 ∧ ¬ 0xE0 + n / 4096 < 0xC2 ∧ ¬ 0xE0 + n / 4096 < 0xE0 := by
    omega
  rw [start, if_neg hnot.1, if_neg hnot.2.1, if_neg hnot.2.2]
  by_cases hzero : n / 4096 = 0
  · rw [hzero, if_pos rfl]
    exact ⟨0xA0, 0xBF, rfl, by omega, by omega⟩
  · rw [if_neg (by omega)]
    by_cases hsurrogate : n / 4096 = 13
    · rw [hsurrogate, if_pos rfl]
      exact ⟨0x80, 0x9F, rfl, by omega, by omega⟩
    · rw [if_neg (by omega), if_pos (by omega), Nat.add_sub_cancel_left]
      exact ⟨0x80, 0xBF, rfl, by omega, by omega⟩

theorem start_four {n : Nat} (hmin : 0x10000 ≤ n) (hmax : n < 0x110000) :
    ∃ low high, start (0xF0 + n / 262144) = ([], some ⟨3, low, high, n / 262144⟩)
      ∧ low ≤ 0x80 + n / 4096 % 64 ∧ 0x80 + n / 4096 % 64 ≤ high := by
  have hnot : ¬ 0xF0 + n / 262144 < 0x80 ∧ ¬ 0xF0 + n / 262144 < 0xC2
      ∧ ¬ 0xF0 + n / 262144 < 0xE0 ∧ ¬ 0xF0 + n / 262144 = 0xE0
      ∧ ¬ 0xF0 + n / 262144 = 0xED ∧ ¬ 0xF0 + n / 262144 < 0xF0 := by
    omega
  rw [start, if_neg hnot.1, if_neg hnot.2.1, if_neg hnot.2.2.1, if_neg hnot.2.2.2.1,
    if_neg hnot.2.2.2.2.1, if_neg hnot.2.2.2.2.2]
  by_cases hzero : n / 262144 = 0
  · rw [hzero, if_pos rfl]
    exact ⟨0x90, 0xBF, rfl, by omega, by omega⟩
  · rw [if_neg (by omega)]
    by_cases hlast : n / 262144 = 4
    · rw [hlast, if_neg (by decide), if_pos rfl]
      exact ⟨0x80, 0x8F, rfl, by omega, by omega⟩
    · rw [if_pos (by omega), Nat.add_sub_cancel_left]
      exact ⟨0x80, 0xBF, rfl, by omega, by omega⟩

/-! ## Characters and texts -/

/-- The bytes of a character are taken for that character, whatever follows. -/
theorem scan_encodeChar (c : Char) (rest : Bytes) :
    scan none (encodeChar c ++ rest) = some c :: scan none rest := by
  have hvalid : c.toNat < 0xD800 ∨ 0xDFFF < c.toNat ∧ c.toNat < 0x110000 := c.valid
  have hc : Char.ofNat c.toNat = c := Char.ofNat_toNat c
  generalize hn : c.toNat = n at hvalid hc
  -- one case for each number of bytes, in which their bits add up to `n`
  unfold encodeChar
  rw [hn]
  dsimp only
  split
  · next h1 =>
    rw [List.singleton_append, scan_cons, toNat_byte (by omega), step, start_one h1, hc]
    rfl
  · split
    · next h1 h2 =>
      have hbits : n / 64 * 64 + n % 64 = n := Nat.div_add_mod' n 64
      rw [List.cons_append, List.singleton_append, scan_start (by omega) (start_two (by omega) h2),
        scan_last, hbits, hc]
    · split
      · next h1 h2 h3 =>
        obtain ⟨low, high, hstart, hlow, hhigh⟩ := start_three (by omega) h3 (by omega)
        have hbits : (n / 4096 * 64 + n / 64 % 64) * 64 + n % 64 = n := by omega
        rw [List.cons_append, List.cons_append, List.singleton_append,
          scan_start (by omega) hstart, scan_more (by decide) hlow hhigh, scan_last, hbits, hc]
      · next h1 h2 h3 =>
        obtain ⟨low, high, hstart, hlow, hhigh⟩ := start_four (n := n) (by omega) (by omega)
        have hbits : ((n / 262144 * 64 + n / 4096 % 64) * 64 + n / 64 % 64) * 64 + n % 64 = n := by
          omega
        rw [List.cons_append, List.cons_append, List.cons_append, List.singleton_append,
          scan_start (by omega) hstart, scan_more (by decide) hlow hhigh,
          scan_more (by decide) (by omega) (by omega), scan_last, hbits, hc]

/-- The bytes of a text are taken for its characters, none of them ill-formed. -/
theorem scan_encode (text : List Char) : scan none (encode text) = text.map some := by
  induction text with
  | nil => rfl
  | cons c rest ih =>
    show scan none (encodeChar c ++ encode rest) = _
    rw [scan_encodeChar, ih, List.map_cons]

/-- **The bytes of a text read as that text.** -/
theorem decodeReplacing_encode (text : List Char) : decodeReplacing (encode text) = text := by
  rw [decodeReplacing, scan_encode, List.map_map]
  exact List.map_id text

end WebRouter.Text.Utf8
