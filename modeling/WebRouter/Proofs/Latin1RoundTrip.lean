import WebRouter.Proofs.Sending

/-!
# Bytes that stand for characters read as those characters

A text goes over the wire with one byte for a character if each of its characters has one
(`Fits`). Nothing is lost on the way: the byte of a character is read as that character
(`charOf_ofNat`), so that

> `decode_bytesOf`: the bytes of a text that fits are read as that text,

and two texts that fit have the same bytes only if they are the same (`bytesOf_eq_iff`). The
second part says which texts fit: those put together of texts that fit, the two halves that
such a text is cut into, and everything percent-encoded.
-/

namespace WebRouter.Text.Latin1

/-! ## What is read is what was written -/

theorem charOf_ofNat {c : Char} (h : c.toNat < 256) : charOf (UInt8.ofNat c.toNat) = c := by
  have hbyte : (UInt8.ofNat c.toNat).toNat = c.toNat := UInt8.toNat_ofNat_of_lt' h
  rw [charOf, hbyte]
  exact Char.ofNat_toNat c

/-- **The bytes of a text that fits are read as that text.** -/
theorem decode_bytesOf {text : String} (h : Fits text) : decode (bytesOf text) = text := by
  have hchars : (text.toList.map fun c => UInt8.ofNat c.toNat).map charOf = text.toList := by
    rw [List.map_map]
    refine (List.map_congr_left fun c hc => ?_).trans (List.map_id _)
    show charOf (UInt8.ofNat c.toNat) = c
    exact charOf_ofNat (h c hc)
  rw [decode, bytesOf, hchars, String.ofList_toList]

/-- Texts that fit are told apart by their bytes. -/
theorem bytesOf_eq_iff {text other : String} (h : Fits text) (h' : Fits other) :
    bytesOf text = bytesOf other ↔ text = other := by
  constructor
  · intro hbytes
    rw [← decode_bytesOf h, hbytes, decode_bytesOf h']
  · intro he
    rw [he]

/-! ## Texts that fit -/

theorem fits_ofList {chars : List Char} :
    Fits (String.ofList chars) ↔ ∀ c ∈ chars, c.toNat < 256 := by
  rw [Fits, String.toList_ofList]

theorem fits_append {text more : String} : Fits (text ++ more) ↔ Fits text ∧ Fits more := by
  simp only [Fits, String.toList_append, List.mem_append, or_imp, forall_and]

/-- Both halves of a text that fits do. -/
theorem fits_cut {text : String} (h : Fits text) (sep : Char) :
    Fits (cut sep text).1 ∧ Fits (cut sep text).2 := by
  constructor
  · refine fits_ofList.mpr fun c hc => h c ?_
    exact (List.takeWhile_prefix _).subset hc
  · refine fits_ofList.mpr fun c hc => h c ?_
    exact (List.dropWhile_suffix _).subset (List.mem_of_mem_tail hc)

theorem fits_of_ascii {text : String} (h : ∀ c ∈ text.toList, c.toNat < 128) : Fits text := by
  intro c hc
  have := h c hc
  omega

end WebRouter.Text.Latin1
