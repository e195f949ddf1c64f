import WebRouter.Text.Case

/-!
# A name in lower case is its own lower case

The table of lower-case letters is made of runs, each of which sends its letters the same
distance further. Of the letters that have one byte, none arrives where another one, or the
same, is sent off again (`spares_lowerRuns`, read off the table run by run, and not letter by
letter). So if all that stands in the lower case of a text has one byte, as it has in the name
of a header, it is left alone by lowering it once more, wherever it stands:

> `lower_lower`: the lower case of such a lower case is that lower case.

This is why a name can be compared in lower case after it has been sent in lower case.
-/

namespace WebRouter.Text

/-! ## Where the runs of the table lead -/

namespace ShiftRun

/-- Where the first letter of a run is sent. -/
def lowest (run : ShiftRun) : Nat :=
  (Int.ofNat run.first + run.shift).toNat

/-- Where the last letter of a run is sent at most. -/
def highest (run : ShiftRun) : Nat :=
  (Int.ofNat run.last + run.shift).toNat

/-- Whether a run sends no letter to where another one sends its letters off: the two stretches
are apart, or they lie in step and every letter arrives between two of the other run. -/
def spares (run other : ShiftRun) : Bool :=
  Nat.blt other.last run.lowest || Nat.blt run.highest other.first
    || (other.stride == 2 && (run.stride == 2 || run.first == run.last)
      && (run.lowest + other.first) % 2 == 1)

variable {run other : ShiftRun} {n : Nat}

theorem contains_iff :
    run.contains n = true ↔
      run.first ≤ n ∧ n ≤ run.last ∧ (n - run.first) % run.stride = 0 := by
  simp [contains, and_assoc]

/-- No letter that arrives from a run is sent off by a run that it spares. -/
theorem not_contains_of_spares (hsent : 0 ≤ (run.first : Int) + run.shift)
    (hspares : run.spares other = true) (h : run.contains n = true) :
    ¬ other.contains (Int.ofNat n + run.shift).toNat = true := by
  intro hother
  rw [contains_iff] at h hother
  obtain ⟨hfirst, hlast, hstep⟩ := h
  obtain ⟨hfirst', hlast', hstep'⟩ := hother
  simp only [spares, lowest, highest, Bool.or_eq_true, Nat.blt_eq, Bool.and_eq_true,
    beq_iff_eq, Int.ofNat_eq_natCast] at hspares hfirst' hlast' hstep'
  rcases hspares with (hbelow | habove) | ⟨⟨hother, hrun | hrun⟩, hodd⟩
  · omega
  · omega
  · -- both go in steps of two, from firsts of different parity
    rw [hrun] at hstep
    rw [hother] at hstep'
    omega
  · -- there is one letter only
    rw [hother] at hstep'
    omega

end ShiftRun

/-- The letters that have another lower case: those of the table and the two that are not in
it. -/
def unlowered : List ShiftRun :=
  ⟨0x130, 0x130, 1, 0⟩ :: ⟨0x3A3, 0x3A3, 1, 0⟩ :: lowerRuns

theorem sent_lowerRuns : ∀ run ∈ lowerRuns, 0 ≤ (run.first : Int) + run.shift := by
  decide +kernel

/-- A run that sends a letter among the first 256 spares all runs. -/
theorem spares_lowerRuns {run : ShiftRun} (hrun : run ∈ lowerRuns) (hlow : run.lowest < 256)
    {other : ShiftRun} (hother : other ∈ unlowered) : run.spares other = true := by
  have hall : (lowerRuns.all fun run => Nat.ble 256 run.lowest || unlowered.all run.spares)
      = true := by
    decide +kernel
  rcases Bool.or_eq_true_iff.mp (List.all_eq_true.mp hall run hrun) with hhigh | hspares
  · have := Nat.le_of_ble_eq_true hhigh
    omega
  · exact List.all_eq_true.mp hspares other hother

/-- No letter of ASCII but the capitals, and nothing up to the next capital, is in a run. -/
theorem apart_unlowered {run : ShiftRun} (hrun : run ∈ unlowered) :
    (0x41 ≤ run.first ∧ run.last ≤ 0x5a) ∨ 0xc0 ≤ run.first := by
  have hall : (unlowered.all fun run =>
      (Nat.ble 0x41 run.first && Nat.ble run.last 0x5a) || Nat.ble 0xc0 run.first) = true := by
    decide +kernel
  have happly := List.all_eq_true.mp hall run hrun
  simpa using happly

/-! ## Characters that are their own lower case -/

/-- A character that lowering leaves alone, wherever it stands. -/
structure IsLower (c : Char) : Prop where
  unsent : shifted? lowerRuns c.toNat = none
  ne_dotted : c ≠ 'İ'
  ne_sigma : c ≠ 'Σ'

theorem lowerChar_of_isLower {c : Char} (h : IsLower c) : lowerChar c = [c] := by
  rw [lowerChar, if_neg h.ne_dotted, h.unsent]

/-- A character whose code point no run holds is its own lower case. -/
theorem isLower_of_unlowered {c : Char} (h : ∀ run ∈ unlowered, ¬ run.contains c.toNat = true) :
    IsLower c := by
  have htable : ∀ run ∈ lowerRuns, ¬ run.contains c.toNat = true := fun run hrun =>
    h run (List.mem_cons_of_mem _ (List.mem_cons_of_mem _ hrun))
  refine ⟨?_, ?_, ?_⟩
  · rw [shifted?, List.find?_eq_none.mpr htable]
    rfl
  · intro hc
    exact h _ List.mem_cons_self (by rw [hc]; decide)
  · intro hc
    exact h _ (List.mem_cons_of_mem _ List.mem_cons_self) (by rw [hc]; decide)

/-- Small letters of ASCII, digits and signs are their own lower case. -/
theorem isLower_of_ascii {c : Char} (h : c.toNat < 0x41 ∨ 0x5a < c.toNat ∧ c.toNat < 0xc0) :
    IsLower c := by
  apply isLower_of_unlowered
  intro run hrun hcontains
  obtain ⟨hfirst, hlast, -⟩ := ShiftRun.contains_iff.mp hcontains
  rcases apart_unlowered hrun with hcapital | hbeyond
  · omega
  · omega

/-- Where a letter of the table is sent, it stays, if that is among the first 256. -/
theorem isLower_of_shifted {n m : Nat} (h : shifted? lowerRuns n = some m) (hm : m < 256) :
    IsLower (Char.ofNat m) := by
  obtain ⟨run, hfind, harrives⟩ := Option.map_eq_some_iff.mp h
  have hrun : run ∈ lowerRuns := List.mem_of_find?_eq_some hfind
  have hcontains : run.contains n = true := by simpa using List.find?_some hfind
  have hlow : run.lowest < 256 := by
    have hfirst := (ShiftRun.contains_iff.mp hcontains).1
    rw [ShiftRun.lowest, Int.ofNat_eq_natCast]
    rw [Int.ofNat_eq_natCast] at harrives
    omega
  apply isLower_of_unlowered
  intro other hother
  rw [toNat_ofNat (by omega), ← harrives]
  exact ShiftRun.not_contains_of_spares (sent_lowerRuns run hrun)
    (spares_lowerRuns hrun hlow hother) hcontains

theorem isLower_of_mem_lowerChar {c d : Char} (hc : c ≠ 'Σ') (h : d ∈ lowerChar c)
    (hd : d.toNat < 256) : IsLower d := by
  unfold lowerChar at h
  split at h
  · rcases List.mem_cons.mp h with hdot | hdot
    · rw [hdot]
      exact isLower_of_ascii (by decide)
    · rw [List.mem_singleton.mp hdot] at hd
      exact absurd hd (by decide)
  · next hdotted =>
    split at h
    · next m hm =>
      rw [List.mem_singleton.mp h] at hd ⊢
      by_cases hvalid : m.isValidChar
      · have hcode : (Char.ofNat m).toNat = m := by
          rw [Char.ofNat, dif_pos hvalid]
          rfl
        rw [hcode] at hd
        exact isLower_of_shifted hm hd
      · -- a number that is no code point stands for U+0000
        have hcode : (Char.ofNat m).toNat = 0 := by
          rw [Char.ofNat, dif_neg hvalid]
          rfl
        apply isLower_of_ascii
        rw [hcode]
        decide
    · next hnone =>
      rw [List.mem_singleton.mp h]
      exact ⟨hnone, hdotted, hc⟩

/-! ## Texts -/

theorem isLower_of_mem_lowerFrom {text : List Char} :
    ∀ {back : List Char} {d : Char}, d ∈ lowerFrom back text → d.toNat < 256 → IsLower d := by
  induction text with
  | nil => intro back d h; exact absurd h List.not_mem_nil
  | cons c rest ih =>
    intro back d h hd
    rw [lowerFrom] at h
    rcases List.mem_append.mp h with hfirst | hrest
    · by_cases hc : c = 'Σ'
      · -- neither small sigma has one byte
        rw [if_pos hc] at hfirst
        rw [List.mem_singleton.mp hfirst] at hd
        split at hd
        · exact absurd hd (by decide)
        · exact absurd hd (by decide)
      · rw [if_neg hc] at hfirst
        exact isLower_of_mem_lowerChar hc hfirst hd
    · exact ih hrest hd

/-- A text of such characters is its own lower case, whatever it follows. -/
theorem lowerFrom_of_isLower {text : List Char} (h : ∀ c ∈ text, IsLower c) :
    ∀ back, lowerFrom back text = text := by
  induction text with
  | nil => intro back; rfl
  | cons c rest ih =>
    intro back
    obtain ⟨hc, hrest⟩ := List.forall_mem_cons.mp h
    rw [lowerFrom, if_neg hc.ne_sigma, lowerChar_of_isLower hc, ih hrest]
    rfl

theorem lower_of_isLower {text : String} (h : ∀ c ∈ text.toList, IsLower c) :
    lower text = text := by
  rw [lower, lowerFrom_of_isLower h, String.ofList_toList]

/-- A text of characters before U+00C0 without the capitals of ASCII is its own lower case. -/
theorem lower_of_ascii {text : String}
    (h : (text.toList.all fun c =>
      Nat.blt c.toNat 0x41 || Nat.blt 0x5a c.toNat && Nat.blt c.toNat 0xc0) = true) :
    lower text = text := by
  apply lower_of_isLower
  intro c hc
  have hchar := List.all_eq_true.mp h c hc
  apply isLower_of_ascii
  simpa using hchar

/-- **A text in lower case whose characters have one byte is its own lower case.** -/
theorem lower_lower {text : String} (h : ∀ c ∈ (lower text).toList, c.toNat < 256) :
    lower (lower text) = lower text := by
  apply lower_of_isLower
  intro c hc
  have hbyte := h c hc
  rw [lower, String.toList_ofList] at hc
  exact isLower_of_mem_lowerFrom hc hbyte

end WebRouter.Text
