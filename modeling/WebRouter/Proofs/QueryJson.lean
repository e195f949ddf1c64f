import WebRouter.Json
import WebRouter.Proofs.LastWriter
import WebRouter.Proofs.ScalarReading

/-!
# Every query can be written as JSON

Not every value can: a key must not be a structure, and a number must not have more digits than
may be written. The keys of a query are texts. Its values were read from the texts that stand in the
query string (`Query.mem_leaves_parse`), a number from a text at least as long as its numeral
(`Number.length_natText_numberOf`), and nothing that is too long is read as a number.

> `Query.exists_write_parse`: a query that was read can be written as JSON.
-/

namespace WebRouter.Query

/-! ## The assignments that stand -/

/-- The assignments of a query string as they are written. -/
def written (raw : String) : List (List String × String) :=
  (pairs raw).map fun pair => (place pair.1, pair.2)

theorem standing_map {κ α β : Type} [DecidableEq κ] (f : α → β) (given : List (List κ × α)) :
    standing (given.map fun a => (a.1, f a.2)) = (standing given).map fun a => (a.1, f a.2) := by
  induction given with
  | nil => rfl
  | cons a later ih =>
    have hlater : (∃ b ∈ later.map fun a => (a.1, f a.2), Overlaps a.1 b.1)
        ↔ ∃ b ∈ later, Overlaps a.1 b.1 := by
      simp only [List.mem_map, exists_exists_and_eq_and]
    rw [List.map_cons, standing, standing, ih]
    by_cases h : ∃ b ∈ later, Overlaps a.1 b.1
    · rw [if_pos h, if_pos (hlater.mpr h)]
    · rw [if_neg h, if_neg fun hmap => h (hlater.mp hmap), List.map_cons]

/-- The leaves of a query were read from the texts that stand. -/
theorem mem_leaves_parse {raw : String} {path : List String} {value : Scalar} :
    (path, value) ∈ leaves (parse raw)
      ↔ ∃ text, (path, text) ∈ standing (written raw) ∧ Scalar.ofText text = value := by
  have hperm := leaves_storeAll (f := []) trivial (assignments_paths raw)
  have hread : assignments raw = (written raw).map fun a => (a.1, Scalar.ofText a.2) := by
    rw [written, List.map_map]
    rfl
  rw [← parse_eq_storeAll] at hperm
  rw [hperm.mem_iff]
  show (path, value) ∈ standing (assignments raw) ↔ _
  rw [hread, standing_map, List.mem_map]
  constructor
  · rintro ⟨⟨_, text⟩, h, hvalue⟩
    cases hvalue
    exact ⟨text, h, rfl⟩
  · rintro ⟨text, h, rfl⟩
    exact ⟨(path, text), h, rfl⟩

/-! ## Values that can be written -/

/-- A value whose numeral, if it is a number, is not too long to be written. -/
def Scalar.Short : Scalar → Prop
  | int n => (Number.natText n).length ≤ Number.maxDigits
  | _ => True

/-- Every value that is read is one. -/
theorem Scalar.short_ofText (text : String) : (ofText text).Short := by
  have hdenotes := ofText_eq_iff.mp (rfl : ofText text = ofText text)
  generalize ofText text = value, text.toList = text at hdenotes
  cases hdenotes with
  | itself => exact trivial
  | shaped hgives =>
    cases hgives with
    | quoted | yes | no | float => exact trivial
    | int hdigits hlength =>
      exact Nat.le_trans (Number.length_natText_numberOf hdigits) hlength

mutual

/-- A tree whose values can be written can be written. -/
theorem exists_write_valueOfTree : ∀ t : Tree String Scalar, (∀ leaf ∈ t.leaves, leaf.2.Short) →
    ∃ text, Json.write (valueOfTree t) = .ok text
  | .leaf value, h => by
    have hshort : value.Short := h _ (List.mem_singleton.mpr rfl)
    cases value with
    | bool b => exact ⟨_, rfl⟩
    | int n =>
      have hlength : (Number.natText n).length ≤ Number.maxDigits := hshort
      refine ⟨String.ofList (Number.intText n), ?_⟩
      show (if (Number.natText n).length ≤ Number.maxDigits then _ else _) = _
      rw [if_pos hlength]
    | float x => exact ⟨_, rfl⟩
    | str s => exact ⟨_, rfl⟩
  | .branch children, h => by
    obtain ⟨texts, htexts⟩ := exists_writeEntries children h
    rw [valueOfTree, Json.write, htexts]
    exact ⟨_, rfl⟩

/-- The entries of a mapping whose values can be written can be written. -/
theorem exists_writeEntries : ∀ q : Query, (∀ leaf ∈ leaves q, leaf.2.Short) →
    ∃ texts, Json.writeEntries (entriesOfForest q) = .ok texts
  | [], _ => ⟨[], rfl⟩
  | (key, t) :: rest, h => by
    have ht : ∀ leaf ∈ t.leaves, leaf.2.Short := fun leaf hleaf =>
      h (key :: leaf.1, leaf.2) (List.mem_append_left _ (List.mem_map.mpr ⟨leaf, hleaf, rfl⟩))
    have hrest : ∀ leaf ∈ leaves rest, leaf.2.Short := fun leaf hleaf =>
      h leaf (List.mem_append_right _ hleaf)
    obtain ⟨text, htext⟩ := exists_write_valueOfTree t ht
    obtain ⟨texts, htexts⟩ := exists_writeEntries rest hrest
    rw [entriesOfForest, Json.writeEntries, htext, htexts]
    exact ⟨_, rfl⟩

end

/-- Everything in a query that was read was read from a text. -/
theorem short_parse {raw : String} {leaf : List String × Scalar} (h : leaf ∈ leaves (parse raw)) :
    leaf.2.Short := by
  obtain ⟨text, -, hread⟩ := mem_leaves_parse.mp h
  rw [← hread]
  exact Scalar.short_ofText text

/-- **Every query that was read can be written as JSON.** -/
theorem exists_write_parse (raw : String) :
    ∃ text, Json.write (toValue (parse raw)) = .ok text := by
  obtain ⟨texts, htexts⟩ := exists_writeEntries (parse raw) fun _ hleaf => short_parse hleaf
  rw [toValue, Json.write, htexts]
  exact ⟨_, rfl⟩

end WebRouter.Query
