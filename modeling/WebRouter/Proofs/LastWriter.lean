import WebRouter.Proofs.Nested
import WebRouter.Query.Raw

/-!
# What a query string means: the last writer wins

A query string is a list of assignments, one to a token: the place that the key
names, which is a path for a bracketed key and a single name for any other, and
the value. A parsed query is what storing them one after the other gives
(`parse_eq_storeAll`), since a plain key takes the place of whatever stands there
just as the end of a path does. What it holds is then a fact about stores:

> `parse_last_writer`: the leaves of a parsed query are the assignments after
> which nothing was assigned on their way, no mapping in it is empty, and its
> keys stand in the order in which they were first named.
-/

namespace WebRouter

namespace Query

/-- The place that a key names: its path if it is bracketed, else itself. -/
def place (key : String) : List String :=
  (Key.parse? key).getD [key]

/-- The assignments of a query string, one to a token, in order. -/
def assignments (raw : String) : List (List String × Scalar) :=
  (pairs raw).map fun pair => (place pair.1, Scalar.ofText pair.2)

/-- A bracketed key names something. -/
theorem Key.parse?_ne_nil (key : String) : Key.parse? key ≠ some [] := by
  unfold Key.parse?
  split
  · intro h; cases h
  · dsimp only
    split
    · intro h; cases h
    · intro h
      obtain ⟨names, -, hn⟩ := Option.map_eq_some_iff.mp h
      exact List.cons_ne_nil _ _ hn

theorem place_ne_nil (key : String) : place key ≠ [] := by
  unfold place
  cases h : Key.parse? key with
  | none => exact List.cons_ne_nil _ _
  | some path =>
    intro hnil
    have hpath : path = [] := hnil
    exact Key.parse?_ne_nil key (hpath ▸ h)

/-- Storing one value, whatever its key looks like, is storing it at its place. -/
theorem assign_eq_storeAt (query : Query) (key : String) (value : Scalar) :
    assign query key value = storeAt query (place key) value := by
  have hplain : Ordered.put key (.leaf value) query = storeAt query [key] value := by
    rw [storeAt_cons, onto_replaces value (Or.inl rfl)]
    rfl
  unfold assign place
  cases h : Key.parse? key with
  | none => exact hplain
  | some path =>
    cases path with
    | nil => exact absurd h (Key.parse?_ne_nil key)
    | cons name names => rfl

/-- A parsed query is what storing the assignments one after the other gives. -/
theorem parse_eq_storeAll (raw : String) : parse raw = storeAll [] (assignments raw) := by
  unfold parse storeAll assignments
  rw [List.foldl_map]
  exact congrArg (fun step => (pairs raw).foldl step [])
    (funext fun query => funext fun pair => assign_eq_storeAt query pair.1 _)

theorem assignments_paths (raw : String) : ∀ a ∈ assignments raw, a.1 ≠ [] := by
  intro a ha
  obtain ⟨pair, -, rfl⟩ := List.mem_map.mp ha
  exact place_ne_nil pair.1

/-- **The last writer wins.** The leaves of a parsed query, each with all the keys
that lead to it, are the assignments that stand: those after which nothing was
assigned to the same place, above it or below it. No mapping inside is empty, and
the keys at the top stand in the order in which they were first named. -/
theorem parse_last_writer (raw : RawQuery) :
    (leaves raw.parse).Perm (standing (assignments raw.toText))
      ∧ Proper raw.parse
      ∧ raw.parse.map Prod.fst
        = ((assignments raw.toText).filterMap fun a => a.1.head?).eraseDups := by
  have hpaths := assignments_paths raw.toText
  have hempty : Proper ([] : Query) := trivial
  have hparse : raw.parse = storeAll [] (assignments raw.toText) := parse_eq_storeAll raw.toText
  rw [hparse]
  refine ⟨leaves_storeAll hempty hpaths, proper_storeAll hempty _, ?_⟩
  rw [keys_storeAll [] hpaths, List.map_nil, List.removeAll_nil]
  rfl

end Query

end WebRouter
