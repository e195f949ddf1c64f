import WebRouter.Proofs.KeyRoundTrip
import WebRouter.Proofs.LastWriter
import WebRouter.Proofs.PercentRoundTrip
import WebRouter.Proofs.ScalarRoundTrip
import WebRouter.Query.Write

/-!
# A written query string reads as the query

Writing a nested mapping makes a token of every leaf. Reading undoes it layer by
layer:

* no token holds `&`, and no part of it `=`, so that they are cut apart where they
  were joined, and each part decodes to what was encoded (`pairs_tokens`);
* the key of a leaf names the leaf's own path, and its value is read as it was
  written (`assignments_write`);
* storing the leaves of a mapping one after the other makes that mapping
  (`storeAll_leaves`).

> `parse_write`: a query that can be written is read from what is written.

The first step asks nothing of the query. `Writable` is what the second and the
third ask.
-/

namespace WebRouter

namespace Query

open Text (Percent.encode)

/-! ## Tokens -/

/-- The token of a key and a value. -/
def token (pair : String × String) : List Char :=
  Percent.encode pair.1.toList ++ '=' :: Percent.encode pair.2.toList

theorem amp_not_mem_token (pair : String × String) : '&' ∉ token pair := by
  intro h
  rcases List.mem_append.mp h with hkey | hvalue
  · exact Text.Percent.not_mem_encode (by decide) _ hkey
  · rcases List.mem_cons.mp hvalue with he | hvalue
    · exact absurd he (by decide)
    · exact Text.Percent.not_mem_encode (by decide) _ hvalue

/-- The key and the value of a token are read from it. -/
theorem decoded_token (pair : String × String) :
    (decoded (Text.before '=' (token pair)), decoded (Text.after '=' (token pair))) = pair := by
  have hkey : '=' ∉ Percent.encode pair.1.toList := Text.Percent.not_mem_encode (by decide) _
  rw [token, Text.before_append_cons hkey, Text.after_append_cons hkey, decoded, decoded,
    Text.Percent.decode_encode, Text.Percent.decode_encode, String.ofList_toList,
    String.ofList_toList]

/-- Keys and values are read from their tokens, whatever they hold. -/
theorem pairs_tokens (given : List (String × String)) :
    pairs (String.ofList (['&'].intercalate (given.map token))) = given := by
  have hamp : ∀ text ∈ given.map token, '&' ∉ text := by
    intro text htext
    obtain ⟨pair, -, rfl⟩ := List.mem_map.mp htext
    exact amp_not_mem_token pair
  have hfull : (given.map token).filter (!·.isEmpty) = given.map token := by
    refine List.filter_eq_self.mpr fun text htext => ?_
    obtain ⟨pair, -, rfl⟩ := List.mem_map.mp htext
    have hne : token pair ≠ [] := List.append_ne_nil_of_right_ne_nil _ (List.cons_ne_nil _ _)
    rw [List.isEmpty_eq_false_iff.mpr hne]
    rfl
  by_cases hgiven : given = []
  · rw [hgiven]
    rfl
  · have htokens : given.map token ≠ [] := fun h => hgiven (List.map_eq_nil_iff.mp h)
    rw [pairs, String.toList_ofList, Text.splitOn_intercalate htokens hamp, hfull, List.map_map]
    exact (List.map_congr_left fun pair _ => decoded_token pair).trans (List.map_id _)

/-- The keys and values of a written query string, whatever the query. -/
theorem pairs_write (q : Query) :
    pairs (write q)
      = (leaves q).map fun leaf => (Key.render leaf.1, String.ofList leaf.2.write) := by
  have htokens : (leaves q).map (fun leaf => writeToken leaf.1 leaf.2)
      = ((leaves q).map fun leaf => (Key.render leaf.1, String.ofList leaf.2.write)).map token := by
    rw [List.map_map]
    refine List.map_congr_left fun leaf _ => ?_
    show _ = Percent.encode (Key.render leaf.1).toList
      ++ '=' :: Percent.encode (String.ofList leaf.2.write).toList
    rw [String.toList_ofList, writeToken]
  rw [write, htokens, pairs_tokens]

/-! ## Queries that can be written -/

/-- A key that can stand at the top: a word if there is a mapping under it, and
otherwise anything but a bracketed key. -/
def Key.IsTop (key : String) : Tree String Scalar → Prop
  | .leaf _ => Key.parse? key = none
  | .branch _ => Key.IsWord key

instance (key : String) : (t : Tree String Scalar) → Decidable (Key.IsTop key t)
  | .leaf _ => inferInstanceAs (Decidable (Key.parse? key = none))
  | .branch _ => inferInstanceAs (Decidable (Key.IsWord key))

/-- The queries that can be written. No mapping in them is empty, so that every key
lies on the way to a leaf. -/
structure Writable (q : Query) : Prop where
  proper : Proper q
  top : ∀ entry ∈ q, Key.IsTop entry.1 entry.2
  nested : ∀ leaf ∈ leaves q, ∀ name ∈ leaf.1.tail, Key.IsName name
  values : ∀ leaf ∈ leaves q, leaf.2.Writable

/-- The key of a leaf names the leaf's path. -/
theorem Writable.place_render {q : Query} (h : Writable q) {leaf : List String × Scalar}
    (hleaf : leaf ∈ leaves q) : place (Key.render leaf.1) = leaf.1 := by
  obtain ⟨⟨key, t⟩, hentry, hunder⟩ := mem_leaves.mp hleaf
  obtain ⟨below, hbelow, rfl⟩ := List.mem_map.mp hunder
  have htop := h.top _ hentry
  cases t with
  | leaf value =>
    -- the key is the whole path, and it stands for itself
    have hparse : Key.parse? key = none := htop
    rw [Tree.leaves, List.mem_singleton] at hbelow
    rw [hbelow]
    show place (Key.render [key]) = [key]
    rw [Key.render_singleton, place, hparse]
    rfl
  | branch children =>
    -- the way goes on below the key, so that it is written with brackets
    have hword : Key.IsWord key := htop
    have hnested : ∀ name ∈ below.1, Key.IsName name := h.nested _ hleaf
    show place (Key.render (key :: below.1)) = key :: below.1
    rw [place, Key.parse?_render hword (leaves_paths children below hbelow) hnested]
    rfl

/-- The assignments of a written query string are the leaves of the query. -/
theorem Writable.assignments_write {q : Query} (h : Writable q) :
    assignments (write q) = leaves q := by
  rw [assignments, pairs_write, List.map_map]
  refine (List.map_congr_left fun leaf hleaf => ?_).trans (List.map_id _)
  show (place (Key.render leaf.1), Scalar.ofText (String.ofList leaf.2.write)) = leaf
  rw [h.place_render hleaf, Scalar.ofText_write (h.values leaf hleaf)]

/-- **A query that can be written is read from what is written**: the same mapping,
with the same values under the same keys, and the keys in the same order on every
level. -/
theorem parse_write {q : Query} (h : Writable q) : parse (write q) = q := by
  have hnew : ∀ key ∈ q.map Prod.fst, key ∉ ([] : Query).map Prod.fst :=
    fun _ _ => List.not_mem_nil
  rw [parse_eq_storeAll, h.assignments_write, storeAll_leaves q h.proper [] hnew, List.nil_append]

/-- A query whose keys and values hold all that separates and encodes them. -/
def tangled : Query :=
  [("filter", .branch [
      ("a=b&c", .branch [
        ("'\n\"", .leaf (.str "404")), ("%41 é", .leaf (.str "it's [x]&y=%26\n"))]),
      ("max", .leaf (.int 42))]),
    ("404", .leaf (.bool true)), ("", .leaf (.str "")), ("tag[]", .leaf (.str "'日'"))]

theorem parse_write_tangled : Writable tangled ∧ parse (write tangled) = tangled := by
  have hproper : Proper tangled := by
    simp only [tangled, Proper, Tree.Proper]
    decide +kernel
  have hwritable : Writable tangled :=
    ⟨hproper, by decide +kernel, by decide +kernel, by decide +kernel⟩
  exact ⟨hwritable, parse_write hwritable⟩

end Query

end WebRouter
