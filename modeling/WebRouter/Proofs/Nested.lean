import WebRouter.Query.Tree

/-!
# Nested mappings as the list of their leaves

A nested mapping is known by its leaves, each with the keys that lead to it. This
file says what storing one value does to them: `storeAt` puts a value at the end
of a path, creating what is missing on the way and replacing what is in the way,
and

> `leaves_storeAt`: the leaves afterwards are the new one and those of before
> whose path and the new one do not lie on one way (`Overlaps`).

From it follows what many stores come to, one after the other
(`leaves_storeAll`): a value stands if no later one was stored on its way
(`standing`). A mapping comes back, its keys in order on every level, when its
leaves are stored one after the other (`storeAll_leaves`). Throughout, the
mappings are `Proper`: no key occurs twice on a level, and no mapping below the
top is empty.
-/

namespace WebRouter

namespace Query

variable {κ α : Type}

/-! ## Paths that lie on one way -/

/-- Two paths lie on one way if they are equal or one of them goes on where the
other ends. -/
def Overlaps (p q : List κ) : Prop :=
  p <+: q ∨ q <+: p

instance [DecidableEq κ] (p q : List κ) : Decidable (Overlaps p q) :=
  inferInstanceAs (Decidable (_ ∨ _))

theorem overlaps_nil_right (p : List κ) : Overlaps p [] :=
  Or.inr List.nil_prefix

theorem overlaps_cons {a b : κ} {p q : List κ} :
    Overlaps (a :: p) (b :: q) ↔ a = b ∧ Overlaps p q := by
  unfold Overlaps
  rw [List.cons_prefix_cons, List.cons_prefix_cons]
  constructor
  · rintro (⟨he, h⟩ | ⟨he, h⟩)
    · exact ⟨he, Or.inl h⟩
    · exact ⟨he.symm, Or.inr h⟩
  · rintro ⟨he, h | h⟩
    · exact Or.inl ⟨he, h⟩
    · exact Or.inr ⟨he.symm, h⟩

/-- The assignments that stand: those after which nothing is assigned on their way. -/
def standing [DecidableEq κ] : List (List κ × α) → List (List κ × α)
  | [] => []
  | a :: later =>
    if ∃ b ∈ later, Overlaps a.1 b.1 then standing later else a :: standing later

/-! ## Proper mappings -/

mutual

/-- Every mapping of the tree has something in it, and no key twice. -/
def Tree.Proper : Tree κ α → Prop
  | .leaf _ => True
  | .branch children => children ≠ [] ∧ Proper children

/-- No key occurs twice on a level, and no mapping below the top is empty. -/
def Proper : Forest κ α → Prop
  | [] => True
  | (key, t) :: rest => key ∉ rest.map Prod.fst ∧ t.Proper ∧ Proper rest

end

theorem proper_iff {f : Forest κ α} :
    Proper f ↔ (f.map Prod.fst).Nodup ∧ ∀ entry ∈ f, entry.2.Proper := by
  induction f with
  | nil => exact iff_of_true trivial ⟨List.nodup_nil, fun _ h => (List.not_mem_nil h).elim⟩
  | cons entry rest ih =>
    obtain ⟨key, t⟩ := entry
    rw [Proper, ih, List.map_cons, List.nodup_cons, List.forall_mem_cons]
    constructor
    · rintro ⟨hkey, ht, hnodup, hrest⟩; exact ⟨⟨hkey, hnodup⟩, ht, hrest⟩
    · rintro ⟨⟨hkey, hnodup⟩, ht, hrest⟩; exact ⟨hkey, ht, hnodup, hrest⟩

/-! ## Leaves -/

/-- A leaf seen from one level further up. -/
def under (key : κ) (leaf : List κ × α) : List κ × α :=
  (key :: leaf.1, leaf.2)

theorem leaves_cons (key : κ) (t : Tree κ α) (rest : Forest κ α) :
    leaves ((key, t) :: rest) = t.leaves.map (under key) ++ leaves rest := by
  rw [leaves]
  rfl

theorem leaves_append (f g : Forest κ α) : leaves (f ++ g) = leaves f ++ leaves g := by
  induction f with
  | nil => rfl
  | cons entry rest ih =>
    obtain ⟨key, t⟩ := entry
    rw [List.cons_append, leaves_cons, ih, leaves_cons, List.append_assoc]

/-- The leaves of a mapping are those of its trees, seen from there. -/
theorem mem_leaves {f : Forest κ α} {leaf : List κ × α} :
    leaf ∈ leaves f ↔ ∃ entry ∈ f, leaf ∈ entry.2.leaves.map (under entry.1) := by
  induction f with
  | nil => exact iff_of_false List.not_mem_nil fun ⟨_, h, _⟩ => List.not_mem_nil h
  | cons entry rest ih =>
    obtain ⟨key, t⟩ := entry
    rw [leaves_cons, List.mem_append, ih]
    constructor
    · rintro (ht | ⟨entry, hentry, hleaf⟩)
      · exact ⟨(key, t), List.mem_cons_self, ht⟩
      · exact ⟨entry, List.mem_cons_of_mem _ hentry, hleaf⟩
    · rintro ⟨entry, hentry, hleaf⟩
      rcases List.mem_cons.mp hentry with rfl | hentry
      · exact Or.inl hleaf
      · exact Or.inr ⟨entry, hentry, hleaf⟩

/-- A leaf's path begins with a key of the mapping. -/
theorem mem_keys_of_mem_leaves {f : Forest κ α} {leaf : List κ × α} (h : leaf ∈ leaves f) :
    ∃ key ∈ f.map Prod.fst, ∃ path, leaf.1 = key :: path := by
  obtain ⟨entry, hentry, hleaf⟩ := mem_leaves.mp h
  obtain ⟨below, -, rfl⟩ := List.mem_map.mp hleaf
  exact ⟨entry.1, List.mem_map_of_mem hentry, below.1, rfl⟩

theorem leaves_paths (f : Forest κ α) : ∀ leaf ∈ leaves f, leaf.1 ≠ [] := by
  intro leaf hleaf hnil
  obtain ⟨key, -, path, hpath⟩ := mem_keys_of_mem_leaves hleaf
  rw [hnil] at hpath
  cases hpath

mutual

theorem Tree.leaves_ne_nil : ∀ (t : Tree κ α), t.Proper → t.leaves ≠ []
  | .leaf _, _ => List.cons_ne_nil _ _
  | .branch children, h => leaves_ne_nil children h.2 h.1

theorem leaves_ne_nil : ∀ (f : Forest κ α), Proper f → f ≠ [] → leaves f ≠ []
  | [], _, hne => absurd rfl hne
  | (key, t) :: rest, h, _ => by
    have ht := Tree.leaves_ne_nil t h.2.1
    rw [leaves_cons]
    exact fun hnil => ht (List.map_eq_nil_iff.mp (List.append_eq_nil_iff.mp hnil).1)

end

theorem leaves_nest (path : List κ) (value : α) :
    (nest path (.leaf value)).leaves = [(path, value)] := by
  induction path with
  | nil => rfl
  | cons key path ih =>
    show leaves [(key, nest path (.leaf value))] = _
    rw [leaves_cons, ih]
    rfl

theorem proper_nest (path : List κ) (value : α) : (nest path (.leaf value)).Proper := by
  induction path with
  | nil => trivial
  | cons key path ih => exact ⟨List.cons_ne_nil _ _, List.not_mem_nil, ih, trivial⟩

/-! ## Leaves off the way of a path -/

section OffWay

variable [DecidableEq κ]

/-- Whether a leaf lies off the way of a path. -/
def offWay (path : List κ) (leaf : List κ × α) : Bool :=
  !decide (Overlaps leaf.1 path)

theorem offWay_under (key : κ) (path : List κ) (leaf : List κ × α) :
    offWay (key :: path) (under key leaf) = offWay path leaf := by
  unfold offWay under
  rw [decide_eq_decide.mpr (overlaps_cons.trans (and_iff_right rfl))]

/-- Where a key does not occur, all leaves lie off the way of a path that begins with it. -/
theorem filter_offWay_of_not_mem {f : Forest κ α} {key : κ} (h : key ∉ f.map Prod.fst)
    (path : List κ) : (leaves f).filter (offWay (key :: path)) = leaves f := by
  refine List.filter_eq_self.mpr fun leaf hleaf => ?_
  obtain ⟨k, hk, rest, hpath⟩ := mem_keys_of_mem_leaves hleaf
  unfold offWay
  rw [hpath, Bool.not_eq_true', decide_eq_false_iff_not, overlaps_cons]
  exact fun he => h (he.1 ▸ hk)

end OffWay

/-! ## Storing a value at the end of a path -/

section Store

variable [BEq κ]

/-- The mapping with a value stored at the end of a path. -/
def storeAt (f : Forest κ α) : List κ → α → Forest κ α
  | [], _ => f
  | key :: path, value => mergeInto f (nestUnder key path (.leaf value))

/-- The mapping with many values stored, one after the other. -/
def storeAll (f : Forest κ α) (assignments : List (List κ × α)) : Forest κ α :=
  assignments.foldl (fun g a => storeAt g a.1 a.2) f

theorem storeAt_cons (f : Forest κ α) (key : κ) (path : List κ) (value : α) :
    storeAt f (key :: path) value =
      Ordered.put key ((nest path (.leaf value)).onto (Ordered.find? key f)) f := by
  rw [storeAt, nestUnder, mergeInto, mergeInto]

/-- Below a key, the rest of the path is stored in what stands there. -/
theorem onto_branch (children : Forest κ α) (key : κ) (path : List κ) (value : α) :
    (nest (key :: path) (.leaf value)).onto (some (.branch children))
      = .branch (storeAt children (key :: path) value) := by
  show Tree.onto _ (.branch [(key, nest path (.leaf value))]) = _
  rw [Tree.onto]
  rfl

/-- What stands in the way is replaced. -/
theorem onto_replaces {present : Option (Tree κ α)} {path : List κ} (value : α)
    (h : path = [] ∨ ∀ children, present ≠ some (.branch children)) :
    (nest path (.leaf value)).onto present = nest path (.leaf value) := by
  cases path with
  | nil =>
    show Tree.onto present (.leaf value) = _
    rw [Tree.onto]
    rfl
  | cons key path =>
    have hnot := h.resolve_left (List.cons_ne_nil _ _)
    show Tree.onto present (.branch [(key, nest path (.leaf value))]) = _
    rw [Tree.onto]
    · rfl
    · exact fun children => hnot children

theorem storeAll_append (f : Forest κ α) (first later : List (List κ × α)) :
    storeAll f (first ++ later) = storeAll (storeAll f first) later :=
  List.foldl_append

variable [LawfulBEq κ]

/-- Storing at a path whose first key is new appends it. -/
theorem storeAt_of_not_mem {f : Forest κ α} {key : κ} (h : key ∉ f.map Prod.fst)
    (path : List κ) (value : α) :
    storeAt f (key :: path) value = f ++ [(key, nest path (.leaf value))] := by
  rw [storeAt_cons, Ordered.find?_of_not_mem h, onto_replaces value (Or.inr fun _ e => by cases e),
    Ordered.put_of_not_mem h]

/-- Storing at a path whose first key is known changes what stands there. -/
theorem storeAt_of_mem {before after : Forest κ α} {key : κ} {old : Tree κ α}
    (h : key ∉ before.map Prod.fst) (path : List κ) (value : α) :
    storeAt (before ++ (key, old) :: after) (key :: path) value
      = before ++ (key, (nest path (.leaf value)).onto (some old)) :: after := by
  rw [storeAt_cons, Ordered.find?_append_cons h, Ordered.put_append_cons h]

/-- A mapping has an entry for a key or not; if so, nothing else in it is under
that key. -/
theorem key_cases {f : Forest κ α} (hf : Proper f) (key : κ) :
    key ∉ f.map Prod.fst
      ∨ ∃ before old after, f = before ++ (key, old) :: after
        ∧ key ∉ before.map Prod.fst ∧ key ∉ after.map Prod.fst := by
  by_cases hk : key ∈ f.map Prod.fst
  · obtain ⟨⟨k, old⟩, hmem, rfl⟩ := List.mem_map.mp hk
    obtain ⟨before, after, rfl⟩ := List.append_of_mem hmem
    have hnodup := (proper_iff.mp hf).1
    rw [List.map_append, List.map_cons, List.nodup_append] at hnodup
    obtain ⟨-, hafter, hdisjoint⟩ := hnodup
    refine Or.inr ⟨before, old, after, rfl, fun h => ?_, (List.nodup_cons.mp hafter).1⟩
    exact hdisjoint _ h _ List.mem_cons_self rfl
  · exact Or.inl hk

/-! ## What a store keeps -/

/-- Where a key stands after a store. -/
theorem keys_storeAt (f : Forest κ α) (key : κ) (path : List κ) (value : α) :
    (storeAt f (key :: path) value).map Prod.fst =
      if key ∈ f.map Prod.fst then f.map Prod.fst else f.map Prod.fst ++ [key] := by
  rw [storeAt_cons, Ordered.keys_put]

theorem storeAt_ne_nil (f : Forest κ α) (key : κ) (path : List κ) (value : α) :
    storeAt f (key :: path) value ≠ [] := by
  intro h
  have hkeys := keys_storeAt f key path value
  rw [h] at hkeys
  split at hkeys
  · next hk => rw [← hkeys] at hk; exact List.not_mem_nil hk
  · exact List.append_ne_nil_of_right_ne_nil _ (List.cons_ne_nil _ _) hkeys.symm

/-- A store keeps a mapping proper, if it does so with the trees below. -/
theorem proper_storeAt_of_onto {path : List κ} {value : α}
    (hbelow : ∀ present : Option (Tree κ α), (∀ old ∈ present, old.Proper) →
      ((nest path (.leaf value)).onto present).Proper)
    {f : Forest κ α} (hf : Proper f) (key : κ) : Proper (storeAt f (key :: path) value) := by
  obtain ⟨hnodup, hbranches⟩ := proper_iff.mp hf
  rw [storeAt_cons]
  refine proper_iff.mpr ⟨Ordered.nodup_keys_put hnodup _ _, ?_⟩
  intro entry he
  rcases Ordered.mem_put he with rfl | hold
  · refine hbelow _ fun old hfind => ?_
    exact hbranches (key, old) (Ordered.mem_of_find? hfind)
  · exact hbranches entry hold

theorem proper_onto (path : List κ) (value : α) :
    ∀ present : Option (Tree κ α), (∀ old ∈ present, old.Proper) →
      ((nest path (.leaf value)).onto present).Proper := by
  induction path with
  | nil =>
    intro present _
    rw [onto_replaces value (Or.inl rfl)]
    exact proper_nest [] value
  | cons key path ih =>
    intro present hpresent
    -- a mapping that is there already takes the rest of the path, all else is replaced
    by_cases hb : ∃ children, present = some (.branch children)
    · obtain ⟨children, rfl⟩ := hb
      have hchildren : Proper children := (hpresent _ rfl).2
      rw [onto_branch]
      exact ⟨storeAt_ne_nil children key path value, proper_storeAt_of_onto ih hchildren key⟩
    · rw [onto_replaces value (Or.inr fun children e => hb ⟨children, e⟩)]
      exact proper_nest (key :: path) value

/-- A store keeps a mapping proper. -/
theorem proper_storeAt {f : Forest κ α} (hf : Proper f) (path : List κ) (value : α) :
    Proper (storeAt f path value) := by
  cases path with
  | nil => exact hf
  | cons key path => exact proper_storeAt_of_onto (proper_onto path value) hf key

/-! ## Storing what was listed -/

/-- Storing below a key that has a mapping is storing in that mapping. -/
theorem storeAll_below {f : Forest κ α} {key : κ} (hkey : key ∉ f.map Prod.fst)
    {assignments : List (List κ × α)} (hpaths : ∀ a ∈ assignments, a.1 ≠ [])
    (children : Forest κ α) :
    storeAll (f ++ [(key, .branch children)]) (assignments.map (under key))
      = f ++ [(key, .branch (storeAll children assignments))] := by
  induction assignments generalizing children with
  | nil => rfl
  | cons a rest ih =>
    obtain ⟨ha, hrest⟩ := List.forall_mem_cons.mp hpaths
    obtain ⟨path, value⟩ := a
    obtain ⟨k, path, rfl⟩ := List.exists_cons_of_ne_nil ha
    show storeAll (storeAt (f ++ [(key, .branch children)]) (key :: k :: path) value) _ = _
    rw [storeAt_of_mem hkey, onto_branch, ih hrest]
    rfl

/-- The first value stored below a new key makes the mapping that the others go into. -/
theorem storeAll_below_new {f : Forest κ α} {key : κ} (hkey : key ∉ f.map Prod.fst)
    {assignments : List (List κ × α)} (hpaths : ∀ a ∈ assignments, a.1 ≠ [])
    (hne : assignments ≠ []) :
    storeAll f (assignments.map (under key))
      = f ++ [(key, .branch (storeAll [] assignments))] := by
  obtain ⟨a, rest, rfl⟩ := List.exists_cons_of_ne_nil hne
  obtain ⟨ha, hrest⟩ := List.forall_mem_cons.mp hpaths
  obtain ⟨path, value⟩ := a
  obtain ⟨k, path, rfl⟩ := List.exists_cons_of_ne_nil ha
  have hfirst : storeAt [] (k :: path) value = [(k, nest path (.leaf value))] :=
    storeAt_of_not_mem List.not_mem_nil path value
  -- the first store makes a mapping of one leaf, and the others go into it
  show storeAll (storeAt f (key :: k :: path) value) (rest.map (under key))
    = f ++ [(key, .branch (storeAll (storeAt [] (k :: path) value) rest))]
  rw [storeAt_of_not_mem hkey, hfirst]
  exact storeAll_below hkey hrest _

-- only the first of the two uses the instance directly, so both name it
omit [LawfulBEq κ] in
mutual

/-- Storing the leaves of a tree under a new key appends the tree. -/
theorem Tree.storeAll_leaves [LawfulBEq κ] : ∀ (t : Tree κ α), t.Proper →
    ∀ (f : Forest κ α) (key : κ), key ∉ f.map Prod.fst →
      storeAll f (t.leaves.map (under key)) = f ++ [(key, t)]
  | .leaf value, _, f, key, hkey => storeAt_of_not_mem hkey [] value
  | .branch children, h, f, key, hkey => by
    have hchildren := storeAll_leaves children h.2 [] fun _ _ => List.not_mem_nil
    rw [Tree.leaves, storeAll_below_new hkey (leaves_paths children)
      (leaves_ne_nil children h.2 h.1), hchildren]
    rfl

/-- Storing the leaves of a mapping whose keys are new appends the mapping. -/
theorem storeAll_leaves [LawfulBEq κ] : ∀ (g : Forest κ α), Proper g → ∀ f : Forest κ α,
    (∀ key ∈ g.map Prod.fst, key ∉ f.map Prod.fst) → storeAll f (leaves g) = f ++ g
  | [], _, f, _ => (List.append_nil f).symm
  | (key, t) :: rest, ⟨hkey, ht, hrest⟩, f, hnew => by
    have hafter : ∀ k ∈ rest.map Prod.fst, k ∉ (f ++ [(key, t)]).map Prod.fst := by
      intro k hk hmem
      rw [List.map_append] at hmem
      rcases List.mem_append.mp hmem with hf | hone
      · exact hnew k (List.mem_cons_of_mem _ hk) hf
      · have hsame : k = key := List.mem_singleton.mp hone
        exact hkey (hsame ▸ hk)
    rw [leaves_cons, storeAll_append, Tree.storeAll_leaves t ht f key (hnew key List.mem_cons_self),
      storeAll_leaves rest hrest _ hafter, List.append_assoc]
    rfl

end

/-! ## What a store does to the leaves -/

variable [DecidableEq κ]

/-- What a store does to the leaves of a mapping, given what it does to those of the
trees below. -/
theorem leaves_storeAt_of_onto {path : List κ} {value : α}
    (hbelow : ∀ old : Tree κ α, old.Proper →
      ((nest path (.leaf value)).onto (some old)).leaves.Perm
        (old.leaves.filter (offWay path) ++ [(path, value)]))
    {f : Forest κ α} (hf : Proper f) (key : κ) :
    (leaves (storeAt f (key :: path) value)).Perm
      ((leaves f).filter (offWay (key :: path)) ++ [(key :: path, value)]) := by
  rcases key_cases hf key with hk | ⟨before, old, after, rfl, hbefore, hafter⟩
  · rw [storeAt_of_not_mem hk, leaves_append, leaves_cons, leaves_nest,
      filter_offWay_of_not_mem hk]
    exact List.Perm.refl _
  · have hold : old.Proper :=
      (proper_iff.mp hf).2 (key, old) (List.mem_append_right _ List.mem_cons_self)
    have hunder : (old.leaves.map (under key)).filter (offWay (key :: path))
        = (old.leaves.filter (offWay path)).map (under key) := by
      rw [List.filter_map]
      exact congrArg _ (List.filter_congr fun leaf _ => offWay_under key path leaf)
    -- only the leaves under the key can lie on the way, and the new leaf goes among them
    rw [storeAt_of_mem hbefore, leaves_append, leaves_cons, leaves_append, leaves_cons,
      List.filter_append, List.filter_append, hunder, filter_offWay_of_not_mem hbefore,
      filter_offWay_of_not_mem hafter, List.append_assoc, List.append_assoc]
    refine List.Perm.append_left _ ?_
    have hmap := (hbelow old hold).map (under key)
    rw [List.map_append] at hmap
    refine (hmap.append_right _).trans ?_
    rw [List.append_assoc]
    exact List.Perm.append_left _ List.perm_append_comm

/-- What a store does to the leaves of the tree it goes into. -/
theorem leaves_onto (path : List κ) (value : α) :
    ∀ old : Tree κ α, old.Proper →
      ((nest path (.leaf value)).onto (some old)).leaves.Perm
        (old.leaves.filter (offWay path) ++ [(path, value)]) := by
  induction path with
  | nil =>
    intro old _
    have hnone : old.leaves.filter (offWay []) = [] := by
      refine List.filter_eq_nil_iff.mpr fun leaf _ => ?_
      unfold offWay
      rw [decide_eq_true (overlaps_nil_right leaf.1)]
      exact Bool.false_ne_true
    rw [onto_replaces value (Or.inl rfl), leaves_nest, hnone]
    exact List.Perm.refl _
  | cons key path ih =>
    intro old hold
    cases old with
    | leaf present =>
      have hnone : (Tree.leaf (κ := κ) present).leaves.filter (offWay (key :: path)) = [] := rfl
      rw [onto_replaces value (Or.inr fun _ e => by cases e), leaves_nest, hnone]
      exact List.Perm.refl _
    | branch children =>
      rw [onto_branch]
      exact leaves_storeAt_of_onto ih hold.2 key

/-- **What a store does to the leaves**: the new leaf comes in, and those on its way go. -/
theorem leaves_storeAt {f : Forest κ α} (hf : Proper f) {path : List κ} (hpath : path ≠ [])
    (value : α) :
    (leaves (storeAt f path value)).Perm ((leaves f).filter (offWay path) ++ [(path, value)]) := by
  cases path with
  | nil => exact absurd rfl hpath
  | cons key path => exact leaves_storeAt_of_onto (leaves_onto path value) hf key

/-! ## Many stores, one after the other -/

omit [DecidableEq κ] in
theorem proper_storeAll {f : Forest κ α} (hf : Proper f) (assignments : List (List κ × α)) :
    Proper (storeAll f assignments) := by
  induction assignments generalizing f with
  | nil => exact hf
  | cons a rest ih => exact ih (proper_storeAt hf a.1 a.2)

/-- **What stands after many stores**: of the leaves before, those off the way of
all that was stored, and of the values stored those that stand. -/
theorem leaves_storeAll {f : Forest κ α} (hf : Proper f) {assignments : List (List κ × α)}
    (hpaths : ∀ a ∈ assignments, a.1 ≠ []) :
    (leaves (storeAll f assignments)).Perm
      ((leaves f).filter (fun leaf => assignments.all fun a => offWay a.1 leaf)
        ++ standing assignments) := by
  induction assignments generalizing f with
  | nil =>
    have hall : (leaves f).filter (fun _ => true) = leaves f :=
      List.filter_eq_self.mpr fun _ _ => rfl
    show (leaves f).Perm ((leaves f).filter (fun _ => true) ++ [])
    rw [hall, List.append_nil]
  | cons a rest ih =>
    obtain ⟨ha, hrest⟩ := List.forall_mem_cons.mp hpaths
    have hstore := leaves_storeAt hf ha a.2
    have hlater := ih (proper_storeAt hf a.1 a.2) hrest
    -- what the later stores leave of the one made first
    have hfirst : [a].filter (fun leaf => rest.all fun b => offWay b.1 leaf) ++ standing rest
        = standing (a :: rest) := by
      rw [standing]
      by_cases h : ∃ b ∈ rest, Overlaps a.1 b.1
      · obtain ⟨b, hb, hover⟩ := h
        rw [if_pos ⟨b, hb, hover⟩, List.filter_cons_of_neg, List.filter_nil, List.nil_append]
        intro hall
        have := List.all_eq_true.mp hall b hb
        unfold offWay at this
        rw [decide_eq_true hover] at this
        exact Bool.false_ne_true this
      · rw [if_neg h, List.filter_cons_of_pos, List.filter_nil, List.singleton_append]
        refine List.all_eq_true.mpr fun b hb => ?_
        unfold offWay
        rw [decide_eq_false fun hover => h ⟨b, hb, hover⟩]
        rfl
    have hboth : (leaves f).filter (fun leaf => (a :: rest).all fun b => offWay b.1 leaf)
        = ((leaves f).filter (offWay a.1)).filter
            (fun leaf => rest.all fun b => offWay b.1 leaf) := by
      rw [List.filter_filter]
      refine List.filter_congr fun leaf _ => ?_
      rw [List.all_cons, Bool.and_comm]
    rw [← hfirst, hboth, ← List.append_assoc, ← List.filter_append]
    exact hlater.trans ((hstore.filter _).append_right _)

omit [DecidableEq κ] in
/-- The keys after many stores: those before, and the new ones in the order in
which they were first named. -/
theorem keys_storeAll (f : Forest κ α) {assignments : List (List κ × α)}
    (hpaths : ∀ a ∈ assignments, a.1 ≠ []) :
    (storeAll f assignments).map Prod.fst = f.map Prod.fst
      ++ ((assignments.filterMap fun a => a.1.head?).removeAll (f.map Prod.fst)).eraseDups := by
  induction assignments generalizing f with
  | nil => exact (List.append_nil _).symm
  | cons a rest ih =>
    obtain ⟨ha, hrest⟩ := List.forall_mem_cons.mp hpaths
    obtain ⟨path, value⟩ := a
    obtain ⟨key, path, rfl⟩ := List.exists_cons_of_ne_nil ha
    have hnames : ((key :: path, value) :: rest).filterMap (fun a => a.1.head?)
        = key :: rest.filterMap fun a => a.1.head? := rfl
    rw [hnames]
    show (storeAll (storeAt f (key :: path) value) rest).map Prod.fst = _
    rw [ih _ hrest, keys_storeAt, List.cons_removeAll]
    by_cases hk : key ∈ f.map Prod.fst
    · rw [if_pos hk, List.contains_iff_mem.mpr hk, if_neg (by decide)]
    · have hnew : (f.map Prod.fst).contains key = false :=
        Bool.eq_false_iff.mpr fun h => hk (List.contains_iff_mem.mp h)
      have hleft : ∀ names : List κ, names.removeAll (f.map Prod.fst ++ [key])
          = (names.removeAll (f.map Prod.fst)).filter fun name => !name == key := by
        intro names
        rw [List.removeAll, List.removeAll, List.filter_filter]
        refine List.filter_congr fun name _ => ?_
        rw [Bool.eq_iff_iff]
        simp [and_comm]
      rw [if_neg hk, if_pos hnew, List.eraseDups_cons, hleft, List.append_assoc]
      rfl

end Store

end Query

end WebRouter
