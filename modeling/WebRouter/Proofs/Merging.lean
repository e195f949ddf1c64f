import WebRouter.Query.Tree

/-!
# Merging in place is the union

`mergeInto` stores what comes in entry by entry, changing the mapping that is there, and `merge`
makes the union from both sides at once. The first is a loop (`Ordered.updateWith`), and so is
the union made in a copy of the base (`merge_eq_updateWith`). Each is known, like any mapping, by
its keys in order and by what stands under each of them (`Ordered.ext`). A loop and the union both
have the keys of the base and then the new ones (`keys_merge`, `Ordered.keys_updateWith`), and
under a key that both sides have, both merge what stands there (`find?_merge`,
`Ordered.find?_updateWith`); so they are the same if the trees below are (`updateWith_eq_merge`),
which is an induction on the trees. The two laws of the union, that what was merged already or is
the base itself changes nothing, are seen in the same way.

> `mergeInto_eq_merge`: merging in place gives the union, which does not change when merged again
> with what came in, or with itself, and on every level that both sides have its keys are those of
> the base and then the new ones.

No key occurs twice on a level (`Keyed`), but mappings may be empty.
-/

namespace WebRouter

/-! ## Mappings known by their keys and what stands under them -/

namespace Ordered

variable {κ α β : Type} [BEq κ]

theorem find?_append (key : κ) (first last : List (κ × α)) :
    find? key (first ++ last) = (find? key first).or (find? key last) := by
  induction first with
  | nil => rfl
  | cons entry rest ih =>
    rw [List.cons_append, find?, find?]
    split
    · rfl
    · exact ih

variable [LawfulBEq κ]

/-- What stands under a key when every value is changed, depending on its key. -/
theorem find?_map (change : κ → α → β) (key : κ) (entries : List (κ × α)) :
    find? key (entries.map fun entry => (entry.1, change entry.1 entry.2))
      = (find? key entries).map (change key) := by
  induction entries with
  | nil => rfl
  | cons entry rest ih =>
    rw [List.map_cons, find?, find?]
    by_cases hkey : (entry.1 == key) = true
    · rw [if_pos hkey, if_pos hkey, eq_of_beq hkey]
      rfl
    · rw [if_neg hkey, if_neg hkey, ih]

/-- What stands under a key that is kept, and nothing else. -/
theorem find?_filter (keeps : κ → Bool) (key : κ) (entries : List (κ × α)) :
    find? key (entries.filter fun entry => keeps entry.1)
      = if keeps key then find? key entries else none := by
  induction entries with
  | nil => exact (ite_self none).symm
  | cons entry rest ih =>
    rw [List.filter_cons]
    by_cases hkey : (entry.1 == key) = true
    · have hsame : entry.1 = key := eq_of_beq hkey
      by_cases hkeep : keeps key = true
      · rw [hsame, if_pos hkeep, if_pos hkeep, find?, find?, if_pos hkey, if_pos hkey]
      · rw [hsame, if_neg hkeep, if_neg hkeep, ih, if_neg hkeep]
    · rw [find?, if_neg hkey]
      by_cases hkeep : keeps entry.1 = true
      · rw [if_pos hkeep, find?, if_neg hkey, ih]
      · rw [if_neg hkeep, ih]

/-- **A mapping is known by its keys in order and by what stands under each.** -/
theorem ext {entries others : List (κ × α)} (hnodup : (entries.map Prod.fst).Nodup)
    (hkeys : entries.map Prod.fst = others.map Prod.fst)
    (hfind : ∀ key, find? key entries = find? key others) : entries = others := by
  induction entries generalizing others with
  | nil => exact (List.map_eq_nil_iff.mp hkeys.symm).symm
  | cons entry rest ih =>
    cases others with
    | nil => cases hkeys
    | cons other others =>
      obtain ⟨hfirst, hrest⟩ := List.cons.inj hkeys
      obtain ⟨hnew, hnodup⟩ := List.nodup_cons.mp hnodup
      have hvalue := hfind entry.1
      rw [find?, find?, if_pos BEq.rfl, ← hfirst, if_pos BEq.rfl, Option.some.injEq] at hvalue
      refine List.cons_eq_cons.mpr ⟨Prod.ext hfirst hvalue, ih hnodup hrest fun key => ?_⟩
      -- the first key has nothing under it in the rest, on either side
      by_cases hkey : (entry.1 == key) = true
      · rw [← eq_of_beq hkey, find?_of_not_mem hnew, find?_of_not_mem (hrest ▸ hnew)]
      · have hnext := hfind key
        rwa [find?, find?, if_neg hkey, ← hfirst, if_neg hkey] at hnext

/-! ## Storing pair by pair -/

/-- Stores what comes in, pair by pair, each value combined with the one that is there. -/
def updateWith (combine : Option α → α → α) (base incoming : List (κ × α)) : List (κ × α) :=
  incoming.foldl (fun entries pair => put pair.1 (combine (find? pair.1 entries) pair.2) entries)
    base

/-- Known keys keep their places, and the new ones go last in theirs. -/
theorem keys_updateWith (combine : Option α → α → α) {base incoming : List (κ × α)}
    (h : (incoming.map Prod.fst).Nodup) :
    (updateWith combine base incoming).map Prod.fst
      = base.map Prod.fst ++ (incoming.map Prod.fst).removeAll (base.map Prod.fst) := by
  induction incoming generalizing base with
  | nil => exact (List.append_nil _).symm
  | cons pair rest ih =>
    obtain ⟨key, value⟩ := pair
    obtain ⟨hkey, hrest⟩ := List.nodup_cons.mp h
    show (updateWith combine (put key (combine (find? key base) value) base) rest).map Prod.fst = _
    rw [ih hrest, keys_put, List.map_cons, List.cons_removeAll]
    by_cases hknown : key ∈ base.map Prod.fst
    · rw [if_pos hknown, List.contains_iff_mem.mpr hknown, if_neg (by decide)]
    · -- the key is stored at the end, and does not come again
      have hlater : (rest.map Prod.fst).removeAll (base.map Prod.fst ++ [key])
          = (rest.map Prod.fst).removeAll (base.map Prod.fst) := by
        refine List.filter_congr fun other hother => ?_
        have hne : other ≠ key := fun e => hkey (e ▸ hother)
        simp [hne]
      have hnew : (base.map Prod.fst).contains key = false :=
        Bool.eq_false_iff.mpr fun hc => hknown (List.contains_iff_mem.mp hc)
      rw [if_neg hknown, hnew, if_pos rfl, hlater, List.append_assoc]
      rfl

/-- A value that comes in is combined with the one that was there before all of them. -/
theorem find?_updateWith (combine : Option α → α → α) {base incoming : List (κ × α)}
    (h : (incoming.map Prod.fst).Nodup) (key : κ) :
    find? key (updateWith combine base incoming)
      = ((find? key incoming).map (combine (find? key base))).or (find? key base) := by
  induction incoming generalizing base with
  | nil => rfl
  | cons pair rest ih =>
    obtain ⟨first, value⟩ := pair
    obtain ⟨hfirst, hrest⟩ := List.nodup_cons.mp h
    show find? key (updateWith combine (put first (combine (find? first base) value) base) rest) = _
    rw [ih hrest, find?]
    by_cases hkey : first = key
    · rw [← hkey, if_pos BEq.rfl, find?_of_not_mem hfirst, find?_put_self]
      rfl
    · rw [if_neg fun e => hkey (eq_of_beq e), find?_put_of_ne (Ne.symm hkey)]

end Ordered

namespace Query

variable {κ α : Type}

/-! ## Mappings without repeated keys -/

mutual

/-- No key occurs twice on a level of the tree. -/
def Tree.Keyed : Tree κ α → Prop
  | .leaf _ => True
  | .branch children => Keyed children

/-- No key occurs twice on a level. -/
def Keyed : Forest κ α → Prop
  | [] => True
  | (key, t) :: rest => key ∉ rest.map Prod.fst ∧ t.Keyed ∧ Keyed rest

end

theorem keyed_iff {f : Forest κ α} :
    Keyed f ↔ (f.map Prod.fst).Nodup ∧ ∀ entry ∈ f, entry.2.Keyed := by
  induction f with
  | nil => exact iff_of_true trivial ⟨List.nodup_nil, fun _ h => (List.not_mem_nil h).elim⟩
  | cons entry rest ih =>
    obtain ⟨key, t⟩ := entry
    rw [Keyed, ih, List.map_cons, List.nodup_cons, List.forall_mem_cons]
    constructor
    · rintro ⟨hkey, ht, hnodup, hrest⟩; exact ⟨⟨hkey, hnodup⟩, ht, hrest⟩
    · rintro ⟨⟨hkey, hnodup⟩, ht, hrest⟩; exact ⟨hkey, ht, hnodup, hrest⟩

mutual

/-- What holds of leaves, and of a mapping if it holds of all it has, holds of every tree. -/
@[elab_as_elim]
theorem Tree.byLevels {motive : Tree κ α → Prop} (leaf : ∀ value, motive (.leaf value))
    (branch : ∀ children, (∀ entry ∈ children, motive entry.2) → motive (.branch children)) :
    ∀ t, motive t
  | .leaf value => leaf value
  | .branch children => branch children (forest_byLevels leaf branch children)

theorem forest_byLevels {motive : Tree κ α → Prop} (leaf : ∀ value, motive (.leaf value))
    (branch : ∀ children, (∀ entry ∈ children, motive entry.2) → motive (.branch children)) :
    ∀ f : Forest κ α, ∀ entry ∈ f, motive entry.2
  | [], _, h => (List.not_mem_nil h).elim
  | (_, t) :: rest, entry, h => by
    rcases List.mem_cons.mp h with rfl | hrest
    · exact Tree.byLevels leaf branch t
    · exact forest_byLevels leaf branch rest entry hrest

end

variable [BEq κ]

/-! ## One tree over another -/

theorem Tree.merge_branch (children entries : Forest κ α) :
    (Tree.branch children).merge (some (.branch entries))
      = .branch (Query.merge children entries) := by
  rw [Tree.merge]
  rfl

theorem Tree.merge_leaf (t : Tree κ α) (value : α) :
    t.merge (some (.leaf value)) = .leaf value := by
  cases t with
  | leaf old => rw [Tree.merge]; rfl
  | branch children => rw [Tree.merge]

theorem Tree.leaf_merge (value : α) (t : Tree κ α) : (Tree.leaf value).merge (some t) = t := by
  rw [Tree.merge]
  rfl

theorem Tree.merge_none (t : Tree κ α) : t.merge none = t := by
  cases t with
  | leaf value => rw [Tree.merge]; rfl
  | branch children => rw [Tree.merge]

theorem Tree.onto_leaf (present : Option (Tree κ α)) (value : α) :
    (Tree.leaf value).onto present = .leaf value := by
  rw [Tree.onto]

theorem Tree.onto_none (t : Tree κ α) : t.onto none = t := by
  cases t with
  | leaf value => exact Tree.onto_leaf none value
  | branch entries =>
    rw [Tree.onto]
    intro children hpresent
    cases hpresent

theorem Tree.branch_onto_leaf (entries : Forest κ α) (old : α) :
    (Tree.branch entries).onto (some (.leaf old)) = .branch entries := by
  rw [Tree.onto]
  intro children hpresent
  cases hpresent

theorem Tree.branch_onto_branch (entries children : Forest κ α) :
    (Tree.branch entries).onto (some (.branch children))
      = .branch (mergeInto children entries) := by
  rw [Tree.onto]

theorem mergeShared_eq_map (base incoming : Forest κ α) :
    mergeShared base incoming
      = base.map fun entry => (entry.1, entry.2.merge (Ordered.find? entry.1 incoming)) := by
  induction base with
  | nil => rw [mergeShared]; rfl
  | cons entry rest ih =>
    obtain ⟨key, t⟩ := entry
    rw [mergeShared, ih]
    rfl

variable [LawfulBEq κ]

/-! ## The union, by its keys and what stands under them -/

/-- The keys of the base in their places, then the new ones in theirs. -/
theorem keys_merge (base incoming : Forest κ α) :
    (merge base incoming).map Prod.fst
      = base.map Prod.fst ++ (incoming.map Prod.fst).removeAll (base.map Prod.fst) := by
  have hnew : ∀ entry : κ × Tree κ α, (!Ordered.contains entry.1 base)
      = !(base.map Prod.fst).elem entry.1 := by
    intro entry
    rw [Bool.not_eq_eq_eq_not, Bool.not_not, Bool.eq_iff_iff, Ordered.contains_iff_mem_keys,
      List.elem_iff]
  rw [merge, List.map_append, mergeShared_eq_map, List.map_map, List.removeAll, List.filter_map]
  exact congrArg _ (congrArg _ (List.filter_congr fun entry _ => hnew entry))

/-- What stands under a key of the union. -/
theorem find?_merge (base incoming : Forest κ α) (key : κ) :
    Ordered.find? key (merge base incoming)
      = ((Ordered.find? key base).map fun t => t.merge (Ordered.find? key incoming)).or
          (Ordered.find? key incoming) := by
  have hshared := Ordered.find?_map (fun key (t : Tree κ α) => t.merge (Ordered.find? key incoming))
    key base
  have hnew := Ordered.find?_filter (fun key => !Ordered.contains key base) key incoming
  rw [merge, mergeShared_eq_map, Ordered.find?_append, hshared, hnew, Ordered.contains]
  cases Ordered.find? key base with
  | none => rfl
  | some t => rfl

theorem nodup_keys_merge {base incoming : Forest κ α} (hbase : (base.map Prod.fst).Nodup)
    (hincoming : (incoming.map Prod.fst).Nodup) : ((merge base incoming).map Prod.fst).Nodup := by
  rw [keys_merge]
  refine List.nodup_append.mpr ⟨hbase, hincoming.filter _, ?_⟩
  rintro key hold _ hnew rfl
  rw [List.removeAll, List.mem_filter, Bool.not_eq_true', ← Bool.not_eq_true, List.elem_iff] at hnew
  exact hnew.2 hold

/-! ## Loops that make the union -/

/-- A loop over what comes in makes the union if it keeps what is new and merges, as the union
does, what is there already. -/
theorem updateWith_eq_merge {combine : Option (Tree κ α) → Tree κ α → Tree κ α}
    {base incoming : Forest κ α} (hbase : (base.map Prod.fst).Nodup)
    (hincoming : (incoming.map Prod.fst).Nodup) (hnew : ∀ t, combine none t = t)
    (hold : ∀ old ∈ base, ∀ entry ∈ incoming,
      combine (some old.2) entry.2 = old.2.merge (some entry.2)) :
    Ordered.updateWith combine base incoming = merge base incoming := by
  have hsame : (Ordered.updateWith combine base incoming).map Prod.fst
      = (merge base incoming).map Prod.fst :=
    (Ordered.keys_updateWith combine hincoming).trans (keys_merge base incoming).symm
  refine Ordered.ext (hsame ▸ nodup_keys_merge hbase hincoming) hsame fun key => ?_
  rw [Ordered.find?_updateWith combine hincoming, find?_merge]
  cases hincomes : Ordered.find? key incoming with
  | none =>
    cases Ordered.find? key base with
    | none => rfl
    | some old => exact congrArg some (Tree.merge_none old).symm
  | some t =>
    cases hpresent : Ordered.find? key base with
    | none => exact congrArg some (hnew t)
    | some old =>
      have hmerged := hold _ (Ordered.mem_of_find? hpresent) _ (Ordered.mem_of_find? hincomes)
      exact congrArg some hmerged

/-- What is stored under a key by a loop that copies the base: the union if there are mappings on
both sides, and else what comes in. -/
def Tree.mergeOver (present : Option (Tree κ α)) (incoming : Tree κ α) : Tree κ α :=
  match present, incoming with
  | some (.branch children), .branch entries => .branch (Query.merge children entries)
  | _, t => t

omit [LawfulBEq κ] in
theorem Tree.mergeOver_some (old t : Tree κ α) :
    Tree.mergeOver (some old) t = old.merge (some t) := by
  cases old with
  | leaf value => exact (Tree.leaf_merge value t).symm
  | branch children =>
    cases t with
    | leaf value => exact (Tree.merge_leaf _ value).symm
    | branch entries => exact (Tree.merge_branch children entries).symm

/-- The union is what comes of a copy of the base when the entries that come in are stored in it,
one after the other. -/
theorem merge_eq_updateWith {base incoming : Forest κ α} (hbase : (base.map Prod.fst).Nodup)
    (hincoming : (incoming.map Prod.fst).Nodup) :
    merge base incoming = Ordered.updateWith Tree.mergeOver base incoming :=
  (updateWith_eq_merge hbase hincoming (fun _ => rfl)
    fun old _ entry _ => Tree.mergeOver_some old.2 entry.2).symm

omit [LawfulBEq κ] in
/-- Storing in place is a loop too. -/
theorem mergeInto_eq_updateWith (target incoming : Forest κ α) :
    mergeInto target incoming
      = Ordered.updateWith (fun present t => t.onto present) target incoming := by
  induction incoming generalizing target with
  | nil =>
    rw [mergeInto]
    rfl
  | cons entry rest ih =>
    obtain ⟨key, t⟩ := entry
    rw [mergeInto, ih]
    rfl

/-- Storing gives the union if it does so below. -/
theorem mergeInto_eq_of_below {target incoming : Forest κ α} (htarget : Keyed target)
    (hincoming : Keyed incoming)
    (hbelow : ∀ entry ∈ incoming, ∀ old : Tree κ α, old.Keyed →
      entry.2.onto (some old) = old.merge (some entry.2)) :
    mergeInto target incoming = merge target incoming := by
  obtain ⟨hkeys, holds⟩ := keyed_iff.mp htarget
  obtain ⟨hnewKeys, -⟩ := keyed_iff.mp hincoming
  rw [mergeInto_eq_updateWith]
  exact updateWith_eq_merge hkeys hnewKeys Tree.onto_none fun old hold entry hentry =>
    hbelow entry hentry old.2 (holds old hold)

/-- Storing a tree over what is there is the union of the two. -/
theorem Tree.onto_some {t : Tree κ α} : t.Keyed → ∀ old : Tree κ α, old.Keyed →
    t.onto (some old) = old.merge (some t) := by
  induction t using Tree.byLevels with
  | leaf value =>
    intro _ old _
    rw [Tree.onto_leaf, Tree.merge_leaf]
  | branch entries ih =>
    intro ht old hold
    cases old with
    | leaf value => rw [Tree.branch_onto_leaf, Tree.leaf_merge]
    | branch children =>
      have hentries := (keyed_iff.mp ht).2
      rw [Tree.branch_onto_branch, Tree.merge_branch,
        mergeInto_eq_of_below hold ht fun entry hentry => ih entry hentry (hentries entry hentry)]

/-! ## Laws of the union -/

theorem removeAll_eq_nil {keys known : List κ} (h : ∀ key ∈ keys, key ∈ known) :
    keys.removeAll known = [] := by
  refine List.filter_eq_nil_iff.mpr fun key hkey => ?_
  rw [List.elem_iff.mpr (h key hkey)]
  exact Bool.false_ne_true

/-- A mapping merged with itself does not change if the trees below do not. -/
theorem merge_self_of_below {f : Forest κ α} (hf : Keyed f)
    (hbelow : ∀ entry ∈ f, entry.2.merge (some entry.2) = entry.2) : merge f f = f := by
  have hkeys := (keyed_iff.mp hf).1
  refine Ordered.ext (nodup_keys_merge hkeys hkeys) ?_ fun key => ?_
  · rw [keys_merge, removeAll_eq_nil fun _ h => h, List.append_nil]
  · rw [find?_merge]
    cases hpresent : Ordered.find? key f with
    | none => rfl
    | some t => exact congrArg some (hbelow _ (Ordered.mem_of_find? hpresent))

/-- A tree merged with itself does not change. -/
theorem Tree.merge_self {t : Tree κ α} : t.Keyed → t.merge (some t) = t := by
  induction t using Tree.byLevels with
  | leaf value =>
    intro _
    exact Tree.leaf_merge value _
  | branch children ih =>
    intro ht
    have hchildren := (keyed_iff.mp ht).2
    rw [Tree.merge_branch,
      merge_self_of_below ht fun entry hentry => ih entry hentry (hchildren entry hentry)]

/-- Merging again with what came in changes nothing if it does not below. -/
theorem merge_again_of_below {base incoming : Forest κ α} (hbase : Keyed base)
    (hincoming : Keyed incoming)
    (hbelow : ∀ entry ∈ base, ∀ t : Tree κ α, t.Keyed →
      (entry.2.merge (some t)).merge (some t) = entry.2.merge (some t)) :
    merge (merge base incoming) incoming = merge base incoming := by
  have hkeys := nodup_keys_merge (keyed_iff.mp hbase).1 (keyed_iff.mp hincoming).1
  refine Ordered.ext (nodup_keys_merge hkeys (keyed_iff.mp hincoming).1) ?_ fun key => ?_
  · have hknown : ∀ key ∈ incoming.map Prod.fst, key ∈ (merge base incoming).map Prod.fst := by
      intro key hkey
      by_cases hold : key ∈ base.map Prod.fst
      · rw [keys_merge]
        exact List.mem_append_left _ hold
      · rw [keys_merge]
        refine List.mem_append_right _ (List.mem_filter.mpr ⟨hkey, ?_⟩)
        rw [Bool.not_eq_true', ← Bool.not_eq_true, List.elem_iff]
        exact hold
    rw [keys_merge (merge base incoming), removeAll_eq_nil hknown, List.append_nil]
  · rw [find?_merge, find?_merge]
    cases hincomes : Ordered.find? key incoming with
    | none =>
      cases Ordered.find? key base with
      | none => rfl
      | some old => exact congrArg some (Tree.merge_none _)
    | some t =>
      have ht := (keyed_iff.mp hincoming).2 _ (Ordered.mem_of_find? hincomes)
      cases hpresent : Ordered.find? key base with
      | none => exact congrArg some (Tree.merge_self ht)
      | some old => exact congrArg some (hbelow _ (Ordered.mem_of_find? hpresent) t ht)

/-- Merging a tree again with what came in changes nothing. -/
theorem Tree.merge_again {old : Tree κ α} : old.Keyed → ∀ t : Tree κ α, t.Keyed →
    (old.merge (some t)).merge (some t) = old.merge (some t) := by
  induction old using Tree.byLevels with
  | leaf value =>
    intro _ t ht
    rw [Tree.leaf_merge, Tree.merge_self ht]
  | branch children ih =>
    intro hold t ht
    have hchildren := (keyed_iff.mp hold).2
    cases t with
    | leaf value => rw [Tree.merge_leaf, Tree.merge_leaf]
    | branch entries =>
      rw [Tree.merge_branch, Tree.merge_branch,
        merge_again_of_below hold ht fun entry hentry => ih entry hentry (hchildren entry hentry)]

/-! ## Levels -/

/-- The mapping at the end of a path of keys. -/
def level? (f : Forest κ α) : List κ → Option (Forest κ α)
  | [] => some f
  | key :: path =>
    match Ordered.find? key f with
    | some (.branch children) => level? children path
    | _ => none

omit [LawfulBEq κ] in
theorem level?_cons_eq_some {f level : Forest κ α} {key : κ} {path : List κ} :
    level? f (key :: path) = some level ↔
      ∃ children, Ordered.find? key f = some (.branch children)
        ∧ level? children path = some level := by
  rw [level?]
  constructor
  · intro h
    split at h
    · next children hfind => exact ⟨children, hfind, h⟩
    · cases h
  · rintro ⟨children, hfind, h⟩
    rw [hfind]
    exact h

/-- Where both sides have a level, the union has their union. -/
theorem level?_merge {base incoming : Forest κ α} {path : List κ} {old new : Forest κ α}
    (hold : level? base path = some old) (hnew : level? incoming path = some new) :
    level? (merge base incoming) path = some (merge old new) := by
  induction path generalizing base incoming with
  | nil =>
    cases hold
    cases hnew
    rfl
  | cons key path ih =>
    obtain ⟨children, hpresent, hold⟩ := level?_cons_eq_some.mp hold
    obtain ⟨entries, hincomes, hnew⟩ := level?_cons_eq_some.mp hnew
    refine level?_cons_eq_some.mpr ⟨merge children entries, ?_, ih hold hnew⟩
    rw [find?_merge, hpresent, hincomes]
    exact congrArg some (Tree.merge_branch children entries)

/-- **Merging in place gives the union.** What is stored entry by entry comes to the union with
the mapping that was there, down to the order of the keys on every level. The union does not
change when it is merged again with what came in, nor a mapping when it is merged with itself. On
a level that both sides have, the keys of the union are those of the base, in order, and then the
new ones, in order. -/
theorem mergeInto_eq_merge {target incoming : Forest κ α} (htarget : Keyed target)
    (hincoming : Keyed incoming) :
    mergeInto target incoming = merge target incoming
      ∧ merge (merge target incoming) incoming = merge target incoming
      ∧ merge target target = target
      ∧ ∀ path old new, level? target path = some old → level? incoming path = some new →
          ∃ level, level? (merge target incoming) path = some level
            ∧ level.map Prod.fst
              = old.map Prod.fst ++ (new.map Prod.fst).removeAll (old.map Prod.fst) := by
  have htrees := (keyed_iff.mp htarget).2
  have hentries := (keyed_iff.mp hincoming).2
  refine ⟨?_, ?_, ?_, ?_⟩
  · exact mergeInto_eq_of_below htarget hincoming fun entry hentry =>
      Tree.onto_some (hentries entry hentry)
  · exact merge_again_of_below htarget hincoming fun entry hentry =>
      Tree.merge_again (htrees entry hentry)
  · exact merge_self_of_below htarget fun entry hentry => Tree.merge_self (htrees entry hentry)
  · intro path old new hold hnew
    exact ⟨merge old new, level?_merge hold hnew, keys_merge old new⟩

/-! ## A merge with every kind of collision -/

/-- A mapping with leaves, a mapping and an empty mapping in it. -/
def shelf : Forest String Nat :=
  [("books", .branch
      [("old", .leaf 1), ("none", .branch []), ("rare", .branch [("ink", .leaf 2)])]),
    ("room", .leaf 3)]

/-- What comes in: leaves over mappings, mappings over leaves, an empty mapping and new keys. -/
def delivery : Forest String Nat :=
  [("room", .branch [("north", .leaf 4)]), ("lamp", .branch []),
    ("books", .branch [("new", .leaf 5), ("rare", .leaf 6), ("old", .branch []),
      ("none", .branch [("first", .leaf 7)])])]

/-- What the delivery makes of the shelf. -/
theorem mergeInto_eq_merge_shelf :
    Keyed shelf ∧ Keyed delivery
      ∧ mergeInto shelf delivery = merge shelf delivery
      ∧ merge shelf delivery
        = [("books", .branch [("old", .branch []), ("none", .branch [("first", .leaf 7)]),
            ("rare", .leaf 6), ("new", .leaf 5)]),
          ("room", .branch [("north", .leaf 4)]), ("lamp", .branch [])] := by
  have hshelf : Keyed shelf := by simp [shelf, Keyed, Tree.Keyed]
  have hdelivery : Keyed delivery := by simp [delivery, Keyed, Tree.Keyed]
  refine ⟨hshelf, hdelivery, (mergeInto_eq_merge hshelf hdelivery).1, ?_⟩
  rfl

end Query

end WebRouter
