import WebRouter.Value

/-!
# Nested mappings

A `Tree` is a leaf or a mapping to trees, the mapping remembering the order of
its keys. Two nested mappings are merged in two ways that come to the same.
`merge` is the union: every key of the base in its place, merged with what comes
in under it, then the keys that only come in. `mergeInto` stores what comes in
one entry at a time, going down only along the entry's own path, which is how
many small assignments are folded into one mapping. Where one side has a leaf,
what comes in wins. `leaves` lists what a nested mapping holds, each value with
the keys that lead to it.

Mappings may be nested to any depth. That an interpreter bounds the depth of its
calls, so that both merges would fail on mappings nested about a thousand times,
is idealised away.
-/

namespace WebRouter.Query

/-- A leaf, or a mapping from keys to trees. -/
inductive Tree (κ α : Type) where
  | leaf (value : α)
  | branch (children : List (κ × Tree κ α))

/-- The entries of a nested mapping. -/
abbrev Forest (κ α : Type) := List (κ × Tree κ α)

variable {κ α : Type}

/-- The tree with `t` at the end of a path. -/
def nest (path : List κ) (t : Tree κ α) : Tree κ α :=
  path.foldr (fun key below => .branch [(key, below)]) t

/-- The forest with `t` at the end of a path that begins with `key`. -/
def nestUnder (key : κ) (path : List κ) (t : Tree κ α) : Forest κ α :=
  [(key, nest path t)]

mutual

/-- The leaves of a tree from left to right, each with the keys on the way to it. -/
def Tree.leaves : Tree κ α → List (List κ × α)
  | .leaf value => [([], value)]
  | .branch children => leaves children

/-- The leaves of a nested mapping, each with all the keys on the way to it. -/
def leaves : Forest κ α → List (List κ × α)
  | [] => []
  | (key, t) :: rest => t.leaves.map (fun leaf => (key :: leaf.1, leaf.2)) ++ leaves rest

end

variable [BEq κ]

mutual

/-- What stands under a key after `incoming` has been stored over what was there. -/
def Tree.onto (present : Option (Tree κ α)) (incoming : Tree κ α) : Tree κ α :=
  match incoming with
  | .leaf value => .leaf value
  | .branch entries =>
    match present with
    | some (.branch children) => .branch (mergeInto children entries)
    | _ => .branch entries
  termination_by structural incoming

/-- Stores the entries one after the other. -/
def mergeInto (target : Forest κ α) (incoming : Forest κ α) : Forest κ α :=
  match incoming with
  | [] => target
  | (key, t) :: rest =>
    mergeInto (Ordered.put key (t.onto (Ordered.find? key target)) target) rest
  termination_by structural incoming

end

mutual

/-- The union of a tree with what comes in under the same key. -/
def Tree.merge (base : Tree κ α) (incoming : Option (Tree κ α)) : Tree κ α :=
  match base with
  | .leaf value => incoming.getD (.leaf value)
  | .branch children =>
    match incoming with
    | none => .branch children
    | some (.leaf value) => .leaf value
    | some (.branch entries) =>
      .branch (mergeShared children entries
        ++ entries.filter fun entry => !Ordered.contains entry.1 children)
  termination_by structural base

/-- The entries of the base, each merged with what comes in under its key. -/
def mergeShared (base : Forest κ α) (incoming : Forest κ α) : Forest κ α :=
  match base with
  | [] => []
  | (key, t) :: rest =>
    (key, t.merge (Ordered.find? key incoming)) :: mergeShared rest incoming
  termination_by structural base

end

/-- The union of two nested mappings: the keys of the base, then the new ones. It
is made from both sides at once, which keeps the recursion structural; a loop that
stores the entries of `incoming` in a copy of the base, one after the other, makes
the same (`merge_eq_updateWith`). -/
def merge (base incoming : Forest κ α) : Forest κ α :=
  mergeShared base incoming ++ incoming.filter fun entry => !Ordered.contains entry.1 base

end WebRouter.Query
