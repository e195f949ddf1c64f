import WebRouter.Route
import WebRouter.Ordered

/-!
# The match cache

A match cache remembers for single paths the route that won. It is a value:
adding an entry gives a new cache. There is no bookkeeping about single entries;
when one more would be too many, everything goes and the new cache holds the new
entry alone. The parameters of a path are not kept, they are bound again.
-/

namespace WebRouter

/-- The routes that won for single paths, in the order in which the paths came. -/
structure MatchCache (η : Type) where
  entries : List (String × Route η) := []

namespace MatchCache

variable {η : Type}

/-- The number of paths remembered. -/
def size (cache : MatchCache η) : Nat :=
  cache.entries.length

/-- The route remembered for a path. -/
def find? (cache : MatchCache η) (path : String) : Option (Route η) :=
  Ordered.find? path cache.entries

/-- Whether a route is remembered for the path. -/
def contains (cache : MatchCache η) (path : String) : Bool :=
  Ordered.contains path cache.entries

/-- The route remembered for a path, or the failure to have one. -/
def item (cache : MatchCache η) (path : String) : Except Failure (Route η) :=
  match cache.find? path with
  | some route => .ok route
  | none => .error (.missingKey path)

/-- Whether an entry for the path would be one too many. -/
def wouldClear (cache : MatchCache η) (path : String) (limit : Int) : Bool :=
  !cache.contains path && limit < cache.size + 1

/-- The cache that also remembers a route for the path. -/
def withEntry (cache : MatchCache η) (path : String) (route : Route η) (limit : Int) :
    MatchCache η :=
  if cache.wouldClear path limit then ⟨[(path, route)]⟩
  else ⟨Ordered.put path route cache.entries⟩

/-- The entry that was added last is found. -/
theorem find?_withEntry_self (cache : MatchCache η) (path : String) (route : Route η)
    (limit : Int) : (cache.withEntry path route limit).find? path = some route := by
  unfold withEntry
  split
  · exact Ordered.find?_put_self path route []
  · exact Ordered.find?_put_self path route cache.entries

/-- A cache within its limit stays within it. -/
theorem size_withEntry_le {cache : MatchCache η} {limit : Int} (hlimit : 1 ≤ limit)
    (h : cache.size ≤ limit) (path : String) (route : Route η) :
    (cache.withEntry path route limit).size ≤ limit := by
  unfold withEntry
  split
  · exact hlimit
  · next hw =>
    have hkeys := congrArg List.length (Ordered.keys_put path route cache.entries)
    rw [List.length_map] at hkeys
    show ((Ordered.put path route cache.entries).length : Int) ≤ limit
    rw [hkeys]
    split
    · rw [List.length_map]
      exact h
    · next hk =>
      have hc : cache.contains path = false := (Ordered.contains_eq_false_iff path _).mpr hk
      unfold wouldClear at hw
      rw [hc] at hw
      rw [List.length_append, List.length_map]
      have := of_decide_eq_false (Bool.eq_false_iff.mpr hw)
      unfold size at this
      simp only [List.length_singleton]
      omega

/-- How a cache is shown. -/
def describe (cache : MatchCache η) : String :=
  s!"MatchCache({cache.size} entries)"

end MatchCache

end WebRouter
