import Mathlib.Data.List.DropRight
import WebRouter.Proofs.Refusals

/-!
# When the cache is cleared

Only one kind of call does anything to the cache of a router that is used for matches: a
match that finds a route for a path that is not cached (`Router.misses`). Every other one
gives its answer and leaves the router as it is (`find_of_known`). A miss appends its path
to the cached ones, unless there are already as many as the limit allows: then they are all
dropped, a message says how many there were, and the new path is the only one
(`find_of_missed`).

So the cache goes through rounds of as many misses as the limit says. After `m` misses the
place of the last one in its round is `held limit m`, and the number of rounds that were
over before it is `(m - 1) / limit`. `Filled` says of a router and the misses so far that
the cached paths are those of the present round and that every round before it was ended
by one message; a call preserves it (`Filled.find`), and so does a run (`Filled.finds`).

> `cache_holds_last_round`: the paths that a cache holds after any run of matches, and the
> messages that were written, are a matter of counting the misses.
-/

namespace WebRouter

variable {η : Type}

/-- A new path is one too many exactly if there are as many as the limit allows. -/
theorem MatchCache.wouldClear_of_new {cache : MatchCache η} {path : String} (limit : Nat)
    (hnew : cache.contains path = false) :
    cache.wouldClear path limit = decide (limit ≤ cache.size) := by
  unfold MatchCache.wouldClear
  simp only [hnew, Bool.not_false, Bool.true_and, decide_eq_decide]
  omega

/-- A new path is cached behind the others, or alone if they are too many. -/
theorem MatchCache.paths_withEntry {cache : MatchCache η} {path : String} (route : Route η)
    (limit : Nat) (hnew : cache.contains path = false) :
    (cache.withEntry path route limit).entries.map Prod.fst
      = if limit ≤ cache.size then [path] else cache.entries.map Prod.fst ++ [path] := by
  have hmissing : path ∉ cache.entries.map Prod.fst :=
    (Ordered.contains_eq_false_iff path _).mp hnew
  unfold MatchCache.withEntry
  rw [MatchCache.wouldClear_of_new limit hnew]
  by_cases hfull : limit ≤ cache.size
  · simp [hfull]
  · simp [hfull, Ordered.keys_put, hmissing]

namespace Router

/-! ## A single match -/

/-- A path that the router need not look for: it is cached, or no route answers it. -/
def Snapshot.Knows (s : Snapshot η) (path : String) : Prop :=
  s.cache.contains path = true ∨ s.table.scan? path = none

section Calls

variable {limit : CacheLimit} {told : List String} {m : Memory η} {path : String}

/-- A match of a path that is known gives its answer and does nothing else. -/
theorem Task.run_find_known (hm : m.Sound limit.val) (hknown : m.snapshot.Knows path) :
    (Task.find path).run limit.val LogHook.listening told m
      = ⟨.ok (.found (m.snapshot.table.scan? path)), [], m⟩ := by
  refine Task.run_of_finish ?_
  rw [Task.step, hm.snapshot.lookup_eq]
  cases hscan : m.snapshot.table.scan? path with
  | none => rfl
  | some found =>
    have hcached : m.snapshot.cache.contains path = true := by
      rcases hknown with hcached | hnone
      · exact hcached
      · rw [hnone] at hscan
        cases hscan
    simp only [hcached]
    rfl

/-- A match that finds a route for a path that is not cached puts it into the cache, and
says so first if the cache is cleared for it. -/
theorem Task.run_find_missed (hm : m.Sound limit.val) {found : RouteMatch η}
    (hnew : m.snapshot.cache.contains path = false)
    (hfound : m.snapshot.table.scan? path = some found) :
    (Task.find path).run limit.val LogHook.listening told m
      = ⟨.ok (.found (some found)),
          if m.snapshot.cache.wouldClear path limit.val then [fullMessage m.snapshot.cache.size]
          else [],
          m.replace (m.snapshot.withEntry path found.route limit.val)⟩ := by
  have hscanned : m.snapshot.lookup path = .scanned found := by
    rw [hm.snapshot.lookup_eq, hfound, hnew]
    rfl
  by_cases hfull : m.snapshot.cache.wouldClear path limit.val = true
  · rw [if_pos hfull]
    exact Task.run_find_full hscanned hfull rfl
  · rw [if_neg hfull]
    exact Task.run_find_room hscanned (Bool.eq_false_iff.mpr hfull)

end Calls

/-- Whether a match finds a route for a path that is not cached. -/
def misses (router : Router η) (path : String) : Bool :=
  !router.snapshot.cache.contains path &&
    match (router.find path).result with
    | .ok (some _) => true
    | _ => false

section Find

variable {router : Router η} {path : String}

/-- A match of a path that is known leaves the router as it is. -/
theorem find_of_known (hsound : router.memory.Sound router.limit.val)
    (hhook : router.hook = LogHook.listening) (hknown : router.snapshot.Knows path) :
    router.find path = ⟨.ok (router.snapshot.table.scan? path), [], router⟩ := by
  have hrun : (Task.find path).run router.limit.val router.hook router.told router.memory
      = ⟨.ok (.found (router.memory.snapshot.table.scan? path)), [], router.memory⟩ := by
    rw [hhook]
    exact Task.run_find_known hsound hknown
  unfold Router.find Router.call
  rw [hrun]
  dsimp only
  rw [List.append_nil]
  rfl

/-- A match that misses remembers the route it has found. -/
theorem find_of_missed (hsound : router.memory.Sound router.limit.val)
    (hhook : router.hook = LogHook.listening) {found : RouteMatch η}
    (hnew : router.snapshot.cache.contains path = false)
    (hfound : router.snapshot.table.scan? path = some found) :
    router.find path
      = let messages :=
          if router.snapshot.cache.wouldClear path router.limit.val then
            [fullMessage router.snapshot.cache.size]
          else []
        ⟨.ok (some found), messages,
          { router with
            memory := router.memory.replace
              (router.snapshot.withEntry path found.route router.limit.val)
            told := router.told ++ messages }⟩ := by
  unfold Router.find Router.call
  rw [hhook, Task.run_find_missed hsound hnew hfound]
  rfl

/-- A match misses, or its path is known. -/
theorem misses_cases (hsound : router.memory.Sound router.limit.val)
    (hhook : router.hook = LogHook.listening) (path : String) :
    (router.misses path = false ∧ router.snapshot.Knows path)
      ∨ (router.misses path = true ∧ router.snapshot.cache.contains path = false
        ∧ ∃ found, router.snapshot.table.scan? path = some found) := by
  unfold misses
  cases hcached : router.snapshot.cache.contains path with
  | true => exact Or.inl ⟨rfl, Or.inl hcached⟩
  | false =>
    cases hscan : router.snapshot.table.scan? path with
    | none =>
      rw [find_of_known hsound hhook (Or.inr hscan), hscan]
      exact Or.inl ⟨rfl, Or.inr hscan⟩
    | some found =>
      rw [find_of_missed hsound hhook hcached hscan]
      exact Or.inr ⟨rfl, rfl, found, rfl⟩

end Find

/-! ## Rounds of misses -/

/-- How many of `misses` matches that missed were since the cache was last cleared. -/
def held (limit : Nat) : Nat → Nat
  | 0 => 0
  | before + 1 => before % limit + 1

/-- How often the cache was cleared in `misses` matches that missed. -/
def clearings (limit misses : Nat) : Nat :=
  (misses - 1) / limit

/-- A round that is over is followed by one of a single miss. -/
theorem held_succ_of_full {limit misses : Nat} (hlimit : 0 < limit)
    (hfull : held limit misses = limit) :
    held limit (misses + 1) = 1 ∧ clearings limit (misses + 1) = clearings limit misses + 1 := by
  cases misses with
  | zero =>
    have hzero : 0 = limit := hfull
    omega
  | succ before =>
    have hlast : before % limit + 1 = limit := hfull
    have hdiv : before % limit + limit * (before / limit) = before := Nat.mod_add_div before limit
    have hnext : (before + 1) / limit = before / limit + 1 ∧ (before + 1) % limit = 0 := by
      refine (Nat.div_mod_unique hlimit).mpr ⟨?_, hlimit⟩
      rw [Nat.mul_succ]
      omega
    exact ⟨congrArg (· + 1) hnext.2, hnext.1⟩

/-- A round that is not over takes one more miss. -/
theorem held_succ_of_room {limit misses : Nat} (hroom : held limit misses < limit) :
    held limit (misses + 1) = held limit misses + 1
      ∧ clearings limit (misses + 1) = clearings limit misses := by
  cases misses with
  | zero => exact ⟨congrArg (· + 1) (Nat.zero_mod limit), rfl⟩
  | succ before =>
    have hlt : before % limit + 1 < limit := hroom
    have hdiv : before % limit + limit * (before / limit) = before := Nat.mod_add_div before limit
    have hnext : (before + 1) / limit = before / limit
        ∧ (before + 1) % limit = before % limit + 1 := by
      refine (Nat.div_mod_unique (by omega)).mpr ⟨?_, hlt⟩
      omega
    exact ⟨congrArg (· + 1) hnext.2, hnext.1⟩

theorem held_le_limit {limit : Nat} (hlimit : 0 < limit) (misses : Nat) :
    held limit misses ≤ limit := by
  cases misses with
  | zero => exact Nat.zero_le limit
  | succ before => exact Nat.mod_lt before hlimit

theorem held_le (limit misses : Nat) : held limit misses ≤ misses := by
  cases misses with
  | zero => exact Nat.le_refl 0
  | succ before => exact Nat.succ_le_succ (Nat.mod_le before limit)

/-- A router after matches, given the paths of those that missed and what it had been told
before: the paths of the present round are cached, and each of the rounds before it has been
ended by a message. -/
structure Filled (limit : CacheLimit) (told : List String) (router : Router η)
    (missed : List String) : Prop where
  reached : router.Reached
  hook : router.hook = LogHook.listening
  bound : router.limit = limit
  paths : router.snapshot.cache.entries.map Prod.fst
    = missed.rtake (held limit.val missed.length)
  told : router.told
    = told ++ List.replicate (clearings limit.val missed.length) (fullMessage limit.val)

section Filled

variable {limit : CacheLimit} {told : List String} {router : Router η} {missed : List String}

/-- There are as many paths in the cache as there are misses in the present round. -/
theorem Filled.size (h : Filled limit told router missed) :
    router.snapshot.cache.size = held limit.val missed.length := by
  have hle : held limit.val missed.length ≤ missed.length := held_le _ _
  have hlength := congrArg List.length h.paths
  rw [List.length_map, List.rtake, List.length_drop] at hlength
  show router.snapshot.cache.entries.length = _
  omega

/-- A match that misses takes the round one further, or begins the next one. -/
theorem Filled.find_of_missed (h : Filled limit told router missed) {path : String}
    {found : RouteMatch η} (hnew : router.snapshot.cache.contains path = false)
    (hfound : router.snapshot.table.scan? path = some found) :
    Filled limit told (router.find path).router (missed ++ [path]) := by
  have hreached : (router.find path).router.Reached := h.reached.call (.find path) Answer.match?
  have hpaths := MatchCache.paths_withEntry found.route limit.val hnew
  have hclears := MatchCache.wouldClear_of_new limit.val hnew
  have hlength : (missed ++ [path]).length = missed.length + 1 := List.length_append
  rw [Router.find_of_missed h.reached.sound h.hook hnew hfound, h.bound, hclears] at hreached ⊢
  rw [h.size] at hpaths hreached ⊢
  by_cases hfull : limit.val ≤ held limit.val missed.length
  · -- the round is over: the cache is cleared, and the path begins the next one
    have hheld : held limit.val missed.length = limit.val :=
      Nat.le_antisymm (held_le_limit limit.property _) hfull
    obtain ⟨hplace, hcount⟩ := held_succ_of_full limit.property hheld
    refine ⟨hreached, h.hook, rfl, ?_, ?_⟩
    · rw [hlength, hplace, List.rtake_concat_succ, List.rtake_zero]
      rw [if_pos hfull] at hpaths
      exact hpaths
    · rw [hlength, hcount, List.replicate_succ', ← List.append_assoc, ← h.told]
      simp [hheld]
  · obtain ⟨hplace, hcount⟩ := held_succ_of_room (Nat.lt_of_not_le hfull)
    refine ⟨hreached, h.hook, rfl, ?_, ?_⟩
    · rw [hlength, hplace, List.rtake_concat_succ, ← h.paths]
      rw [if_neg hfull] at hpaths
      exact hpaths
    · rw [hlength, hcount, ← h.told]
      simp [hfull]

/-- A match preserves what is said of a router. -/
theorem Filled.find (h : Filled limit told router missed) (path : String) :
    Filled limit told (router.find path).router
      (if router.misses path then missed ++ [path] else missed) := by
  rcases misses_cases h.reached.sound h.hook path with
    ⟨hmisses, hknown⟩ | ⟨hmisses, hnew, found, hfound⟩
  · rw [hmisses, find_of_known h.reached.sound h.hook hknown]
    exact h
  · rw [hmisses]
    exact h.find_of_missed hnew hfound

end Filled

/-! ## A run of matches -/

/-- A router after matches, one after the other. -/
def afterFinds (router : Router η) : List String → Router η
  | [] => router
  | path :: rest => (router.find path).router.afterFinds rest

/-- The paths of those matches that missed, each judged by the cache at its time. -/
def missed (router : Router η) : List String → List String
  | [] => []
  | path :: rest =>
    let later := (router.find path).router.missed rest
    if router.misses path then path :: later else later

/-- A run of matches preserves it, the misses of the run coming behind those before. -/
theorem Filled.finds {limit : CacheLimit} {told : List String} {router : Router η}
    {before : List String} (h : Filled limit told router before) (paths : List String) :
    Filled limit told (router.afterFinds paths) (before ++ router.missed paths) := by
  induction paths generalizing router before with
  | nil =>
    rw [missed, List.append_nil]
    exact h
  | cons path rest ih =>
    have hrest := ih (h.find path)
    rw [missed, afterFinds]
    cases hmisses : router.misses path with
    | false =>
      rw [hmisses] at hrest
      exact hrest
    | true =>
      rw [hmisses, if_pos rfl, List.append_assoc] at hrest
      exact hrest

/-- A router that has just accepted a table has no miss behind it. -/
theorem filled_register {router : Router η} {entries : List (String × Registrand η)}
    (hreached : router.Reached) (hhook : router.hook = LogHook.listening)
    (haccepted : (router.register entries).result = .ok ()) :
    Filled router.limit (router.register entries).router.told (router.register entries).router
      [] := by
  have hfresh : (router.register entries).router.Reached :=
    hreached.call (.register entries) fun _ => ()
  cases hcompiled : Route.compileAll router.memory.fresh (Ordered.ofList entries) with
  | error e =>
    rw [register_of_error hcompiled] at haccepted
    cases haccepted
  | ok routes =>
    rw [register_of_ok hcompiled] at hfresh ⊢
    refine ⟨hfresh, hhook, rfl, rfl, ?_⟩
    rw [List.length_nil, clearings, Nat.zero_sub, Nat.zero_div, List.replicate_zero,
      List.append_nil]

/-- **A cache that is cleared when it is full.** A table has just been set, and paths are
matched one after the other, with a log hook that only listens. Of `m` matches that found
a route for a path that was not cached at that time, the cache holds the last
`(m - 1) % limit + 1`, in their order, and none if there were none; it was cleared
`(m - 1) / limit` times, each time with a message about `limit` entries, and no other
message was written. A match of a path that is cached, or that finds no route, leaves the
router as it is and writes nothing. -/
theorem cache_holds_last_round (router : Router η) (hreached : router.Reached)
    (hhook : router.hook = LogHook.listening) (entries : List (String × Registrand η))
    (haccepted : (router.register entries).result = .ok ()) (paths : List String) :
    let fresh := (router.register entries).router
    let limit := router.limit.val
    let now := fresh.afterFinds paths
    let missed := fresh.missed paths
    let m := missed.length
    (m = 0 → now.snapshot.cache.entries = [] ∧ now.told = fresh.told)
      ∧ (1 ≤ m →
        now.snapshot.cache.entries.map Prod.fst = missed.rtake ((m - 1) % limit + 1)
          ∧ now.told = fresh.told ++ List.replicate ((m - 1) / limit) (fullMessage limit))
      ∧ ∀ path, (now.snapshot.cache.contains path = true ∨ (now.find path).result = .ok none) →
          (now.find path).messages = [] ∧ (now.find path).router = now := by
  intro fresh limit now missed m
  have hfilled : Filled router.limit fresh.told now missed :=
    (filled_register hreached hhook haccepted).finds paths
  refine ⟨fun hnone => ?_, fun hsome => ?_, fun path hknown => ?_⟩
  · have hempty : missed = [] := List.length_eq_zero_iff.mp hnone
    have hpaths := hfilled.paths
    have htold := hfilled.told
    rw [hempty] at hpaths htold
    constructor
    · rw [List.rtake_nil] at hpaths
      exact List.map_eq_nil_iff.mp hpaths
    · rw [List.length_nil, clearings, Nat.zero_sub, Nat.zero_div, List.replicate_zero,
        List.append_nil] at htold
      exact htold
  · have hheld : held limit m = (m - 1) % limit + 1 := by
      obtain ⟨before, hbefore⟩ := Nat.exists_eq_succ_of_ne_zero (Nat.one_le_iff_ne_zero.mp hsome)
      rw [hbefore]
      rfl
    refine ⟨?_, hfilled.told⟩
    rw [← hheld]
    exact hfilled.paths
  · rcases misses_cases hfilled.reached.sound hfilled.hook path with
      ⟨-, hsnapshot⟩ | ⟨-, hnew, found, hfound⟩
    · rw [find_of_known hfilled.reached.sound hfilled.hook hsnapshot]
      exact ⟨rfl, rfl⟩
    · rcases hknown with hcached | hnone
      · rw [hnew] at hcached
        cases hcached
      · rw [find_of_missed hfilled.reached.sound hfilled.hook hnew hfound] at hnone
        cases hnone

/-- A router that can remember two paths. -/
def twoPaths : Router Nat :=
  { limit := ⟨2, Nat.two_pos⟩ }

/-- Matches of paths with one segment, and of one path that no route answers: `/a` is seen
for the second time while it is cached, and for the third time after the cache has been
cleared for `/c`. -/
def visits : List String :=
  ["/a", "/b", "/a", "/c", "/a/b", "/a"]

theorem missed_visits :
    (twoPaths.register [("/:x", .handler 0)]).router.missed visits = ["/a", "/b", "/c", "/a"] := by
  decide +kernel

/-- Of four misses the last two are cached, and the first two were cleared at once. -/
theorem cache_holds_last_round_visits :
    twoPaths.Reached ∧ (twoPaths.register [("/:x", .handler 0)]).result = .ok ()
      ∧ let fresh := (twoPaths.register [("/:x", .handler 0)]).router
        (fresh.afterFinds visits).snapshot.cache.entries.map Prod.fst = ["/c", "/a"]
          ∧ (fresh.afterFinds visits).told = fresh.told ++ [fullMessage 2] := by
  have hreached : twoPaths.Reached := reached_new ⟨2, Nat.two_pos⟩ LogHook.listening
  have hcompiled : Route.compileAll twoPaths.memory.fresh
      (Ordered.ofList [("/:x", .handler 0)]) = .ok [anyRoute] := rfl
  have haccepted : (twoPaths.register [("/:x", .handler 0)]).result = .ok () := by
    rw [register_of_ok hcompiled]
    rfl
  refine ⟨hreached, haccepted, ?_⟩
  have hmany : 1 ≤ ((twoPaths.register [("/:x", .handler 0)]).router.missed visits).length := by
    rw [missed_visits]
    decide
  obtain ⟨-, hsome, -⟩ := cache_holds_last_round twoPaths hreached rfl _ haccepted visits
  have hheld := hsome hmany
  rw [missed_visits] at hheld
  exact hheld

end Router
end WebRouter
