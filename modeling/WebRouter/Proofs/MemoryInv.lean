import WebRouter.Proofs.Tables
import WebRouter.Router.Run

/-!
# What a router's memory is like at any time, step by step

`Memory.Sound` is the invariant of the memory that all calls on a router share:
the cache keeps to its limit, every cached route wins its path in the table in
force, and no stamp in use is one still to be handed out. A call between two
steps carries snapshots and routes it read earlier, which the memory may have
left behind since; `Task.Fits` is what stays true of them. A snapshot with the
stamp of the one in the cell is the one in the cell, and a route found in a table
with the stamp of the table in force wins in that table.

Everything a step can do to the memory is a `Memory.Change`. `Task.step_change`
is the one place where the steps themselves are looked into; that the memory
stays sound (`Memory.Change.sound`) and that calls under way still fit it
(`Memory.Change.fits`) are facts about changes alone. Why no route of an old
table gets into the cache of a new one can be read off `Task.step_change`: a swap
succeeds only if the snapshot seen is still in the cell, so the table that the
call has compared with its own is the table in force.
-/

namespace WebRouter

variable {η : Type}

/-! ## Caches -/

/-- An entry added to a cache is the only one that was not there before. -/
theorem MatchCache.mem_entries_withEntry {cache : MatchCache η} {path : String} {route : Route η}
    {limit : Int} {entry : String × Route η}
    (h : entry ∈ (cache.withEntry path route limit).entries) :
    entry = (path, route) ∨ entry ∈ cache.entries := by
  unfold MatchCache.withEntry at h
  split at h
  · exact Or.inl (List.mem_singleton.mp h)
  · exact Ordered.mem_put h

/-- A cache keeps one entry per path. -/
theorem MatchCache.nodup_paths_withEntry {cache : MatchCache η}
    (h : (cache.entries.map Prod.fst).Nodup) (path : String) (route : Route η) (limit : Int) :
    ((cache.withEntry path route limit).entries.map Prod.fst).Nodup := by
  unfold MatchCache.withEntry
  split
  · exact List.pairwise_singleton _ _
  · exact Ordered.nodup_keys_put h path route

namespace Router

/-! ## Snapshots -/

/-- A snapshot whose cache keeps to the limit and remembers winners only. -/
structure Snapshot.Sound (limit : Nat) (s : Snapshot η) : Prop where
  size : s.cache.size ≤ limit
  paths : (s.cache.entries.map Prod.fst).Nodup
  wins : ∀ entry ∈ s.cache.entries, s.table.Wins entry.1 entry.2
  stamped : s.table.Stamped

/-- The match that a snapshot has to offer for a path. -/
def Lookup.match? : Lookup η → Option (RouteMatch η)
  | cached found => some found
  | scanned found => some found
  | nothing => none

/-- Looking a path up in a sound snapshot finds what a scan of the table finds, and the cache
decides only on whether the scan is needed. -/
theorem Snapshot.Sound.lookup_eq {limit : Nat} {s : Snapshot η} (h : s.Sound limit)
    (path : String) :
    s.lookup path = match s.table.scan? path with
      | none => .nothing
      | some found => if s.cache.contains path then .cached found else .scanned found := by
  have hcontains : s.cache.contains path = (s.cache.find? path).isSome := rfl
  unfold Snapshot.lookup
  cases hc : s.cache.find? path with
  | none =>
    -- nothing is cached for the path, so the table is scanned
    rw [hcontains, hc]
    dsimp only
    cases s.table.scan? path with
    | none => rfl
    | some found => rfl
  | some route =>
    -- the cached route wins its path, and binding it again gives the same parameters
    obtain ⟨params, hb, hs⟩ := (h.wins _ (Ordered.mem_of_find? hc)).scan?
    simp only [hb, hs, hcontains, hc]
    rfl

/-- Looking a path up in a sound snapshot gives what a scan of the table gives. -/
theorem Snapshot.Sound.lookup {limit : Nat} {s : Snapshot η} (h : s.Sound limit) (path : String) :
    (s.lookup path).match? = s.table.scan? path := by
  rw [h.lookup_eq]
  cases s.table.scan? path with
  | none => rfl
  | some found => cases s.cache.contains path <;> rfl

/-- A path that is cached is cached with the route that a scan finds. -/
theorem Snapshot.Sound.mem_of_contains {limit : Nat} {s : Snapshot η} (h : s.Sound limit)
    {path : String} {found : RouteMatch η} (hcached : s.cache.contains path = true)
    (hfound : s.table.scan? path = some found) : (path, found.route) ∈ s.cache.entries := by
  obtain ⟨route, hroute⟩ := Option.isSome_iff_exists.mp hcached
  have hmem : (path, route) ∈ s.cache.entries := Ordered.mem_of_find? hroute
  obtain ⟨params, -, hscan⟩ := (h.wins _ hmem).scan?
  rw [hfound] at hscan
  rw [Option.some.inj hscan]
  exact hmem

theorem Snapshot.Sound.withoutCache {limit : Nat} {s : Snapshot η} (h : s.Sound limit) :
    s.withoutCache.Sound limit where
  size := Nat.zero_le _
  paths := List.nodup_nil
  wins := fun _ he => by cases he
  stamped := h.stamped

theorem Snapshot.Sound.withEntry {limit : CacheLimit} {s : Snapshot η} (h : s.Sound limit.val)
    {path : String} {route : Route η} (hwins : s.table.Wins path route) :
    (s.withEntry path route limit.val).Sound limit.val where
  size := by
    have hlimit : (1 : Int) ≤ (limit.val : Int) := by exact_mod_cast limit.property
    have hsize : (s.cache.size : Int) ≤ (limit.val : Int) := by exact_mod_cast h.size
    exact_mod_cast MatchCache.size_withEntry_le hlimit hsize path route
  paths := MatchCache.nodup_paths_withEntry h.paths path route _
  wins := by
    intro entry he
    rcases MatchCache.mem_entries_withEntry he with rfl | hold
    · exact hwins
    · exact h.wins entry hold
  stamped := h.stamped

/-! ## The memory -/

/-- The memory with another snapshot in its cell. -/
def Memory.replace (m : Memory η) (new : Snapshot η) : Memory η :=
  ⟨m.cell.set ⟨m.fresh, new⟩, m.fresh + 1⟩

/-- A swap replaces the snapshot, or it only uses up a stamp because the snapshot
seen is no longer in the cell. -/
theorem Memory.swap_cases (m : Memory η) (seen : Stamped (Snapshot η)) (new : Snapshot η) :
    (m.read.stamp = seen.stamp ∧ m.swap seen new = (true, m.replace new))
      ∨ (m.read.stamp ≠ seen.stamp
        ∧ m.swap seen new = (false, { m with fresh := m.fresh + 1 })) := by
  unfold Memory.swap
  by_cases h : m.read.stamp = seen.stamp
  · rw [AtomicCell.compareAndSet_of_eq h]
    exact Or.inl ⟨h, rfl⟩
  · rw [AtomicCell.compareAndSet_of_ne h]
    exact Or.inr ⟨h, rfl⟩

/-- A memory that holds a sound snapshot, with its stamps all handed out. -/
structure Memory.Sound (limit : Nat) (m : Memory η) : Prop where
  snapshot : m.snapshot.Sound limit
  stamp_lt : m.read.stamp < m.fresh
  table_lt : m.snapshot.table.stamp < m.fresh

theorem Memory.sound_initial (limit : Nat) : (Memory.initial : Memory η).Sound limit where
  snapshot :=
    { size := Nat.zero_le _
      paths := List.nodup_nil
      wins := fun _ he => by cases he
      stamped := ⟨fun _ hr => (List.not_mem_nil hr).elim, List.nodup_nil⟩ }
  stamp_lt := Nat.zero_lt_one
  table_lt := Nat.zero_lt_one

/-- A snapshot that was in the cell at some time. If it has the stamp of the one
that is there now, it is that one. -/
def Memory.Knows (m : Memory η) (seen : Stamped (Snapshot η)) : Prop :=
  seen.stamp < m.fresh ∧ (seen.stamp = m.read.stamp → seen = m.read)

/-- An entry on its way into the cache. If its table is still in force, its route
wins there. -/
def Memory.Admits (m : Memory η) (w : Write η) : Prop :=
  w.table < m.fresh ∧ (w.table = m.snapshot.table.stamp → m.snapshot.table.Wins w.path w.route)

/-- What a call carries with it between two steps agrees with the memory. -/
def Task.Fits (m : Memory η) : Task η → Prop
  | register _ => True
  | registered => True
  | clear => True
  | swapCleared seen => m.Knows seen
  | find _ => True
  | offer w => m.Knows w.seen ∧ m.Admits w
  | swap w => m.Knows w.seen ∧ m.Admits w ∧ w.seen.value.table.stamp = w.table
  | reread w => m.Admits w

/-- The table that the next step of a call sets. Only a registration whose routes
all compile sets one. -/
def Task.sets? (m : Memory η) : Task η → Option (Table η)
  | register entries =>
    match Route.compileAll m.fresh (Ordered.ofList entries) with
    | .ok routes => some ⟨m.fresh, routes⟩
    | .error _ => none
  | _ => none

/-- What one step of a call can do to the memory, and the table it sets if it sets
one. -/
inductive Memory.Change (limit : Nat) (m : Memory η) : Option (Table η) → Memory η → Prop
  | kept : Change limit m none m
  /-- a swap that failed uses up a stamp -/
  | missed : Change limit m none { m with fresh := m.fresh + 1 }
  | installed {entries : List (String × Registrand η)} {routes : List (Route η)}
      (h : Route.compileAll m.fresh (Ordered.ofList entries) = .ok routes) :
      Change limit m (some ⟨m.fresh, routes⟩) (m.install routes)
  | cleared : Change limit m none (m.replace m.snapshot.withoutCache)
  | entered {path : String} {route : Route η} (h : m.snapshot.table.Wins path route) :
      Change limit m none (m.replace (m.snapshot.withEntry path route limit))

section Change

variable {set? : Option (Table η)} {m n : Memory η}

/-- A change keeps the memory sound. -/
theorem Memory.Change.sound {limit : CacheLimit} (hm : m.Sound limit.val)
    (h : Memory.Change limit.val m set? n) : n.Sound limit.val := by
  cases h with
  | kept => exact hm
  | missed => exact ⟨hm.snapshot, Nat.lt_succ_of_lt hm.stamp_lt, Nat.lt_succ_of_lt hm.table_lt⟩
  | installed hc =>
    refine ⟨⟨Nat.zero_le _, List.nodup_nil, fun _ he => ?_, ?_⟩,
      Nat.lt_succ_self _, Nat.lt_succ_self _⟩
    · cases he
    · exact Route.stamped_of_compileAll hc
  | cleared =>
    exact ⟨hm.snapshot.withoutCache, Nat.lt_succ_self _, Nat.lt_succ_of_lt hm.table_lt⟩
  | entered hw =>
    exact ⟨hm.snapshot.withEntry hw, Nat.lt_succ_self _, Nat.lt_succ_of_lt hm.table_lt⟩

variable {limit : Nat}

/-- The table in force after a change is the one it sets, or else the one before. -/
theorem Memory.Change.table (h : Memory.Change limit m set? n) :
    n.snapshot.table = set?.getD m.snapshot.table := by
  cases h <;> rfl

/-- A table is set under a stamp never used before. -/
theorem Memory.Change.stamp (h : Memory.Change limit m set? n) :
    ∀ table ∈ set?, table.stamp = m.fresh := by
  cases h with
  | installed _ => rintro table ⟨⟩; rfl
  | _ => exact fun _ ht => by cases ht

/-- The snapshot in the cell after a change is the one before it, or a new one
under a stamp never used before. -/
theorem Memory.Change.read (h : Memory.Change limit m set? n) :
    n.read = m.read ∨ n.read.stamp = m.fresh := by
  cases h with
  | kept => exact Or.inl rfl
  | missed => exact Or.inl rfl
  | installed _ => exact Or.inr rfl
  | cleared => exact Or.inr rfl
  | entered _ => exact Or.inr rfl

/-- Stamps are never handed out again. -/
theorem Memory.Change.fresh_le (h : Memory.Change limit m set? n) : m.fresh ≤ n.fresh := by
  cases h with
  | kept => exact Nat.le_refl _
  | missed => exact Nat.le_succ _
  | installed _ => exact Nat.le_succ _
  | cleared => exact Nat.le_succ _
  | entered _ => exact Nat.le_succ _

theorem Memory.Change.knows (h : Memory.Change limit m set? n) {seen : Stamped (Snapshot η)}
    (hs : m.Knows seen) : n.Knows seen := by
  refine ⟨Nat.lt_of_lt_of_le hs.1 h.fresh_le, ?_⟩
  intro he
  rcases h.read with hr | hr
  · rw [hr] at he ⊢
    exact hs.2 he
  · have := hs.1
    omega

theorem Memory.Change.admits (h : Memory.Change limit m set? n) {w : Write η}
    (hw : m.Admits w) : n.Admits w := by
  refine ⟨Nat.lt_of_lt_of_le hw.1 h.fresh_le, ?_⟩
  intro he
  rw [h.table] at he ⊢
  cases hset : set? with
  | none =>
    rw [hset] at he
    exact hw.2 he
  | some table =>
    rw [hset] at he
    have hstamp : table.stamp = m.fresh := h.stamp table hset
    have hlt : w.table < m.fresh := hw.1
    have he' : w.table = table.stamp := he
    omega

/-- A call under way still fits the memory after any other call's step. -/
theorem Memory.Change.fits (h : Memory.Change limit m set? n) {t : Task η} (ht : t.Fits m) :
    t.Fits n := by
  cases t with
  | register routes => trivial
  | registered => trivial
  | clear => trivial
  | swapCleared seen => exact h.knows ht
  | find path => trivial
  | offer w => exact ⟨h.knows ht.1, h.admits ht.2⟩
  | swap w => exact ⟨h.knows ht.1, h.admits ht.2.1, ht.2.2⟩
  | reread w => exact h.admits ht

end Change

/-! ## Steps -/

theorem Memory.Sound.knows_read {limit : Nat} {m : Memory η} (hm : m.Sound limit) :
    m.Knows m.read :=
  ⟨hm.stamp_lt, fun _ => rfl⟩

/-- A swap of a snapshot seen earlier either replaces it where it still is in
force, or only uses up a stamp. -/
theorem Memory.Knows.swap_cases {m : Memory η} {seen : Stamped (Snapshot η)} (hs : m.Knows seen)
    (new : Snapshot η) :
    (seen = m.read ∧ m.swap seen new = (true, m.replace new))
      ∨ m.swap seen new = (false, { m with fresh := m.fresh + 1 }) := by
  rcases m.swap_cases seen new with ⟨he, hsw⟩ | ⟨-, hsw⟩
  · exact Or.inl ⟨hs.2 he.symm, hsw⟩
  · exact Or.inr hsw

/-- An entry that is not given up has seen the table that it was found in. -/
theorem Write.table_of_consider {w : Write η} {limit : Nat} {u : Task η}
    (h : (w.consider limit).next? = some u) : w.seen.value.table.stamp = w.table := by
  unfold Write.consider at h
  split at h
  · cases h
  · next hne => exact Decidable.not_not.mp hne

/-- What a step does: it changes the memory in one of the ways a change can be,
and a call that goes on fits the memory afterwards. -/
theorem Task.step_change {limit : Nat} {m : Memory η} (hm : m.Sound limit) {t : Task η}
    (ht : t.Fits m) :
    Memory.Change limit m (t.sets? m) (t.step limit m).2
      ∧ ∀ u, (t.step limit m).1.next? = some u → u.Fits (t.step limit m).2 := by
  cases t with
  | register entries =>
    rw [Task.step, Task.sets?]
    cases hc : Route.compileAll m.fresh (Ordered.ofList entries) with
    | error e => exact ⟨.kept, fun u hu => by cases hu⟩
    | ok routes => exact ⟨.installed hc, fun u hu => by cases hu; trivial⟩
  | registered => exact ⟨.kept, fun u hu => by cases hu⟩
  | clear => exact ⟨.kept, fun u hu => by cases hu; exact hm.knows_read⟩
  | swapCleared seen =>
    rw [Task.step]
    rcases Memory.Knows.swap_cases ht seen.value.withoutCache with ⟨rfl, hsw⟩ | hsw
    · rw [hsw]
      exact ⟨.cleared, fun u hu => by cases hu⟩
    · rw [hsw]
      exact ⟨.missed, fun u hu => by cases hu; trivial⟩
  | find path =>
    have hl := hm.snapshot.lookup path
    rw [Task.step]
    split
    · exact ⟨.kept, fun u hu => by cases hu⟩
    · exact ⟨.kept, fun u hu => by cases hu⟩
    · next found hfound =>
      rw [hfound] at hl
      refine ⟨.kept, fun u hu => ?_⟩
      cases hu
      exact ⟨hm.knows_read, hm.table_lt, fun _ => Table.wins_of_scan? hl.symm⟩
  | offer w =>
    refine ⟨.kept, fun u hu => ?_⟩
    have hu' : u = .swap w := Write.next?_consider hu
    subst hu'
    exact ⟨ht.1, ht.2, Write.table_of_consider hu⟩
  | swap w =>
    obtain ⟨hknows, hadmits, htable⟩ := ht
    rw [Task.step]
    rcases hknows.swap_cases (w.seen.value.withEntry w.path w.route limit) with ⟨he, hsw⟩ | hsw
    · rw [hsw]
      refine ⟨?_, fun u hu => by cases hu⟩
      rw [he] at htable ⊢
      exact .entered (hadmits.2 htable.symm)
    · rw [hsw]
      have hmissed : Memory.Change limit m none { m with fresh := m.fresh + 1 } := .missed
      refine ⟨hmissed, fun u hu => ?_⟩
      cases hu
      exact hmissed.admits hadmits
  | reread w =>
    refine ⟨.kept, fun u hu => ?_⟩
    cases hu
    exact ⟨hm.knows_read, ht⟩

end Router

end WebRouter
