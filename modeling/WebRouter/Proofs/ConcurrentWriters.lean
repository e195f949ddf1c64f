import Mathlib.Data.List.Dedup
import Mathlib.Data.List.Perm.Subperm
import WebRouter.Proofs.Interleaving

/-!
# Writers side by side lose nothing

A match that scanned the table writes its entry by replacing the whole snapshot, cache and
all, by one that it has made from a snapshot read before. What keeps it from wiping out what
others have written in the meantime is that the swap fails if the snapshot is another one by
then, and that the match does not give up but reads again. `Matching` lists the stages of
such a match while the table stays the same and there is room in the cache. The step that
ends it is the one that brings its entry into the cache, if it is not there yet, and no step
takes an entry out (`Task.step_matching`). So at any time the cache holds the entries of the
matches that have ended, and nothing else (`World.Sharing`).

> `World.cache_holds_found`: a run of matches side by side, on few enough paths to be cached,
> ends with the winning routes of just those paths that have one.
-/

namespace WebRouter.Router

variable {η : Type}

/-! ## A match among others -/

/-- The entry for a route that was found in a table, with the snapshot read last. -/
def Write.ofFound (table : Table η) (path : String) (found : RouteMatch η)
    (seen : Stamped (Snapshot η)) : Write η :=
  ⟨table.stamp, path, found.route, seen, .found (some found)⟩

/-- The stages of a match while a table is in force and its entry has room in the cache. -/
inductive Matching (limit : Nat) (table : Table η) (path : String) : Phase η → Prop
  | unread : Matching limit table path (.running (.find path))
  | offering {found : RouteMatch η} {seen : Stamped (Snapshot η)}
      (hfound : table.scan? path = some found) (htable : seen.value.table = table)
      (hroom : seen.value.cache.wouldClear path limit = false) :
      Matching limit table path (.running (.offer (.ofFound table path found seen)))
  | swapping {found : RouteMatch η} {seen : Stamped (Snapshot η)}
      (hfound : table.scan? path = some found)
      (hroom : seen.value.cache.wouldClear path limit = false) :
      Matching limit table path (.running (.swap (.ofFound table path found seen)))
  /-- the swap has failed -/
  | retrying {found : RouteMatch η} {seen : Stamped (Snapshot η)}
      (hfound : table.scan? path = some found) :
      Matching limit table path (.running (.reread (.ofFound table path found seen)))
  | ended : Matching limit table path (.ended (.ok (.found (table.scan? path))))

/-- The entry that a match which has ended and found a route answers for. -/
def Call.entry? : Call η → Option (String × Route η)
  | ⟨.find path, .ended (.ok (.found (some found)))⟩ => some (path, found.route)
  | _ => none

theorem Call.entry?_eq_some_iff {call : Call η} {entry : String × Route η} :
    call.entry? = some entry
      ↔ ∃ found, call = ⟨.find entry.1, .ended (.ok (.found (some found)))⟩
        ∧ found.route = entry.2 := by
  constructor
  · intro h
    unfold Call.entry? at h
    split at h
    · next path found =>
      rw [← Option.some.inj h]
      exact ⟨found, rfl, rfl⟩
    · cases h
  · rintro ⟨found, rfl, hroute⟩
    rw [Call.entry?, hroute]

/-- A match that has ended has given what a scan of the table finds. -/
theorem Matching.result {limit : Nat} {table : Table η} {path : String}
    {result : Except Failure (Answer η)} (h : Matching limit table path (.ended result)) :
    result = .ok (.found (table.scan? path)) := by
  cases h
  rfl

/-- The entries that are there after a step of a call are those from before, and the one that
the call answers for if it has ended. -/
def Call.Adds (call : Call η) (before after : List (String × Route η)) : Prop :=
  ∀ entry, entry ∈ after ↔ entry ∈ before ∨ call.entry? = some entry

theorem Call.adds_nothing {call : Call η} (h : call.entry? = none)
    (entries : List (String × Route η)) : call.Adds entries entries := by
  intro entry
  rw [h]
  exact ⟨Or.inl, fun hp => hp.resolve_right fun hnone => by cases hnone⟩

/-- Where there is room, writing the winning route of a path adds its entry and leaves the
others. -/
theorem Snapshot.Sound.mem_withEntry {limit : Nat} {s : Snapshot η} (hs : s.Sound limit)
    {path : String} {found : RouteMatch η} (hfound : s.table.scan? path = some found)
    (hroom : s.cache.wouldClear path limit = false) (entry : String × Route η) :
    entry ∈ (s.withEntry path found.route limit).cache.entries
      ↔ entry ∈ s.cache.entries ∨ entry = (path, found.route) := by
  have hentries : (s.withEntry path found.route limit).cache.entries
      = Ordered.put path found.route s.cache.entries := by
    unfold Snapshot.withEntry MatchCache.withEntry
    rw [hroom]
    rfl
  rw [hentries]
  constructor
  · intro hput
    exact (Ordered.mem_put hput).symm
  · rintro (hold | rfl)
    · refine Ordered.mem_put_of_mem hold fun hpath => ?_
      -- a path that is cached already is cached with the route that wins it
      obtain ⟨params, -, hscan⟩ := (hs.wins entry hold).scan?
      rw [hpath, hfound] at hscan
      rw [Option.some.inj hscan]
    · exact Ordered.mem_of_find? (Ordered.find?_put_self path found.route _)

/-- A step of a match takes it to its next stage, and adds to the cache just the entry of a
match that it ends. -/
theorem Task.step_matching {limit : Nat} {table : Table η} {m : Memory η} {t : Task η}
    {path : String} (hm : m.Sound limit) (hfits : t.Fits m) (htable : m.snapshot.table = table)
    (hroom : (table.scan? path).isSome → m.snapshot.cache.wouldClear path limit = false)
    (hstage : Matching limit table path (.running t)) :
    let next := Phase.after (t.step limit m).1
    let n := (t.step limit m).2
    Matching limit table path next ∧ n.snapshot.table = table
      ∧ Call.Adds ⟨.find path, next⟩ m.snapshot.cache.entries n.snapshot.cache.entries := by
  subst htable
  cases hstage with
  | unread =>
    have hended : Matching limit m.snapshot.table path
        (.ended (.ok (.found (m.snapshot.table.scan? path)))) := .ended
    rw [Task.step, hm.snapshot.lookup_eq]
    cases hscan : m.snapshot.table.scan? path with
    | none =>
      rw [hscan] at hended
      exact ⟨hended, rfl, Call.adds_nothing rfl _⟩
    | some found =>
      rw [hscan] at hended
      cases hcached : m.snapshot.cache.contains path with
      | true =>
        refine ⟨hended, rfl, fun entry => ⟨Or.inl, ?_⟩⟩
        rintro (hold | hnew)
        · exact hold
        · have hentry : (path, found.route) = entry := Option.some.inj hnew
          rw [← hentry]
          exact hm.snapshot.mem_of_contains hcached hscan
      | false =>
        have hfree := hroom (Option.isSome_of_mem hscan)
        exact ⟨.offering hscan rfl hfree, rfl, Call.adds_nothing rfl _⟩
  | @offering found seen hfound hseen hfree =>
    have hconsider : (Write.ofFound m.snapshot.table path found seen).consider limit
        = .run (.swap (.ofFound m.snapshot.table path found seen)) := by
      unfold Write.consider
      rw [if_neg fun hne => hne (congrArg Table.stamp hseen)]
      exact if_neg (Bool.eq_false_iff.mp hfree)
    rw [Task.step, hconsider]
    exact ⟨.swapping hfound hfree, rfl, Call.adds_nothing rfl _⟩
  | @swapping found seen hfound hfree =>
    have hknows : m.Knows seen := hfits.1
    rw [Task.step]
    rcases hknows.swap_cases (seen.value.withEntry path found.route limit) with ⟨he, hsw⟩ | hsw
    · -- nothing has been written since the snapshot was read
      subst he
      have hended : Matching limit m.snapshot.table path (.ended (.ok (.found (some found)))) := by
        rw [← hfound]
        exact .ended
      rw [Write.ofFound, hsw]
      refine ⟨hended, rfl, fun entry => ?_⟩
      have hentry : Call.entry? ⟨.find path, .ended (.ok (.found (some found)))⟩ = some entry
          ↔ entry = (path, found.route) := by
        rw [Call.entry?, Option.some.injEq]
        exact eq_comm
      exact (hm.snapshot.mem_withEntry hfound hfree entry).trans (or_congr_right hentry.symm)
    · rw [Write.ofFound, hsw]
      exact ⟨.retrying hfound, rfl, Call.adds_nothing rfl _⟩
  | @retrying found seen hfound =>
    have hfree := hroom (Option.isSome_of_mem hfound)
    exact ⟨.offering hfound rfl hfree, rfl, Call.adds_nothing rfl _⟩

/-- The operation that a move begins. -/
def Move.begun? : Move η → Option (Operation η)
  | .begin operation => some operation
  | _ => none

/-! ## Room for all -/

/-- The paths among these that a table has a route for. -/
def Table.answered (table : Table η) (paths : List String) : List String :=
  paths.filter fun path => (table.scan? path).isSome

/-- A cache that remembers only some of few enough paths has room for each of them. -/
theorem MatchCache.room_of_few {cache : MatchCache η} {limit : Nat} {paths : List String}
    {path : String} (hdistinct : (cache.entries.map Prod.fst).Nodup)
    (hcached : ∀ entry ∈ cache.entries, entry.1 ∈ paths) (hpath : path ∈ paths)
    (hfew : paths.dedup.length ≤ limit) : cache.wouldClear path limit = false := by
  unfold MatchCache.wouldClear
  cases hnew : cache.contains path with
  | true => rfl
  | false =>
    have hmissing : path ∉ cache.entries.map Prod.fst :=
      (Ordered.contains_eq_false_iff path _).mp hnew
    -- with the path itself there are no more paths in the cache than may be
    have hall : path :: cache.entries.map Prod.fst ⊆ paths.dedup := by
      intro other hother
      rw [List.mem_dedup]
      rcases List.mem_cons.mp hother with rfl | hold
      · exact hpath
      · obtain ⟨entry, hentry, rfl⟩ := List.mem_map.mp hold
        exact hcached entry hentry
    have hlength := (List.subperm_of_subset (hdistinct.cons hmissing) hall).length_le
    rw [List.length_cons, List.length_map] at hlength
    have hsize : cache.size < limit := Nat.lt_of_lt_of_le hlength hfew
    simp only [Bool.not_false, Bool.true_and, decide_eq_false_iff_not]
    omega

namespace World

/-- Matches on one table, of some of the given paths. -/
structure Sharing (limit : CacheLimit) (table : Table η) (paths : List String) (w : World η) :
    Prop where
  inv : w.Inv limit
  inForce : w.memory.snapshot.table = table
  calls : ∀ call ∈ w.calls, ∃ path ∈ paths,
    call.operation = .find path ∧ Matching limit.val table path call.phase
  cached : ∀ entry, entry ∈ w.memory.snapshot.cache.entries ↔ ∃ call ∈ w.calls,
    call.entry? = some entry

section Sharing

variable {limit : CacheLimit} {table : Table η} {paths : List String} {w v : World η}

/-- A match that has ended has given what a scan of the table finds for its path. -/
theorem Sharing.result (h : Sharing limit table paths w) {path : String}
    {result : Except Failure (Answer η)} (hcall : ⟨.find path, .ended result⟩ ∈ w.calls) :
    path ∈ paths ∧ result = .ok (.found (table.scan? path)) := by
  obtain ⟨asked, hpath, hoperation, hstage⟩ := h.calls _ hcall
  cases hoperation
  exact ⟨hpath, hstage.result⟩

/-- What is cached is what some match has ended with. -/
theorem Sharing.mem_cached (h : Sharing limit table paths w) (path : String) (route : Route η) :
    (path, route) ∈ w.memory.snapshot.cache.entries
      ↔ ∃ found, ⟨.find path, .ended (.ok (.found (some found)))⟩ ∈ w.calls
        ∧ found.route = route := by
  rw [h.cached]
  constructor
  · rintro ⟨call, hcall, hanswers⟩
    obtain ⟨found, rfl, hroute⟩ := Call.entry?_eq_some_iff.mp hanswers
    exact ⟨found, hcall, hroute⟩
  · rintro ⟨found, hcall, hroute⟩
    exact ⟨_, hcall, Call.entry?_eq_some_iff.mpr ⟨found, rfl, hroute⟩⟩

/-- Only paths that the table has a route for are cached. -/
theorem Sharing.answered (h : Sharing limit table paths w) :
    ∀ entry ∈ w.memory.snapshot.cache.entries, entry.1 ∈ table.answered paths := by
  intro entry hentry
  obtain ⟨found, hcall, -⟩ := (h.mem_cached entry.1 entry.2).mp hentry
  obtain ⟨hpath, hresult⟩ := h.result hcall
  have hfound : some found = table.scan? entry.1 := Answer.found.inj (Except.ok.inj hresult)
  refine List.mem_filter.mpr ⟨hpath, ?_⟩
  rw [← hfound]
  rfl

/-- There is room in the cache for every match that finds a route. -/
theorem Sharing.room (h : Sharing limit table paths w)
    (hfew : (table.answered paths).dedup.length ≤ limit.val) {path : String} (hpath : path ∈ paths)
    (hfound : (table.scan? path).isSome) :
    w.memory.snapshot.cache.wouldClear path limit.val = false := by
  have hanswered : path ∈ table.answered paths := List.mem_filter.mpr ⟨hpath, hfound⟩
  exact MatchCache.room_of_few h.inv.memory.snapshot.paths h.answered hanswered hfew

/-- Going on with a call takes it further in its place, and leaves the calls before and after
it. -/
theorem calls_advance {i : Nat} {phase : Phase η} (hp : w.phase? i = some phase)
    (memory : Memory η) (next : Phase η) :
    ∃ before operation after, w.calls = before ++ ⟨operation, phase⟩ :: after
      ∧ (({ w with memory } : World η).advance i next).calls
        = before ++ ⟨operation, next⟩ :: after := by
  obtain ⟨call, hcall, rfl⟩ := phase?_eq_some.mp hp
  obtain ⟨hlt, -⟩ := List.getElem?_eq_some_iff.mp hcall
  obtain ⟨before, there, after, hcalls, hplace, hmodified⟩ :=
    List.exists_of_modify (fun call : Call η => { call with phase := next }) hlt
  have hthere : there = call := by
    rw [hcalls, ← hplace] at hcall
    simpa using hcall
  subst hthere
  exact ⟨before, there.operation, after, hcalls, hmodified⟩

/-- What the calls answer for when one of them, which did not answer for anything yet, has
gone on. -/
theorem exists_entry_iff {before after : List (Call η)} {call next : Call η}
    (hcall : call.entry? = none) (entry : String × Route η) :
    (∃ other ∈ before ++ next :: after, other.entry? = some entry)
      ↔ (∃ other ∈ before ++ call :: after, other.entry? = some entry)
        ∨ next.entry? = some entry := by
  simp only [List.mem_append, List.mem_cons, or_and_right, exists_or, exists_eq_left, hcall]
  grind

/-- A step of one of the matches keeps all of them what they are. -/
theorem Sharing.step (h : Sharing limit table paths w)
    (hfew : (table.answered paths).dedup.length ≤ limit.val) {i : Nat} {t : Task η}
    (hp : w.phase? i = some (.running t)) :
    Sharing limit table paths
      (({ w with memory := (t.step limit.val w.memory).2 } : World η).advance i
        (.after (t.step limit.val w.memory).1)) := by
  have hinv := (Moved.advanced hp .stepped).inv h.inv
  obtain ⟨before, operation, after, hcalls, hadvanced⟩ :=
    calls_advance hp (t.step limit.val w.memory).2 (.after (t.step limit.val w.memory).1)
  have hcall : (⟨operation, .running t⟩ : Call η) ∈ w.calls := by
    rw [hcalls]
    exact List.mem_append_right _ List.mem_cons_self
  obtain ⟨path, hpath, hoperation, hstage⟩ := h.calls _ hcall
  cases hoperation
  obtain ⟨hnext, htable, hadds⟩ := Task.step_matching h.inv.memory (h.inv.fits hp) h.inForce
    (h.room hfew hpath) hstage
  refine ⟨hinv, htable, ?_, ?_⟩
  · intro call hmem
    rw [hadvanced] at hmem
    have hothers : ∀ other ∈ before ++ after, other ∈ w.calls := by
      intro other hother
      rw [hcalls]
      exact List.mem_append.mpr ((List.mem_append.mp hother).imp_right (List.mem_cons_of_mem _))
    rcases List.mem_append.mp hmem with hbefore | hrest
    · exact h.calls call (hothers call (List.mem_append_left _ hbefore))
    · rcases List.mem_cons.mp hrest with rfl | hafter
      · exact ⟨path, hpath, rfl, hnext⟩
      · exact h.calls call (hothers call (List.mem_append_right _ hafter))
  · intro entry
    have hrunning : Call.entry? (⟨.find path, .running t⟩ : Call η) = none := rfl
    rw [hadvanced, exists_entry_iff hrunning, ← hcalls, ← h.cached entry]
    exact hadds entry

/-- None of the matches waits for the log hook, since none writes a message. -/
theorem Sharing.not_logging (h : Sharing limit table paths w) (i : Nat) (t : Task η) :
    w.phase? i ≠ some (.logging t) := by
  intro hp
  obtain ⟨call, hcall, hphase⟩ := phase?_eq_some.mp hp
  obtain ⟨path, -, -, hstage⟩ := h.calls call (List.mem_of_getElem? hcall)
  rw [hphase] at hstage
  cases hstage

/-- A move keeps the matches what they are. -/
theorem Moved.sharing {m : Move η} (hm : Moved limit w m v)
    (hfew : (table.answered paths).dedup.length ≤ limit.val)
    (hmatch : ∀ operation ∈ m.begun?, ∃ path ∈ paths, operation = .find path)
    (h : Sharing limit table paths w) : Sharing limit table paths v := by
  have hinv := hm.inv h.inv
  cases hm with
  | idle _ => exact h
  | begun operation =>
    obtain ⟨path, hpath, rfl⟩ := hmatch operation rfl
    refine ⟨hinv, h.inForce, ?_, ?_⟩
    · intro call hmem
      rcases List.mem_append.mp hmem with hold | hnew
      · exact h.calls call hold
      · rw [List.mem_singleton.mp hnew]
        exact ⟨path, hpath, rfl, .unread⟩
    · intro entry
      rw [h.cached entry]
      constructor
      · rintro ⟨call, hcall, hanswers⟩
        exact ⟨call, List.mem_append_left _ hcall, hanswers⟩
      · rintro ⟨call, hcall, hanswers⟩
        rcases List.mem_append.mp hcall with hold | hnew
        · exact ⟨call, hold, hanswers⟩
        · rw [List.mem_singleton.mp hnew] at hanswers
          cases hanswers
  | @advanced m i phase next memory hp ha =>
    cases ha with
    | stepped => exact h.step hfew hp
    | resumed => exact absurd hp (h.not_logging i _)
    | refused => exact absurd hp (h.not_logging i _)

/-- A run keeps the matches what they are. -/
theorem Sharing.run (h : Sharing limit table paths w)
    (hfew : (table.answered paths).dedup.length ≤ limit.val) (moves : List (Move η))
    (hmatches : ∀ operation ∈ moves.filterMap Move.begun?, ∃ path ∈ paths,
      operation = .find path) : Sharing limit table paths (w.run limit moves) := by
  induction moves generalizing w with
  | nil => exact h
  | cons m rest ih =>
    have hmoved : Sharing limit table paths (w.move limit m) := by
      refine (moved limit w m).sharing hfew (fun operation hbegun => ?_) h
      exact hmatches operation (List.mem_filterMap.mpr ⟨m, List.mem_cons_self, hbegun⟩)
    refine ih hmoved fun operation hoperation => ?_
    obtain ⟨later, hlater, hbegun⟩ := List.mem_filterMap.mp hoperation
    exact hmatches operation
      (List.mem_filterMap.mpr ⟨later, List.mem_cons_of_mem _ hlater, hbegun⟩)

end Sharing

/-- Going on with a call leaves all calls what they were begun as. -/
theorem operations_advance (w : World η) (i : Nat) (phase : Phase η) :
    (w.advance i phase).calls.map Call.operation = w.calls.map Call.operation := by
  refine List.ext_getElem? fun j => ?_
  rw [List.getElem?_map, List.getElem?_map, advance_calls, Option.map_map]
  refine congrArg (Option.map · w.calls[j]?) (funext fun call => ?_)
  show Call.operation (if i = j then { call with phase } else call) = call.operation
  split <;> rfl

theorem operations_move (limit : CacheLimit) (w : World η) (m : Move η) :
    (w.move limit m).calls.map Call.operation
      = w.calls.map Call.operation ++ m.begun?.toList := by
  cases m with
  | begin operation => exact List.map_append
  | step i =>
    refine Eq.trans ?_ (List.append_nil _).symm
    rw [move]
    split
    · exact operations_advance _ i _
    · rfl
  | resume i =>
    refine Eq.trans ?_ (List.append_nil _).symm
    rw [move]
    split
    · exact operations_advance w i _
    · rfl
  | refuse i failure =>
    refine Eq.trans ?_ (List.append_nil _).symm
    rw [move]
    split
    · exact operations_advance w i _
    · rfl

/-- The calls of a world are those that were begun, in their order. -/
theorem operations_run (limit : CacheLimit) (w : World η) (moves : List (Move η)) :
    (w.run limit moves).calls.map Call.operation
      = w.calls.map Call.operation ++ moves.filterMap Move.begun? := by
  induction moves generalizing w with
  | nil => exact (List.append_nil _).symm
  | cons m rest ih =>
    have hrest : ((w.move limit m).run limit rest).calls.map Call.operation = _ :=
      ih (w.move limit m)
    rw [operations_move, List.append_assoc] at hrest
    show ((w.move limit m).run limit rest).calls.map Call.operation = _
    rw [hrest, List.filterMap_cons]
    cases m.begun? <;> rfl

/-- A router that has nothing cached, and on which no call is under way. -/
theorem sharing_start {limit : CacheLimit} {m : Memory η} (hm : m.Sound limit.val)
    (hempty : m.snapshot.cache.entries = []) (paths : List String) :
    Sharing limit m.snapshot.table paths ({ memory := m } : World η) := by
  refine ⟨⟨hm, ?_⟩, rfl, ?_, ?_⟩
  · intro call hcall
    cases hcall
  · intro call hcall
    cases hcall
  · intro entry
    show entry ∈ m.snapshot.cache.entries ↔ _
    rw [hempty]
    exact iff_of_false List.not_mem_nil fun ⟨_, hcall, _⟩ => List.not_mem_nil hcall

/-- Once all matches have ended, just those paths are cached that were matched and have a
route. -/
theorem Sharing.mem_cached_of_ended {limit : CacheLimit} {table : Table η} {paths : List String}
    {w : World η} (h : Sharing limit table paths w)
    (hoperations : w.calls.map Call.operation = paths.map .find)
    (hended : ∀ call ∈ w.calls, ∃ result, call.phase = .ended result) (path : String)
    (route : Route η) :
    (path, route) ∈ w.memory.snapshot.cache.entries ↔ path ∈ paths ∧ table.Wins path route := by
  rw [h.mem_cached path route]
  constructor
  · rintro ⟨found, hcall, rfl⟩
    obtain ⟨hpath, hresult⟩ := h.result hcall
    have hfound : some found = table.scan? path := Answer.found.inj (Except.ok.inj hresult)
    exact ⟨hpath, Table.wins_of_scan? hfound.symm⟩
  · rintro ⟨hpath, hwins⟩
    -- the path was asked for, so a match of it has ended, with the route that wins
    have hasked : Operation.find path ∈ w.calls.map Call.operation := by
      rw [hoperations]
      exact List.mem_map_of_mem hpath
    obtain ⟨⟨operation, phase⟩, hcall, hoperation⟩ := List.mem_map.mp hasked
    obtain ⟨result, hphase⟩ := hended _ hcall
    cases hoperation
    cases hphase
    obtain ⟨params, -, hscan⟩ := hwins.scan?
    obtain ⟨-, hresult⟩ := h.result hcall
    rw [hresult, hscan] at hcall
    exact ⟨⟨route, params⟩, hcall, rfl⟩

/-- **Writers side by side lose nothing.** Matches of `paths`, and no other calls, are made
on a router that has nothing cached, and the table has a route for no more of the paths than
may be cached; the steps of the matches follow one another in any order. Then at any time the
table is the one from the start, every match that has ended has given what its path resolves
to in it, and the cached paths are those of the matches that have found a route, each with
the route that was found. So once all have ended, the cached paths are those among `paths`
that have a route, each with the route that wins it. -/
theorem cache_holds_found (limit : CacheLimit) (earlier moves : List (Move η))
    (paths : List String)
    (hempty : (after limit earlier).memory.snapshot.cache.entries = [])
    (hmatches : moves.filterMap Move.begun? = paths.map .find)
    (hfew : ((after limit earlier).memory.snapshot.table.answered paths).dedup.length
      ≤ limit.val) :
    let start : World η := { memory := (after limit earlier).memory }
    let table := start.memory.snapshot.table
    let now := start.run limit moves
    let cached := now.memory.snapshot.cache.entries
    now.memory.snapshot.table = table
      ∧ (cached.map Prod.fst).Nodup
      ∧ now.calls.map Call.operation = paths.map .find
      ∧ (∀ path result, ⟨.find path, .ended result⟩ ∈ now.calls →
          ∃ found?, result = .ok (.found found?) ∧ table.Resolves path found?)
      ∧ (∀ path route, (path, route) ∈ cached ↔
          ∃ found, ⟨.find path, .ended (.ok (.found (some found)))⟩ ∈ now.calls
            ∧ found.route = route)
      ∧ ((∀ call ∈ now.calls, ∃ result, call.phase = .ended result) →
          ∀ path route, (path, route) ∈ cached ↔ path ∈ paths ∧ table.Wins path route) := by
  intro start table now cached
  have hstart : Sharing limit table paths start :=
    sharing_start (inv_after limit earlier).memory hempty paths
  have hnow : Sharing limit table paths now := by
    refine hstart.run hfew moves fun operation hoperation => ?_
    rw [hmatches] at hoperation
    obtain ⟨path, hpath, rfl⟩ := List.mem_map.mp hoperation
    exact ⟨path, hpath, rfl⟩
  have hoperations : now.calls.map Call.operation = paths.map .find := by
    rw [← hmatches]
    exact operations_run limit start moves
  refine ⟨hnow.inForce, hnow.inv.memory.snapshot.paths, hoperations, ?_, hnow.mem_cached,
    hnow.mem_cached_of_ended hoperations⟩
  intro path result hcall
  exact ⟨_, (hnow.result hcall).2, Table.scan?_eq_iff.mp rfl⟩

/-- A cache for two paths. -/
def two : CacheLimit :=
  ⟨2, by decide⟩

/-- A table is set. -/
def furnished : List (Move Nat) :=
  [.begin (.register [("/:x", .handler 0)]), .step 0, .resume 0, .step 0]

/-- Matches of `/a` and `/b` that both read the empty cache, beside one of a path that has no
route. The first of the two writes its entry, so the swap of the second fails, and it reads
again. -/
def crossed : List (Move Nat) :=
  [.begin (.find "/a"), .begin (.find "/b"), .step 0, .step 1, .step 0, .step 1, .step 0,
    .begin (.find "/a/b"), .step 2, .step 1, .step 1, .step 1, .step 1]

/-- The router after both. -/
def settled : World Nat :=
  run two { memory := (after two furnished).memory } crossed

/-- The match that the one route gives. -/
def captured (value : String) : RouteMatch Nat :=
  ⟨⟨"/:x", [.literal "", .param "x"], 0, 1⟩, [("x", value)]⟩

theorem phases_settled : settled.calls.map Call.phase
    = [.ended (.ok (.found (some (captured "a")))), .ended (.ok (.found (some (captured "b")))),
        .ended (.ok (.found none))] := by
  rfl

theorem ended_settled : ∀ call ∈ settled.calls, ∃ result, call.phase = .ended result := by
  intro call hcall
  have hphase : call.phase ∈ settled.calls.map Call.phase := List.mem_map_of_mem hcall
  rw [phases_settled] at hphase
  rcases List.mem_cons.mp hphase with h | hrest
  · exact ⟨_, h⟩
  · rcases List.mem_cons.mp hrest with h | hlast
    · exact ⟨_, h⟩
    · exact ⟨_, List.mem_singleton.mp hlast⟩

/-- Neither of the two entries is lost. -/
theorem cache_holds_found_crossed :
    (after two furnished).memory.snapshot.cache.entries = []
      ∧ crossed.filterMap Move.begun? = ["/a", "/b", "/a/b"].map .find
      ∧ ((after two furnished).memory.snapshot.table.answered ["/a", "/b", "/a/b"]).dedup.length
        ≤ two.val
      ∧ ∀ path route, (path, route) ∈ settled.memory.snapshot.cache.entries
        ↔ path ∈ ["/a", "/b", "/a/b"]
          ∧ (after two furnished).memory.snapshot.table.Wins path route := by
  have hempty : (after two furnished).memory.snapshot.cache.entries = [] := by rfl
  have hbegun : crossed.filterMap Move.begun? = ["/a", "/b", "/a/b"].map .find := by rfl
  have hfew : ((after two furnished).memory.snapshot.table.answered
      ["/a", "/b", "/a/b"]).dedup.length ≤ two.val := by
    decide +kernel
  obtain ⟨-, -, -, -, -, hall⟩ :=
    cache_holds_found two furnished crossed ["/a", "/b", "/a/b"] hempty hbegun hfew
  exact ⟨hempty, hbegun, hfew, hall ended_settled⟩

end World

end WebRouter.Router
