import WebRouter.Proofs.MemoryInv

/-!
# Calls side by side

A `World` is a router's memory with all the calls ever made on it. What happens
next is a `Move`: a new call begins, a call takes its next atomic step, or the log
hook, which a call waits for once it has written a message, returns to it or
raises a failure. Any list of moves is a run (`World.run`), so a run may let calls
overtake one another between any two of their steps, leave a match suspended with
an old snapshot for as long as it likes, and begin further calls while a hook is
at work, which is what a hook does that uses the router itself. A move that is not
possible changes nothing.

`World.Inv` holds after every run (`World.inv_after`): the memory is sound and
every call under way fits it. What a run says about the tables is kept apart
from that, in `World.tables`, the tables that were set during it, one after the
other.

> `World.state_after`: after any run the cache keeps to its limit and holds, for
> paths that resolve to them, routes of the table in force; that table is the one
> set last, and none that was in force before it.
-/

namespace WebRouter.Router

variable {η : Type}

/-- What a caller may ask of a router. -/
inductive Operation (η : Type) where
  | register (entries : List (String × Registrand η))
  | clear
  | find (path : String)

/-- The call that carries an operation out, before its first step. -/
def Operation.task : Operation η → Task η
  | register entries => .register entries
  | clear => .clear
  | find path => .find path

/-- How far a call has come. -/
inductive Phase (η : Type) where
  | running (t : Task η)
  /-- the log hook is at work on the call's message -/
  | logging (t : Task η)
  | ended (result : Except Failure (Answer η))

/-- How far a call has come after a step. -/
def Phase.after : Progress (Task η) (Answer η) → Phase η
  | .run t => running t
  | .log _ t => logging t
  | .finish result => ended result

/-- What a call carries with it agrees with the memory. -/
def Phase.Fits (m : Memory η) : Phase η → Prop
  | running t => t.Fits m
  | logging t => t.Fits m
  | ended _ => True

theorem Phase.fits_after {m : Memory η} {progress : Progress (Task η) (Answer η)}
    (h : ∀ u, progress.next? = some u → u.Fits m) : (Phase.after progress).Fits m := by
  cases progress with
  | run u => exact h u rfl
  | log message u => exact h u rfl
  | finish result => trivial

/-- A call on a router. -/
structure Call (η : Type) where
  operation : Operation η
  phase : Phase η

/-- A router's memory with the calls made on it, in the order in which they began. -/
structure World (η : Type) where
  memory : Memory η := .initial
  calls : List (Call η) := []

/-- What can happen next. -/
inductive Move (η : Type) where
  /-- a call begins -/
  | begin (operation : Operation η)
  /-- a call takes its next atomic step -/
  | step (i : Nat)
  /-- the log hook returns to a call -/
  | resume (i : Nat)
  /-- the log hook raises a failure in a call -/
  | refuse (i : Nat) (failure : Failure)

namespace World

/-- How far a call has come; `none` if there is no such call yet. -/
def phase? (w : World η) (i : Nat) : Option (Phase η) :=
  (w.calls[i]?).map Call.phase

/-- The world with a call further on. -/
def advance (w : World η) (i : Nat) (phase : Phase η) : World η :=
  { w with calls := w.calls.modify i ({ · with phase }) }

/-- The world after a move. -/
def move (limit : CacheLimit) (w : World η) : Move η → World η
  | .begin operation => { w with calls := w.calls ++ [⟨operation, .running operation.task⟩] }
  | .step i =>
    match w.phase? i with
    | some (.running t) =>
      let (progress, memory) := stepper limit t w.memory
      { w with memory }.advance i (.after progress)
    | _ => w
  | .resume i =>
    match w.phase? i with
    | some (.logging t) => w.advance i (.running t)
    | _ => w
  | .refuse i failure =>
    match w.phase? i with
    | some (.logging _) => w.advance i (.ended (.error failure))
    | _ => w

/-- The world after moves. -/
def run (limit : CacheLimit) (w : World η) (moves : List (Move η)) : World η :=
  moves.foldl (move limit) w

/-- A new router after moves. -/
def after (limit : CacheLimit) (moves : List (Move η)) : World η :=
  run limit {} moves

/-- The table that a move sets. -/
def sets? (w : World η) : Move η → Option (Table η)
  | .step i =>
    match w.phase? i with
    | some (.running t) => t.sets? w.memory
    | _ => none
  | _ => none

/-- The tables set during a run, in the order in which they were set. -/
def tablesSet (limit : CacheLimit) (w : World η) : List (Move η) → List (Table η)
  | [] => []
  | m :: rest => (w.sets? m).toList ++ tablesSet limit (w.move limit m) rest

/-- The tables in force during a run, one after the other: the one it begins with
and those it sets. -/
def tables (limit : CacheLimit) (w : World η) (moves : List (Move η)) : List (Table η) :=
  w.memory.snapshot.table :: w.tablesSet limit moves

/-! ## What a move does -/

/-- How a move takes a call further and what it does to the memory, one case for
each kind of move that does. -/
inductive Advances (limit : CacheLimit) (m : Memory η) (i : Nat) :
    Move η → Phase η → Memory η → Phase η → Prop
  | stepped {t : Task η} :
      Advances limit m i (.step i) (.running t) (t.step limit.val m).2
        (.after (t.step limit.val m).1)
  | resumed {t : Task η} : Advances limit m i (.resume i) (.logging t) m (.running t)
  | refused {t : Task η} {failure : Failure} :
      Advances limit m i (.refuse i failure) (.logging t) m (.ended (.error failure))

/-- What a move does to the world. -/
inductive Moved (limit : CacheLimit) (w : World η) : Move η → World η → Prop
  /-- a move that is not possible -/
  | idle {m : Move η} (h : w.sets? m = none) : Moved limit w m w
  | begun (operation : Operation η) :
      Moved limit w (.begin operation)
        { w with calls := w.calls ++ [⟨operation, .running operation.task⟩] }
  | advanced {m : Move η} {i : Nat} {phase next : Phase η} {memory : Memory η}
      (hp : w.phase? i = some phase) (ha : Advances limit w.memory i m phase memory next) :
      Moved limit w m ({ w with memory }.advance i next)

theorem moved (limit : CacheLimit) (w : World η) (m : Move η) :
    Moved limit w m (w.move limit m) := by
  cases m with
  | begin operation => exact .begun operation
  | step i =>
    cases h : w.phase? i with
    | none => rw [move, h]; exact .idle (by rw [sets?, h])
    | some phase =>
      cases phase with
      | running t => rw [move, h]; exact .advanced h .stepped
      | logging t => rw [move, h]; exact .idle (by rw [sets?, h])
      | ended result => rw [move, h]; exact .idle (by rw [sets?, h])
  | resume i =>
    cases h : w.phase? i with
    | none => rw [move, h]; exact .idle rfl
    | some phase =>
      cases phase with
      | running t => rw [move, h]; exact .idle rfl
      | logging t => rw [move, h]; exact .advanced h .resumed
      | ended result => rw [move, h]; exact .idle rfl
  | refuse i failure =>
    cases h : w.phase? i with
    | none => rw [move, h]; exact .idle rfl
    | some phase =>
      cases phase with
      | running t => rw [move, h]; exact .idle rfl
      | logging t => rw [move, h]; exact .advanced h .refused
      | ended result => rw [move, h]; exact .idle rfl

theorem phase?_eq_some {w : World η} {i : Nat} {phase : Phase η} :
    w.phase? i = some phase ↔ ∃ call, w.calls[i]? = some call ∧ call.phase = phase := by
  rw [phase?, Option.map_eq_some_iff]

theorem advance_calls (w : World η) (i j : Nat) (phase : Phase η) :
    (w.advance i phase).calls[j]? =
      (w.calls[j]?).map fun call => if i = j then { call with phase } else call :=
  List.getElem?_modify _ _ _ _

/-- The calls of a world further on are the old ones, all but one as they were. -/
theorem mem_advance {w : World η} {i : Nat} {phase : Phase η} {call : Call η}
    (h : call ∈ (w.advance i phase).calls) : call ∈ w.calls ∨ call.phase = phase := by
  obtain ⟨j, hj⟩ := List.mem_iff_getElem?.mp h
  rw [advance_calls, Option.map_eq_some_iff] at hj
  obtain ⟨old, hold, he⟩ := hj
  split at he
  · exact Or.inr (by rw [← he])
  · exact Or.inl (List.mem_iff_getElem?.mpr ⟨j, by rw [hold, he]⟩)

/-- A call stays the call it is, and a move takes it further or leaves it alone. -/
theorem Moved.call {limit : CacheLimit} {w v : World η} {m : Move η} (hm : Moved limit w m v)
    {i : Nat} {call : Call η} (h : w.calls[i]? = some call) :
    ∃ next, v.calls[i]? = some { call with phase := next }
      ∧ (next = call.phase ∨ Advances limit w.memory i m call.phase v.memory next) := by
  cases hm with
  | idle _ => exact ⟨call.phase, h, Or.inl rfl⟩
  | begun operation =>
    refine ⟨call.phase, ?_, Or.inl rfl⟩
    show (w.calls ++ _)[i]? = _
    rw [List.getElem?_append_left (List.getElem?_eq_some_iff.mp h).1]
    exact h
  | @advanced m j phase next memory hp ha =>
    by_cases hj : j = i
    · subst hj
      have hphase : phase = call.phase := by
        rw [phase?, h] at hp
        exact (Option.some.inj hp).symm
      refine ⟨next, ?_, Or.inr (hphase ▸ ha)⟩
      rw [advance_calls, h, Option.map_some, if_pos rfl]
    · refine ⟨call.phase, ?_, Or.inl rfl⟩
      rw [advance_calls, h, Option.map_some, if_neg hj]

/-- A call that was not there has just begun. -/
theorem Moved.new_call {limit : CacheLimit} {w v : World η} {m : Move η} (hm : Moved limit w m v)
    {i : Nat} {call : Call η} (h : w.calls[i]? = none) (hv : v.calls[i]? = some call) :
    call.phase = .running call.operation.task := by
  cases hm with
  | idle _ => rw [h] at hv; cases hv
  | begun operation =>
    have hmem : call ∈ [(⟨operation, .running operation.task⟩ : Call η)] := by
      rw [List.getElem?_append_right (List.getElem?_eq_none_iff.mp h)] at hv
      exact List.mem_of_getElem? hv
    rw [List.mem_singleton.mp hmem]
  | @advanced m j phase next memory hp ha =>
    rw [advance_calls, h] at hv
    cases hv

/-! ## The invariant -/

/-- The memory is sound, and every call under way fits it. -/
structure Inv (limit : CacheLimit) (w : World η) : Prop where
  memory : w.memory.Sound limit.val
  calls : ∀ call ∈ w.calls, call.phase.Fits w.memory

theorem inv_initial (limit : CacheLimit) : Inv limit ({} : World η) :=
  ⟨Memory.sound_initial limit.val, fun _ h => (List.not_mem_nil h).elim⟩

/-- Going on with a call that fits keeps the invariant. -/
theorem Inv.advance {limit : CacheLimit} {w : World η} (h : w.Inv limit) (i : Nat)
    {phase : Phase η} (hphase : phase.Fits w.memory) : (w.advance i phase).Inv limit := by
  refine ⟨h.memory, ?_⟩
  intro call hcall
  rcases mem_advance hcall with hold | hp
  · exact h.calls call hold
  · rw [hp]
    exact hphase

theorem Inv.fits {limit : CacheLimit} {w : World η} (h : w.Inv limit) {i : Nat} {phase : Phase η}
    (hp : w.phase? i = some phase) : phase.Fits w.memory := by
  obtain ⟨call, hcall, rfl⟩ := phase?_eq_some.mp hp
  exact h.calls call (List.mem_iff_getElem?.mpr ⟨i, hcall⟩)

/-- A change of the memory keeps the invariant, since every call still fits it. -/
theorem Inv.change {limit : CacheLimit} {w : World η} (h : w.Inv limit) {set? : Option (Table η)}
    {n : Memory η} (hc : Memory.Change limit.val w.memory set? n) :
    Inv limit { w with memory := n } := by
  refine ⟨hc.sound h.memory, ?_⟩
  intro call hcall
  have hfits := h.calls call hcall
  revert hfits
  cases call.phase with
  | running t => exact hc.fits
  | logging t => exact hc.fits
  | ended result => exact id

/-- A move changes the memory in one of the ways a step can change it. -/
theorem Moved.change {limit : CacheLimit} {w v : World η} {m : Move η} (hm : Moved limit w m v)
    (h : w.Inv limit) : ∃ set?, Memory.Change limit.val w.memory set? v.memory := by
  cases hm with
  | idle _ => exact ⟨none, .kept⟩
  | begun operation => exact ⟨none, .kept⟩
  | @advanced m i phase next memory hp ha =>
    cases ha with
    | @stepped t => exact ⟨_, (Task.step_change h.memory (h.fits hp)).1⟩
    | resumed => exact ⟨none, .kept⟩
    | refused => exact ⟨none, .kept⟩

/-- A move keeps the invariant. -/
theorem Moved.inv {limit : CacheLimit} {w v : World η} {m : Move η} (hm : Moved limit w m v)
    (h : w.Inv limit) : v.Inv limit := by
  cases hm with
  | idle _ => exact h
  | begun operation =>
    refine ⟨h.memory, ?_⟩
    intro call hcall
    rcases List.mem_append.mp hcall with hold | hnew
    · exact h.calls call hold
    · rw [List.mem_singleton.mp hnew]
      cases operation <;> trivial
  | @advanced m i phase next memory hp ha =>
    have hfits : phase.Fits w.memory := h.fits hp
    cases ha with
    | @stepped t =>
      obtain ⟨hchange, hnext⟩ := Task.step_change h.memory hfits
      exact (h.change hchange).advance i (Phase.fits_after hnext)
    | resumed => exact h.advance i hfits
    | refused => exact h.advance i trivial

/-- A run keeps the invariant. -/
theorem inv_run {limit : CacheLimit} {w : World η} (h : w.Inv limit) (moves : List (Move η)) :
    (w.run limit moves).Inv limit := by
  induction moves generalizing w with
  | nil => exact h
  | cons m rest ih => exact ih ((moved limit w m).inv h)

/-- The invariant holds of a new router after any moves. -/
theorem inv_after (limit : CacheLimit) (moves : List (Move η)) : (after limit moves).Inv limit :=
  inv_run (inv_initial limit) moves

/-! ## Which table is in force -/

/-- A move leaves the table in force or puts the one it sets in its place, under
a stamp later than that of the table before. -/
theorem Moved.table {limit : CacheLimit} {w v : World η} {m : Move η} (hm : Moved limit w m v)
    (h : w.Inv limit) :
    v.memory.snapshot.table = (w.sets? m).getD w.memory.snapshot.table
      ∧ ∀ table ∈ w.sets? m, w.memory.snapshot.table.stamp < table.stamp := by
  cases hm with
  | idle hs =>
    rw [hs]
    exact ⟨rfl, fun _ ht => by cases ht⟩
  | begun operation => exact ⟨rfl, fun _ ht => by cases ht⟩
  | @advanced m i phase next memory hp ha =>
    cases ha with
    | @stepped t =>
      obtain ⟨hchange, -⟩ := Task.step_change h.memory (h.fits hp)
      have hs : w.sets? (.step i) = t.sets? w.memory := by rw [sets?, hp]
      rw [hs]
      refine ⟨hchange.table, fun table ht => ?_⟩
      rw [hchange.stamp table ht]
      exact h.memory.table_lt
    | resumed => exact ⟨rfl, fun _ ht => by cases ht⟩
    | refused => exact ⟨rfl, fun _ ht => by cases ht⟩

/-- The table in force after a run is the last one that was put in force. -/
theorem getLast?_tables {limit : CacheLimit} {w : World η} (h : w.Inv limit)
    (moves : List (Move η)) :
    (w.tables limit moves).getLast? = some (w.run limit moves).memory.snapshot.table := by
  rw [tables, List.getLast?_cons, Option.some.injEq]
  induction moves generalizing w with
  | nil => rfl
  | cons m rest ih =>
    obtain ⟨htable, -⟩ := (moved limit w m).table h
    show _ = ((w.move limit m).run limit rest).memory.snapshot.table
    rw [← ih ((moved limit w m).inv h), htable, tablesSet]
    cases w.sets? m with
    | none => rfl
    | some table =>
      rw [Option.toList_some, List.singleton_append, List.getLast?_cons]
      rfl

/-- Tables are put in force under ever later stamps. -/
theorem tables_increasing {limit : CacheLimit} {w : World η} (h : w.Inv limit)
    (moves : List (Move η)) : (w.tables limit moves).Pairwise (·.stamp < ·.stamp) := by
  induction moves generalizing w with
  | nil => exact List.pairwise_singleton _ _
  | cons m rest ih =>
    obtain ⟨htable, hlater⟩ := (moved limit w m).table h
    have hrest := ih ((moved limit w m).inv h)
    rw [tables, htable] at hrest
    rw [tables, tablesSet]
    cases hs : w.sets? m with
    | none => rw [hs] at hrest; exact hrest
    | some table =>
      rw [hs] at hrest hlater
      have hlt := hlater table rfl
      refine List.pairwise_cons.mpr ⟨?_, hrest⟩
      intro later hm
      rcases List.mem_cons.mp hm with rfl | hm
      · exact hlt
      · exact Nat.lt_trans hlt ((List.pairwise_cons.mp hrest).1 later hm)

/-- The table in force has a later stamp than any it has replaced. -/
theorem lt_of_mem_replaced {limit : CacheLimit} {w : World η} (h : w.Inv limit)
    {moves : List (Move η)} {old : Table η} (hold : old ∈ (w.tables limit moves).dropLast) :
    old.stamp < (w.run limit moves).memory.snapshot.table.stamp := by
  obtain ⟨before, hlast⟩ := List.getLast?_eq_some_iff.mp (getLast?_tables h moves)
  have hpair := tables_increasing h moves
  rw [hlast] at hpair hold
  rw [List.dropLast_concat] at hold
  exact (List.pairwise_append.mp hpair).2.2 old hold _ (List.mem_singleton_self _)

/-- **The state of a router under any interleaving.** The cache keeps to its
limit and has one entry per path; an entry's route is a route of the table in
force, the very one the path resolves to. That table is the one set last, and
neither a table it has replaced nor a route of one is there any more. -/
theorem state_after (limit : CacheLimit) (moves : List (Move η)) :
    let s := (after limit moves).memory.snapshot
    s.cache.size ≤ limit.val
      ∧ (s.cache.entries.map Prod.fst).Nodup
      ∧ s.table.Stamped
      ∧ (∀ entry ∈ s.cache.entries,
          entry.2 ∈ s.table.routes ∧ entry.2.table = s.table.stamp ∧ s.table.Wins entry.1 entry.2)
      ∧ (tables limit {} moves).getLast? = some s.table
      ∧ ∀ old ∈ (tables limit {} moves).dropLast,
          old.stamp ≠ s.table.stamp ∧ ∀ entry ∈ s.cache.entries, entry.2.table ≠ old.stamp := by
  intro s
  have hsound : s.Sound limit.val := (inv_after limit moves).memory.snapshot
  have howned : ∀ entry ∈ s.cache.entries, entry.2 ∈ s.table.routes
      ∧ entry.2.table = s.table.stamp ∧ s.table.Wins entry.1 entry.2 := by
    intro entry he
    have hwins := hsound.wins entry he
    exact ⟨hwins.mem, hsound.stamped.owned _ hwins.mem, hwins⟩
  refine ⟨hsound.size, hsound.paths, hsound.stamped, howned,
    getLast?_tables (inv_initial limit) moves, ?_⟩
  intro old hold
  have hlt : old.stamp < s.table.stamp := lt_of_mem_replaced (inv_initial limit) hold
  refine ⟨Nat.ne_of_lt hlt, ?_⟩
  intro entry he
  rw [(howned entry he).2.1]
  exact Nat.ne_of_gt hlt

end World

end WebRouter.Router
