import WebRouter.Proofs.CachedMatch
import WebRouter.Router

/-!
# Log hooks that use the router

A log hook may make calls of its own while a call waits for it, and is told the
messages of those in turn; a `Machine` runs a call together with all of them. Seen
from the memory that is nothing new: what a machine does next is a move in a world,
or none (`Shows.step`), in which the call in focus and the calls that wait are
calls side by side. So what holds after every run of a world holds of a machine at
any time (`Shows.run`), and a match is still a match without a cache:

> `find_in_machine`: a match that returns gives what its path resolves to in the
> table that was in force when it was called, whatever its hook does to the router
> in the meantime.

The one thing asked of a hook is that it makes whole calls (`MakesCalls`). A hook
that makes none gives the router of one caller at a time (`machine_of_run`), so
that every state of such a router is one that a world can come to
(`Reached.call`).
-/

namespace WebRouter.Router

variable {η ρ : Type}

/-- A move of a hook that, if it is a call, is one that any caller may make. -/
def IsCall : HookMove (Task η) → Prop
  | .resume => True
  | .fail _ => True
  | .call t => ∃ operation : Operation η, t = operation.task

/-- A hook that makes whole calls, and does not enter one half-way. -/
structure MakesCalls (hook : ReentrantHook (Memory η) (Task η) (Answer η) ρ) : Prop where
  told : ∀ message m r, IsCall (hook.told message m r).1
  answered : ∀ result m r, IsCall (hook.answered result m r).1

/-- How far a call in focus has come. -/
def Phase.ofFocus : Machine.Focus (Task η) (Answer η) → Phase η
  | .task t => running t
  | .hook u _ => logging u
  | .ended result => ended result

/-! ## Phases in a world that has moved -/

namespace World

theorem phase?_advance_self {w : World η} {i : Nat} {phase : Phase η} (h : w.phase? i = some phase)
    (next : Phase η) : (w.advance i next).phase? i = some next := by
  obtain ⟨call, hcall, -⟩ := phase?_eq_some.mp h
  rw [phase?, advance_calls, hcall, Option.map_some, if_pos rfl]
  rfl

theorem phase?_advance_of_ne {w : World η} {i j : Nat} (h : i ≠ j) (next : Phase η) :
    (w.advance i next).phase? j = w.phase? j := by
  rw [phase?, phase?, advance_calls]
  cases w.calls[j]? with
  | none => rfl
  | some call => rw [Option.map_some, if_neg h]

theorem lt_of_phase? {w : World η} {i : Nat} {phase : Phase η} (h : w.phase? i = some phase) :
    i < w.calls.length := by
  obtain ⟨call, hcall, -⟩ := phase?_eq_some.mp h
  exact (List.getElem?_eq_some_iff.mp hcall).1

theorem phase?_begin_self (limit : CacheLimit) (w : World η) (operation : Operation η) :
    (w.move limit (.begin operation)).phase? w.calls.length = some (.running operation.task) := by
  rw [phase?, move, List.getElem?_concat_length]
  rfl

theorem phase?_begin_of_lt (limit : CacheLimit) {w : World η} {i : Nat} (h : i < w.calls.length)
    (operation : Operation η) : (w.move limit (.begin operation)).phase? i = w.phase? i := by
  rw [phase?, phase?, move, List.getElem?_append_left h]

theorem move_step (limit : CacheLimit) {w : World η} {i : Nat} {t : Task η}
    (h : w.phase? i = some (.running t)) :
    w.move limit (.step i)
      = ({ w with memory := (t.step limit.val w.memory).2 } : World η).advance i
          (.after (t.step limit.val w.memory).1) := by
  rw [move, h]
  rfl

theorem move_resume (limit : CacheLimit) {w : World η} {i : Nat} {t : Task η}
    (h : w.phase? i = some (.logging t)) : w.move limit (.resume i) = w.advance i (.running t) := by
  rw [move, h]

theorem move_refuse (limit : CacheLimit) {w : World η} {i : Nat} {t : Task η}
    (h : w.phase? i = some (.logging t)) (failure : Failure) :
    w.move limit (.refuse i failure) = w.advance i (.ended (.error failure)) := by
  rw [move, h]

end World

/-! ## A machine as a world -/

/-- A world shows a machine if it has the machine's memory, call `i` is the one in
focus and the calls `outer` are those that wait for the hook, the innermost
first. -/
structure Shows (w : World η) (i : Nat) (outer : List Nat)
    (m : Machine (Memory η) (Task η) (Answer η) ρ) : Prop where
  memory : w.memory = m.state
  focus : w.phase? i = some (.ofFocus m.focus)
  move : ∀ u next, m.focus = .hook u next → IsCall next
  waiting : outer.map w.phase? = m.waiting.map fun u => some (.logging u)
  distinct : (i :: outer).Nodup

section Simulation

variable {limit : CacheLimit} {hook : ReentrantHook (Memory η) (Task η) (Answer η) ρ}
  {w : World η} {i : Nat} {outer : List Nat} {m n : Machine (Memory η) (Task η) (Answer η) ρ}

/-- Taking the call in focus further leaves those that wait as they are. -/
theorem Shows.waiting_advance (h : Shows w i outer m) (memory : Memory η) (next : Phase η) :
    outer.map (({ w with memory } : World η).advance i next).phase?
      = m.waiting.map fun u => some (.logging u) := by
  rw [← h.waiting]
  refine List.map_congr_left fun j hj => ?_
  have hne : i ≠ j := fun e => (List.nodup_cons.mp h.distinct).1 (e ▸ hj)
  rw [World.phase?_advance_of_ne hne]
  rfl

/-- The calls of a machine have begun in the world. -/
theorem Shows.lt (h : Shows w i outer m) : ∀ j ∈ i :: outer, j < w.calls.length := by
  intro j hj
  rcases List.mem_cons.mp hj with rfl | hj
  · exact World.lt_of_phase? h.focus
  · have hmem : w.phase? j ∈ m.waiting.map fun u => some (.logging u) :=
      h.waiting ▸ List.mem_map_of_mem hj
    obtain ⟨u, -, hu⟩ := List.mem_map.mp hmem
    exact World.lt_of_phase? hu.symm

/-- The call in focus goes on, as a move of the world says. -/
theorem Shows.advance (h : Shows w i outer m) {move : Move η} {next : Phase η} {memory : Memory η}
    (hmove : w.move limit move = ({ w with memory } : World η).advance i next)
    (hstate : n.state = memory) (hfocus : .ofFocus n.focus = next)
    (hcall : ∀ u next, n.focus = .hook u next → IsCall next) (hwaiting : n.waiting = m.waiting) :
    Shows (w.move limit move) i outer n := by
  have hthere : ({ w with memory } : World η).phase? i = some (.ofFocus m.focus) := h.focus
  rw [hmove]
  refine ⟨hstate.symm, ?_, hcall, ?_, h.distinct⟩
  · rw [hfocus]
    exact World.phase?_advance_self hthere next
  · rw [hwaiting]
    exact h.waiting_advance memory next

/-- What a machine does when the call in focus takes a step. -/
theorem step?_task (hhook : MakesCalls hook) {state : Memory η} {memory : ρ} {t : Task η}
    {waiting : List (Task η)}
    (h : Machine.step? (stepper limit) hook ⟨state, memory, .task t, waiting⟩ = some n) :
    n.state = (t.step limit.val state).2
      ∧ .ofFocus n.focus = Phase.after (t.step limit.val state).1
      ∧ n.waiting = waiting
      ∧ ∀ u next, n.focus = .hook u next → IsCall next := by
  unfold Machine.step? stepper at h
  dsimp only at h
  split at h
  · next u after hs => cases h; rw [hs]; exact ⟨rfl, rfl, rfl, fun _ _ e => by cases e⟩
  · next result after hs => cases h; rw [hs]; exact ⟨rfl, rfl, rfl, fun _ _ e => by cases e⟩
  · next message u after hs =>
    cases h
    rw [hs]
    refine ⟨rfl, rfl, rfl, fun v next e => ?_⟩
    cases e
    exact hhook.told message after memory

/-- What a machine does next is a move of the world that shows it, or none, and the
outermost call stays the same one. -/
theorem Shows.step (hhook : MakesCalls hook) (h : Shows w i outer m)
    (hstep : m.step? (stepper limit) hook = some n) :
    ∃ moves j inner, Shows (w.run limit moves) j inner n
      ∧ (j :: inner).getLast? = (i :: outer).getLast? := by
  obtain ⟨state, memory, focus, waiting⟩ := m
  have hmemory : w.memory = state := h.memory
  subst hmemory
  have hphase := h.focus
  cases focus with
  | task t =>
    -- the call in focus takes a step
    obtain ⟨hstate, hfocus, hwaiting, hcall⟩ := step?_task hhook hstep
    exact ⟨[.step i], i, outer,
      h.advance (World.move_step limit hphase) hstate hfocus hcall hwaiting, rfl⟩
  | hook u move =>
    have hcall : IsCall move := h.move u move rfl
    rw [Machine.step?] at hstep
    cases move with
    | resume =>
      cases hstep
      exact ⟨[.resume i], i, outer,
        h.advance (World.move_resume limit hphase) rfl rfl (fun _ _ e => by cases e) rfl, rfl⟩
    | fail failure =>
      cases hstep
      exact ⟨[.refuse i failure], i, outer,
        h.advance (World.move_refuse limit hphase failure) rfl rfl (fun _ _ e => by cases e) rfl,
        rfl⟩
    | call t =>
      -- a new call begins, and the one in focus waits
      obtain ⟨operation, rfl⟩ := hcall
      cases hstep
      refine ⟨[.begin operation], w.calls.length, i :: outer, ⟨rfl, ?_, ?_, ?_, ?_⟩, rfl⟩
      · exact World.phase?_begin_self limit w operation
      · exact fun _ _ e => by cases e
      · have hold : ∀ j ∈ i :: outer,
            (w.run limit [.begin operation]).phase? j = w.phase? j :=
          fun j hj => World.phase?_begin_of_lt limit (h.lt j hj) operation
        rw [List.map_congr_left hold, List.map_cons, List.map_cons, h.waiting, hphase]
        rfl
      · exact List.nodup_cons.mpr ⟨fun hj => Nat.lt_irrefl _ (h.lt _ hj), h.distinct⟩
  | ended result =>
    rw [Machine.step?] at hstep
    cases waiting with
    | nil => cases hstep
    | cons u waiting =>
      -- the hook gets the result, and the call that waited comes into focus
      cases hstep
      obtain ⟨j, inner, rfl, hj, hinner⟩ := List.map_eq_cons_iff.mp h.waiting
      refine ⟨[], j, inner, ⟨rfl, hj, fun v next e => ?_, hinner, h.distinct.of_cons⟩, rfl⟩
      cases e
      exact hhook.answered result w.memory memory

/-- A machine at any time is shown by the world after some moves. -/
theorem Shows.run (hhook : MakesCalls hook) (h : Shows w i outer m) (bound : Nat) :
    ∃ moves j inner, Shows (w.run limit moves) j inner (m.run (stepper limit) hook bound)
      ∧ (j :: inner).getLast? = (i :: outer).getLast? := by
  induction bound generalizing w i outer m with
  | zero => exact ⟨[], i, outer, h, rfl⟩
  | succ bound ih =>
    rw [Machine.run]
    cases hstep : m.step? (stepper limit) hook with
    | none => exact ⟨[], i, outer, h, rfl⟩
    | some n =>
      obtain ⟨first, j, inner, hn, hlast⟩ := h.step hhook hstep
      obtain ⟨later, k, rest, hend, hlast'⟩ := ih hn
      refine ⟨first ++ later, k, rest, ?_, hlast'.trans hlast⟩
      rw [World.run, List.foldl_append]
      exact hend

/-- The outermost call of a machine that has come to its result. -/
theorem Shows.result (h : Shows w i outer m) {result : Except Failure (Answer η)}
    (hresult : m.result? = some result) : outer = [] ∧ w.phase? i = some (.ended result) := by
  obtain ⟨state, memory, focus, waiting⟩ := m
  have hphase := h.focus
  have hwaiting := h.waiting
  unfold Machine.result? at hresult
  split at hresult
  · next given hfocus hnone =>
    cases hresult
    dsimp only at hfocus hnone hphase hwaiting
    subst hfocus hnone
    exact ⟨List.map_eq_nil_iff.mp hwaiting, hphase⟩
  · cases hresult

/-- A call that is about to begin, as a machine and in a world. -/
theorem shows_start (limit : CacheLimit) (w : World η) (operation : Operation η) (r : ρ) :
    Shows (w.move limit (.begin operation)) w.calls.length []
      (Machine.start w.memory r operation.task) where
  memory := rfl
  focus := World.phase?_begin_self limit w operation
  move := fun _ _ e => by cases e
  waiting := rfl
  distinct := List.pairwise_singleton _ _

/-- The memory stays sound while a call and its hook are at work. -/
theorem sound_in_machine (hhook : MakesCalls hook) (hw : w.Inv limit) (operation : Operation η)
    (r : ρ) (bound : Nat) :
    ((Machine.start w.memory r operation.task).run (stepper limit) hook bound).state.Sound
      limit.val := by
  obtain ⟨moves, j, inner, hend, -⟩ := (shows_start limit w operation r).run hhook bound
  have hbegun : (w.move limit (.begin operation)).Inv limit := (World.moved limit w _).inv hw
  rw [← hend.memory]
  exact (World.inv_run hbegun moves).memory

/-- **A match with a hook that uses the router is a match without a cache.** If it
returns, it gives what its path resolves to in the table that was in force when it
was called, whatever the hook did in the meantime. -/
theorem find_in_machine (hhook : MakesCalls hook) (hw : w.Inv limit) (r : ρ) {path : String}
    {bound : Nat} {answer : Answer η}
    (h : ((Machine.start w.memory r (.find path)).run (stepper limit) hook bound).result?
      = some (.ok answer)) :
    answer = .found (w.memory.snapshot.table.scan? path) := by
  cases bound with
  | zero => cases h
  | succ bound =>
    have hstart := shows_start limit w (.find path) r
    rw [Machine.run] at h
    cases hstep : (Machine.start w.memory r (.find path)).step? (stepper limit) hook with
    | none => rw [hstep] at h; cases h
    | some n =>
      rw [hstep] at h
      obtain ⟨hstate, hfocus, hwaiting, hcall⟩ := step?_task hhook hstep
      -- the first step is the reading, and the promise it makes is kept to the end
      have hbegun := World.phase?_begin_self limit w (.find path)
      have hread := hstart.advance (World.move_step limit hbegun) hstate hfocus hcall hwaiting
      obtain ⟨moves, k, inner, hend, hlast⟩ := hread.run hhook bound
      obtain ⟨rfl, hended⟩ := hend.result h
      obtain rfl : k = w.calls.length := Option.some.inj hlast
      obtain ⟨call, hcall, hphase⟩ := World.phase?_eq_some.mp hread.focus
      have hpromise : call.phase.Promises (.found (w.memory.snapshot.table.scan? path)) := by
        rw [hphase, hfocus]
        exact Task.step_find_promises hw.memory path
      obtain ⟨next, hnext, hkept⟩ := World.promises_run moves hcall hpromise
      rw [World.phase?, hnext] at hended
      have hnext' : next = .ended (.ok answer) := Option.some.inj hended
      rw [hnext'] at hkept
      exact hkept

end Simulation

/-! ## One caller at a time -/

/-- A hook that leaves the router alone, as the hook of a machine. Its memory is the
messages that it was told. -/
def asReentrant (hook : LogHook) :
    ReentrantHook (Memory η) (Task η) (Answer η) (List String) where
  told message _ told :=
    match hook told message with
    | some failure => (.fail failure, told ++ [message])
    | none => (.resume, told ++ [message])
  answered _ _ told := (.resume, told)

theorem makesCalls_asReentrant (hook : LogHook) : MakesCalls (η := η) (asReentrant hook) where
  told message m told := by
    unfold asReentrant
    dsimp only
    split <;> trivial
  answered _ _ _ := trivial

/-- A call on the router that is part of another one goes in a machine as it goes on its
own, if the hook leaves alone what the call is on. -/
theorem machine_of_part {σ τ : Type} {limit : CacheLimit} {hook : LogHook}
    {take : Stepper σ τ (Answer η)} {reentrant : ReentrantHook σ τ (Answer η) (List String)}
    (wrap : Task η → τ) (put : Memory η → σ)
    (htake : ∀ t m, take (wrap t) (put m)
      = ((t.step limit.val m).1.map wrap, put (t.step limit.val m).2))
    (htold : ∀ message state told, reentrant.told message state told
      = ((hook told message).elim .resume .fail, told ++ [message]))
    (told : List String) (m : Memory η) (t : Task η) :
    ∃ bound, (Machine.start (put m) told (wrap t)).run take reentrant bound
      = ⟨put (t.run limit.val hook told m).memory, told ++ (t.run limit.val hook told m).messages,
          .ended (t.run limit.val hook told m).result, []⟩ := by
  fun_induction Task.run limit.val hook told m t with
  | case1 told m t result n hs =>
    have hnext := htake t m
    rw [hs] at hnext
    refine ⟨1, ?_⟩
    simp only [Machine.run, Machine.step?, Machine.start, hnext, Progress.map, List.append_nil]
  | case2 told m t u n hs ih =>
    obtain ⟨bound, hend⟩ := ih
    have hnext := htake t m
    rw [hs] at hnext
    refine ⟨bound + 1, ?_⟩
    rw [← hend]
    simp only [Machine.run, Machine.step?, Machine.start, hnext, Progress.map]
  | case3 told m t message u n hs failure hrefused =>
    have hnext := htake t m
    rw [hs] at hnext
    refine ⟨2, ?_⟩
    simp only [Machine.run, Machine.step?, Machine.start, hnext, Progress.map, htold, hrefused,
      Option.elim]
  | case4 told m t message u n hs hlistens outcome =>
    rename_i ih
    obtain ⟨bound, hend⟩ := ih
    have hnext := htake t m
    rw [hs] at hnext
    refine ⟨bound + 2, ?_⟩
    rw [List.append_assoc, List.singleton_append] at hend
    simp only [Machine.run, Machine.step?, Machine.start, hnext, Progress.map, htold, hlistens,
      Option.elim]
    exact hend

/-- A call taken to its end is a machine that has come to its result. -/
theorem machine_of_run (limit : CacheLimit) (hook : LogHook) (told : List String) (m : Memory η)
    (t : Task η) :
    ∃ bound, (Machine.start m told t).run (stepper limit) (asReentrant hook) bound
      = ⟨(t.run limit.val hook told m).memory, told ++ (t.run limit.val hook told m).messages,
          .ended (t.run limit.val hook told m).result, []⟩ := by
  refine machine_of_part id id (fun t m => ?_) (fun message m told => ?_) told m t
  · show t.step limit.val m = _
    rcases t.step limit.val m with ⟨u | ⟨message, u⟩ | result, n⟩ <;> rfl
  · unfold asReentrant
    dsimp only
    cases hook told message <;> rfl

/-- A router in a state that calls on it can bring about, one at a time or side by side. -/
def Reached (router : Router η) : Prop :=
  ∃ moves, router.memory = (World.after router.limit moves).memory

theorem reached_new (limit : CacheLimit) (hook : LogHook) :
    Reached ({ limit, hook } : Router η) :=
  ⟨[], rfl⟩

theorem Reached.sound {router : Router η} (h : router.Reached) :
    router.memory.Sound router.limit.val := by
  obtain ⟨moves, hmoves⟩ := h
  rw [hmoves]
  exact (World.inv_after router.limit moves).memory

/-- A call leaves a router in such a state, whether it returns or fails. -/
theorem Reached.call {router : Router η} (h : router.Reached) (operation : Operation η) {α : Type}
    (read : Answer η → α) : (router.call operation.task read).router.Reached := by
  obtain ⟨moves, hmoves⟩ := h
  obtain ⟨bound, hend⟩ :=
    machine_of_run router.limit router.hook router.told router.memory operation.task
  have hstart := shows_start router.limit (World.after router.limit moves) operation router.told
  obtain ⟨later, j, inner, hshown, -⟩ :=
    hstart.run (makesCalls_asReentrant router.hook) bound
  rw [← hmoves, hend] at hshown
  refine ⟨moves ++ .begin operation :: later, ?_⟩
  rw [World.after, World.run, List.foldl_append, List.foldl_cons]
  exact hshown.memory.symm

/-- A match that returns gives what its path resolves to in the table in force. -/
theorem Reached.find {router : Router η} (h : router.Reached) {path : String}
    {found? : Option (RouteMatch η)} (hresult : (router.find path).result = .ok found?) :
    router.snapshot.table.Resolves path found? := by
  obtain ⟨moves, hmoves⟩ := h
  obtain ⟨bound, hend⟩ :=
    machine_of_run router.limit router.hook router.told router.memory (.find path)
  obtain ⟨answer, hanswer, hread⟩ : ∃ answer,
      ((Task.find path).run router.limit.val router.hook router.told router.memory).result
        = .ok answer ∧ answer.match? = found? := by
    revert hresult
    unfold Router.find Router.call
    dsimp only
    cases ((Task.find path).run router.limit.val router.hook router.told router.memory).result with
    | error e => intro h; cases h
    | ok answer => intro h; cases h; exact ⟨answer, rfl, rfl⟩
  have hinv : (World.after router.limit moves).Inv router.limit :=
    World.inv_after router.limit moves
  have hreturned : ((Machine.start (World.after router.limit moves).memory router.told
      (.find path)).run (stepper router.limit) (asReentrant router.hook) bound).result?
      = some (.ok answer) := by
    rw [← hmoves, hend, hanswer]
    rfl
  have hfound := find_in_machine (makesCalls_asReentrant router.hook) hinv router.told hreturned
  rw [← Table.scan?_eq_iff, ← hread, hfound, ← hmoves]
  rfl

end WebRouter.Router
