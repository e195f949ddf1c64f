import Mathlib.Data.List.Forall2
import WebRouter.Proofs.OneCaller
import WebRouter.Proofs.Registering

/-!
# What a log hook can change

A log hook that leaves the router alone has one way to make itself felt, which is to
raise a failure when it is told a message (`LogHook.refusal?`). A call none of whose
messages is refused is the call it would be without a hook
(`Task.run_of_not_refused`); one that is refused ends with the hook's failure
(`Task.run_of_refused`), after a registration has put its table in force and before a
match has put its entry into the cache. So the hook cannot change which table is in
force, but it can take away the answer of a call and an entry of the cache.

> `hook_matters_iff_refuses`: over a whole sequence of calls the routes in force are
> those of a router without a hook, and every call that is not refused gives the same;
> all results and all caches agree exactly if the hook refuses nothing.

Tables set at different times carry different stamps, so routes of two routers are
compared without theirs (`Route.unstamped`).
-/

namespace WebRouter

variable {η : Type}

/-- The failure that a hook raises on being told messages one after the other, given
those it was told before. -/
def LogHook.refusal? (hook : LogHook) (told : List String) : List String → Option Failure
  | [] => none
  | message :: rest =>
    match hook told message with
    | some failure => some failure
    | none => refusal? hook (told ++ [message]) rest

namespace Router

/-! ## One call -/

section Run

variable {limit : CacheLimit} {hook : LogHook} {told told' : List String} {m n : Memory η}
  {t u : Task η}

/-- A call that is refused a message ends with the hook's failure. -/
theorem Task.run_of_refused {failure : Failure}
    (h : hook.refusal? told (t.run limit.val hook told m).messages = some failure) :
    (t.run limit.val hook told m).result = .error failure := by
  fun_induction Task.run limit.val hook told m t with
  | case1 told m t result n hs => cases h
  | case2 told m t u n hs ih => exact ih h
  | case3 told m t message u n hs failure' hrefused =>
    simp only [LogHook.refusal?, hrefused, Option.some.injEq] at h
    rw [h]
  | case4 told m t message u n hs hlistens outcome ih =>
    simp only [LogHook.refusal?, hlistens] at h
    exact ih h

/-- A call that is refused nothing goes as it would without the hook. -/
theorem Task.run_of_not_refused
    (h : hook.refusal? told (t.run limit.val hook told m).messages = none) :
    t.run limit.val hook told m = t.run limit.val LogHook.listening told' m := by
  fun_induction Task.run limit.val hook told m t generalizing told' with
  | case1 told m t result n hs => rw [Task.run_of_finish hs]
  | case2 told m t u n hs ih => rw [Task.run_of_run hs, ih h]
  | case3 told m t message u n hs failure hrefused =>
    simp only [LogHook.refusal?, hrefused] at h
    cases h
  | case4 told m t message u n hs hlistens =>
    rename_i ih
    simp only [LogHook.refusal?, hlistens] at h
    rw [Task.run_of_log hs, ← ih h]
    rfl

end Run

end Router

/-! ## Routes without their stamps -/

/-- A route whichever table it belongs to. -/
def Route.unstamped (route : Route η) : Route η :=
  { route with table := 0 }

/-- A match whichever table it was found in. -/
def RouteMatch.unstamped (found : RouteMatch η) : RouteMatch η :=
  { found with route := found.route.unstamped }

/-- Entries compile, or fail to, under any stamp in the same way. -/
theorem Route.compileAll_unstamped (stamp : Nat) (entries : List (String × Registrand η)) :
    (Route.compileAll stamp entries).map (·.map Route.unstamped) = Route.compileAll 0 entries := by
  cases h : Route.compileAll stamp entries with
  | error e => exact (Route.compileAll_eq_error_iff.mpr (Route.compileAll_eq_error_iff.mp h)).symm
  | ok routes =>
    obtain ⟨hentries, hcompiled⟩ := Route.compileAll_eq_ok_iff.mp h
    refine (Route.compileAll_eq_ok_iff.mpr ⟨?_, ?_⟩).symm
    · rw [List.map_map, ← hentries]
      rfl
    · intro route hroute
      obtain ⟨stamped, hmem, rfl⟩ := List.mem_map.mp hroute
      exact ⟨(hcompiled stamped hmem).pattern, (hcompiled stamped hmem).named, rfl⟩

namespace Router

/-- A table whenever it was set. -/
def Table.unstamped (table : Table η) : Table η :=
  ⟨0, table.routes.map Route.unstamped⟩

/-- What a call gives back, whichever table it comes from. -/
def Answer.unstamped : Answer η → Answer η
  | done => done
  | found m => found (m.map RouteMatch.unstamped)

theorem Table.matches?_unstamped (route : Route η) (path : String) :
    Table.matches? route.unstamped path = (Table.matches? route path).map RouteMatch.unstamped := by
  unfold Table.matches?
  show (if route.template = Table.fallbackKey then none else _) = _
  split
  · rfl
  · rw [Option.map_map]
    rfl

/-- A scan looks at no stamps. -/
theorem Table.scan?_unstamped (table : Table η) (path : String) :
    table.unstamped.scan? path = (table.scan? path).map RouteMatch.unstamped := by
  unfold Table.scan? Table.unstamped
  induction table.routes with
  | nil => rfl
  | cons route rest ih =>
    rw [List.map_cons, List.findSome?_cons, List.findSome?_cons, Table.matches?_unstamped]
    cases Table.matches? route path with
    | none => exact ih
    | some found => rfl

/-! ## The same call on two routers -/

/-- A call that goes as the same call does without a hook, as far as the hook lets it:
`refusal?` is the failure that the hook raises in it. -/
structure Outcome.Follows (refusal? : Option Failure) (outcome plain : Outcome η) : Prop where
  table : outcome.memory.snapshot.table.unstamped = plain.memory.snapshot.table.unstamped
  kept : refusal? = none →
    outcome.result.map Answer.unstamped = plain.result.map Answer.unstamped
  refused : ∀ failure, refusal? = some failure →
    outcome.result = .error failure ∧ ∃ answer, plain.result = .ok answer

section Calls

variable {limit limit' : CacheLimit} {hook : LogHook} {told told' : List String}
  {m n : Memory η}

/-- A swap of the snapshot in the cell succeeds. -/
theorem Memory.swap_read (m : Memory η) (new : Snapshot η) :
    m.swap m.read new = (true, m.replace new) := by
  rcases m.swap_cases m.read new with h | h
  · exact h.2
  · exact absurd rfl h.1

theorem Task.run_clear (limit : CacheLimit) (hook : LogHook) (told : List String) (m : Memory η) :
    (Task.clear : Task η).run limit.val hook told m
      = ⟨.ok .done, [], m.replace m.snapshot.withoutCache⟩ := by
  have hread : (Task.clear : Task η).step limit.val m = (.run (.swapCleared m.read), m) := rfl
  have hswap : (Task.swapCleared m.read).step limit.val m
      = (.finish (.ok .done), m.replace m.snapshot.withoutCache) := by
    rw [Task.step, Memory.swap_read]
    rfl
  rw [Task.run_of_run hread, Task.run_of_finish hswap]

/-- A registration is refused, or accepted, whatever the hook; all that the hook can do is
to make an accepted one fail. -/
theorem Task.register_follows (entries : List (String × Registrand η))
    (htable : m.snapshot.table.unstamped = n.snapshot.table.unstamped) :
    let outcome := (Task.register entries).run limit.val hook told m
    Outcome.Follows (hook.refusal? told outcome.messages) outcome
      ((Task.register entries).run limit'.val LogHook.listening told' n) := by
  intro outcome
  have hm := Route.compileAll_unstamped m.fresh (Ordered.ofList entries)
  have hn := Route.compileAll_unstamped n.fresh (Ordered.ofList entries)
  rw [← hn] at hm
  cases hcm : Route.compileAll m.fresh (Ordered.ofList entries) with
  | error e =>
    cases hcn : Route.compileAll n.fresh (Ordered.ofList entries) with
    | ok routes => simp [hcm, hcn, Except.map] at hm
    | error e' =>
      have he : e = e' := by simpa [hcm, hcn, Except.map] using hm
      have houtcome : outcome = ⟨.error (.registration e), [], m⟩ :=
        Task.run_register_of_error hcm
      rw [houtcome, Task.run_register_of_error hcn, he]
      exact ⟨htable, fun _ => rfl, fun failure h => by cases h⟩
  | ok routes =>
    cases hcn : Route.compileAll n.fresh (Ordered.ofList entries) with
    | error e => simp [hcm, hcn, Except.map] at hm
    | ok routes' =>
      have hroutes : routes.map Route.unstamped = routes'.map Route.unstamped := by
        simpa [hcm, hcn, Except.map] using hm
      have houtcome : outcome = _ := Task.run_register_of_ok hcm
      rw [houtcome, Task.run_register_of_ok hcn]
      refine ⟨congrArg (Table.mk 0) hroutes, ?_, ?_⟩
      · intro hkept
        cases hraised : hook told (replacedMessage routes.length) with
        | none => rfl
        | some failure => simp [LogHook.refusal?, hraised] at hkept
      · intro failure hrefused
        cases hraised : hook told (replacedMessage routes.length) with
        | none => simp [LogHook.refusal?, hraised] at hrefused
        | some failure' =>
          have hfailure : failure' = failure := by
            simpa [LogHook.refusal?, hraised] using hrefused
          rw [hfailure]
          exact ⟨rfl, .done, rfl⟩

/-- A match gives what a scan finds, unless the hook refuses it. -/
theorem Task.find_follows (hm : m.Sound limit.val) (hn : n.Sound limit'.val) (path : String)
    (htable : m.snapshot.table.unstamped = n.snapshot.table.unstamped) :
    let outcome := (Task.find path).run limit.val hook told m
    Outcome.Follows (hook.refusal? told outcome.messages) outcome
      ((Task.find path).run limit'.val LogHook.listening told' n) := by
  intro outcome
  have hother : ∀ entries, Task.find path ≠ (Task.register entries : Task η) :=
    fun entries h => by cases h
  have hfind : ((Task.find path).run limit'.val LogHook.listening told' n).result
      = .ok (.found (n.snapshot.table.scan? path)) ∧ _ := Task.run_find hn path
  obtain ⟨hplain, hplainTable⟩ := hfind
  have hscan : (m.snapshot.table.scan? path).map RouteMatch.unstamped
      = (n.snapshot.table.scan? path).map RouteMatch.unstamped := by
    rw [← Table.scan?_unstamped, ← Table.scan?_unstamped, htable]
  refine ⟨?_, ?_, ?_⟩
  · rw [hplainTable, ← htable]
    exact congrArg Table.unstamped (Task.run_table hm trivial hother)
  · intro hkept
    have houtcome : outcome = (Task.find path).run limit.val LogHook.listening told' m :=
      Task.run_of_not_refused hkept
    rw [houtcome, (Task.run_find hm path).1, hplain]
    exact congrArg (fun found? => Except.ok (Answer.found found?)) hscan
  · intro failure hrefused
    exact ⟨Task.run_of_refused hrefused, _, hplain⟩

/-- What an operation comes to on two routers whose tables are alike. -/
theorem Operation.follows (hm : m.Sound limit.val) (hn : n.Sound limit'.val)
    (operation : Operation η)
    (htable : m.snapshot.table.unstamped = n.snapshot.table.unstamped) :
    let outcome := operation.task.run limit.val hook told m
    Outcome.Follows (hook.refusal? told outcome.messages) outcome
      (operation.task.run limit'.val LogHook.listening told' n) := by
  cases operation with
  | register entries => exact Task.register_follows entries htable
  | clear =>
    rw [Operation.task, Task.run_clear, Task.run_clear]
    exact ⟨htable, fun _ => rfl, fun failure h => by cases h⟩
  | find path => exact Task.find_follows hm hn path htable

end Calls

/-! ## The same calls on two routers -/

/-- A call in a sequence of calls: the router as it finds it, and what is asked of it. -/
structure Turn (η : Type) where
  router : Router η
  operation : Operation η

namespace Turn

/-- What the call comes to. -/
def called (turn : Turn η) : Called η (Answer η) :=
  turn.router.call turn.operation.task id

/-- The failure that the log hook raises in the call. -/
def refusal? (turn : Turn η) : Option Failure :=
  turn.router.hook.refusal? turn.router.told turn.called.messages

/-- The call taken to its end. -/
def outcome (turn : Turn η) : Outcome η :=
  turn.operation.task.run turn.router.limit.val turn.router.hook turn.router.told
    turn.router.memory

theorem called_result (turn : Turn η) : turn.called.result = turn.outcome.result := by
  show turn.outcome.result.map id = _
  cases turn.outcome.result with
  | ok answer => rfl
  | error failure => rfl

end Turn

/-- The calls that carry out operations, each on the router that the one before it has
left. -/
def turns (router : Router η) : List (Operation η) → List (Turn η)
  | [] => []
  | operation :: rest =>
    let turn : Turn η := ⟨router, operation⟩
    turn :: turn.called.router.turns rest

/-- Call by call, a router goes as one without a hook does, as far as its hook lets it. -/
theorem follows_turns {router plain : Router η} (hrouter : router.Reached)
    (hplain : plain.Reached) (hhook : plain.hook = LogHook.listening)
    (htable : router.snapshot.table.unstamped = plain.snapshot.table.unstamped)
    (operations : List (Operation η)) :
    List.Forall₂ (fun turn other : Turn η => turn.outcome.Follows turn.refusal? other.outcome)
      (router.turns operations) (plain.turns operations) := by
  induction operations generalizing router plain with
  | nil => exact .nil
  | cons operation rest ih =>
    have hfollows : Outcome.Follows (Turn.refusal? ⟨router, operation⟩)
        (Turn.outcome ⟨router, operation⟩) (Turn.outcome ⟨plain, operation⟩) := by
      unfold Turn.outcome
      dsimp only
      rw [hhook]
      exact operation.follows hrouter.sound hplain.sound htable
    exact .cons hfollows (ih (hrouter.call operation id) (hplain.call operation id) hhook
      hfollows.table)

/-- A call that is no match does the same to the memory whatever the hook refuses. -/
theorem Operation.run_memory {limit : CacheLimit} {hook : LogHook} {told told' : List String}
    {m : Memory η} (operation : Operation η) (hother : ∀ path, operation ≠ .find path) :
    (operation.task.run limit.val hook told m).memory
      = (operation.task.run limit.val LogHook.listening told' m).memory := by
  cases operation with
  | register entries =>
    rw [Operation.task]
    cases hc : Route.compileAll m.fresh (Ordered.ofList entries) with
    | error e => rw [Task.run_register_of_error hc, Task.run_register_of_error hc]
    | ok routes => rw [Task.run_register_of_ok hc, Task.run_register_of_ok hc]
  | clear => rw [Operation.task, Task.run_clear, Task.run_clear]
  | find path => exact absurd rfl (hother path)

/-- As long as a hook refuses no match, the router has the very memory that it would have
without the hook. -/
theorem memory_turns (router plain : Router η) (hmemory : router.memory = plain.memory)
    (hlimit : router.limit = plain.limit) (hhook : plain.hook = LogHook.listening)
    (operations : List (Operation η))
    (hnone : ∀ turn ∈ router.turns operations, ∀ path, turn.operation = .find path →
      turn.refusal? = none) :
    List.Forall₂ (fun turn other : Turn η => turn.outcome.memory = other.outcome.memory
        ∧ (turn.refusal? = none → turn.outcome = other.outcome))
      (router.turns operations) (plain.turns operations) := by
  induction operations generalizing router plain with
  | nil => exact .nil
  | cons operation rest ih =>
    obtain ⟨hfirst, hrest⟩ := List.forall_mem_cons.mp hnone
    have hplain : Turn.outcome ⟨plain, operation⟩ = operation.task.run router.limit.val
        LogHook.listening plain.told router.memory := by
      unfold Turn.outcome
      dsimp only
      rw [← hlimit, ← hmemory, hhook]
    have hkept : Turn.refusal? ⟨router, operation⟩ = none →
        Turn.outcome ⟨router, operation⟩ = Turn.outcome ⟨plain, operation⟩ := by
      intro hrefusal
      rw [hplain]
      exact Task.run_of_not_refused hrefusal
    have hsame : (Turn.outcome ⟨router, operation⟩).memory
        = (Turn.outcome ⟨plain, operation⟩).memory := by
      by_cases hmatch : ∃ path, operation = .find path
      · obtain ⟨path, hpath⟩ := hmatch
        exact congrArg Outcome.memory (hkept (hfirst path hpath))
      · rw [hplain]
        exact operation.run_memory fun path hpath => hmatch ⟨path, hpath⟩
    exact .cons ⟨hsame, hkept⟩ (ih _ _ hsame hlimit hhook hrest)

/-- A call that was refused would have given an answer, so calls that give the same were
not refused. -/
theorem Outcome.Follows.not_refused {refusal? : Option Failure} {outcome plain : Outcome η}
    (h : outcome.Follows refusal? plain)
    (hsame : outcome.result.map Answer.unstamped = plain.result.map Answer.unstamped) :
    refusal? = none := by
  cases hrefusal : refusal? with
  | none => rfl
  | some failure =>
    obtain ⟨hfailed, answer, hanswer⟩ := h.refused failure hrefusal
    rw [hfailed, hanswer] at hsame
    cases hsame

/-- If a router without a hook gives the same results, the hook has refused nothing. -/
theorem not_refused_of_same (limit : CacheLimit) (hook : LogHook)
    (operations : List (Operation η))
    (h : List.Forall₂ (fun turn other : Turn η =>
        turn.called.result.map Answer.unstamped = other.called.result.map Answer.unstamped)
      (({ limit, hook } : Router η).turns operations)
      (({ limit } : Router η).turns operations)) :
    ∀ turn ∈ ({ limit, hook } : Router η).turns operations, turn.refusal? = none := by
  have hfollows := follows_turns (reached_new (η := η) limit hook)
    (reached_new (η := η) limit LogHook.listening) rfl rfl operations
  have hboth : List.Forall₂ (fun turn other : Turn η => turn.refusal? = none
      ∧ turn.outcome.Follows turn.refusal? other.outcome)
      (({ limit, hook } : Router η).turns operations)
      (({ limit } : Router η).turns operations) := by
    refine h.mp (fun turn other hsame hfollow => ⟨hfollow.not_refused ?_, hfollow⟩) hfollows
    rw [← Turn.called_result, ← Turn.called_result]
    exact hsame
  exact ((List.forall₂_and_left _ _).mp hboth).1

/-- **A log hook that leaves the router alone.** Whatever operations are asked of it, a
router has at any time the routes that it would have without the hook. A call that the
hook refuses nothing gives what it would give without; one that it does refuse ends with
the hook's failure, where it would have given an answer. So all results are those of a
router without a hook exactly if the hook refuses nothing, and all caches are if it
refuses no match. -/
theorem hook_matters_iff_refuses (limit : CacheLimit) (hook : LogHook)
    (operations : List (Operation η)) :
    let turns := ({ limit, hook } : Router η).turns operations
    let plain := ({ limit } : Router η).turns operations
    List.Forall₂ (fun turn other =>
        turn.called.router.snapshot.table.unstamped = other.called.router.snapshot.table.unstamped
          ∧ (turn.refusal? = none →
              turn.called.result.map Answer.unstamped = other.called.result.map Answer.unstamped)
          ∧ ∀ failure, turn.refusal? = some failure →
              turn.called.result = .error failure ∧ ∃ answer, other.called.result = .ok answer)
        turns plain
      ∧ (List.Forall₂ (fun turn other => turn.called.result = other.called.result) turns plain ↔
        ∀ turn ∈ turns, turn.refusal? = none)
      ∧ ((∀ turn ∈ turns, ∀ path, turn.operation = .find path → turn.refusal? = none) →
        List.Forall₂ (fun turn other =>
          turn.called.router.snapshot = other.called.router.snapshot) turns plain) := by
  intro turns plain
  have hfollows := follows_turns (reached_new (η := η) limit hook)
    (reached_new (η := η) limit LogHook.listening) rfl rfl operations
  have hmemory := memory_turns ({ limit, hook } : Router η) { limit } rfl rfl rfl operations
  refine ⟨hfollows.imp fun turn other h => ?_, ⟨fun hsame => ?_, fun hnone => ?_⟩,
    fun hmatches => ?_⟩
  · rw [Turn.called_result, Turn.called_result]
    exact ⟨h.table, h.kept, h.refused⟩
  · exact not_refused_of_same limit hook operations
      (hsame.imp fun turn other h => congrArg (Except.map Answer.unstamped) h)
  · have hkept := (List.forall₂_and_left turns plain).mpr
      ⟨hnone, hmemory fun turn hturn _ _ => hnone turn hturn⟩
    refine hkept.imp fun turn other h => ?_
    rw [Turn.called_result, Turn.called_result, h.2.2 h.1]
  · refine (hmemory hmatches).imp fun turn other h => ?_
    exact congrArg Memory.snapshot h.1

/-! ## An answer that is lost -/

section Crowding

variable {limit : CacheLimit} {hook : LogHook} {told : List String} {m : Memory η}
  {path : String} {found : RouteMatch η}

/-- The entry that a match offers to the cache for a route it has just found. -/
def Memory.entry (m : Memory η) (path : String) (found : RouteMatch η) : Write η :=
  ⟨m.snapshot.table.stamp, path, found.route, m.read, .found (some found)⟩

theorem Task.run_find_scanned (h : m.snapshot.lookup path = .scanned found) :
    (Task.find path).run limit.val hook told m
      = (Task.offer (m.entry path found)).run limit.val hook told m := by
  refine Task.run_of_run ?_
  rw [Task.step, h]
  rfl

/-- The table has not changed since the route was found, so the entry is not given up. -/
theorem Memory.consider_entry :
    (m.entry path found).consider limit.val
      = if m.snapshot.cache.wouldClear path limit.val then
          .log (fullMessage m.snapshot.cache.size) (.swap (m.entry path found))
        else .run (.swap (m.entry path found)) := by
  rw [Write.consider]
  exact if_neg fun hne => hne rfl

theorem Task.step_swap_of_swapped {limit : Nat} {n : Memory η} {w : Write η}
    (h : m.swap w.seen (w.seen.value.withEntry w.path w.route limit) = (true, n)) :
    (Task.swap w).step limit m = (.finish (.ok w.answer), n) := by
  rw [Task.step, h]

/-- An entry that nothing came in between of is written at once. -/
theorem Task.run_swap_entry :
    (Task.swap (m.entry path found)).run limit.val hook told m
      = ⟨.ok (.found (some found)), [],
          m.replace (m.snapshot.withEntry path found.route limit.val)⟩ := by
  have hswap : (Task.swap (m.entry path found)).step limit.val m
      = (.finish (.ok (.found (some found))),
          m.replace (m.snapshot.withEntry path found.route limit.val)) :=
    Task.step_swap_of_swapped (Memory.swap_read m _)
  exact Task.run_of_finish hswap

/-- There is room in the cache for the route that a match has found. -/
theorem Task.run_find_room (h : m.snapshot.lookup path = .scanned found)
    (hroom : m.snapshot.cache.wouldClear path limit.val = false) :
    (Task.find path).run limit.val hook told m
      = ⟨.ok (.found (some found)), [],
          m.replace (m.snapshot.withEntry path found.route limit.val)⟩ := by
  have hoffer : (Task.offer (m.entry path found)).step limit.val m
      = (.run (.swap (m.entry path found)), m) := by
    rw [Task.step, Memory.consider_entry, hroom]
    rfl
  rw [Task.run_find_scanned h, Task.run_of_run hoffer, Task.run_swap_entry]

/-- There is no room in the cache: a message says so before the entry is written. -/
theorem Task.step_offer_full (hfull : m.snapshot.cache.wouldClear path limit.val = true) :
    (Task.offer (m.entry path found)).step limit.val m
      = (.log (fullMessage m.snapshot.cache.size) (.swap (m.entry path found)), m) := by
  rw [Task.step, Memory.consider_entry, hfull]
  rfl

/-- There is no room in the cache, and the hook refuses to be told so: the answer that
the match has in hand is lost, and nothing is remembered. -/
theorem Task.run_find_refused (h : m.snapshot.lookup path = .scanned found)
    (hfull : m.snapshot.cache.wouldClear path limit.val = true) {failure : Failure}
    (hrefused : hook told (fullMessage m.snapshot.cache.size) = some failure) :
    (Task.find path).run limit.val hook told m
      = ⟨.error failure, [fullMessage m.snapshot.cache.size], m⟩ := by
  rw [Task.run_find_scanned h, Task.run_of_log (Task.step_offer_full hfull), hrefused]

/-- There is no room in the cache, and the hook lets the message pass: the new entry is
then the only one. -/
theorem Task.run_find_full (h : m.snapshot.lookup path = .scanned found)
    (hfull : m.snapshot.cache.wouldClear path limit.val = true)
    (hlistens : hook told (fullMessage m.snapshot.cache.size) = none) :
    (Task.find path).run limit.val hook told m
      = ⟨.ok (.found (some found)), [fullMessage m.snapshot.cache.size],
          m.replace (m.snapshot.withEntry path found.route limit.val)⟩ := by
  rw [Task.run_find_scanned h, Task.run_of_log (Task.step_offer_full hfull), hlistens]
  dsimp only
  rw [Task.run_swap_entry]

end Crowding

/-- The route that two paths compete for. -/
def anyRoute : Route Nat :=
  ⟨"/:x", [.literal "", .param "x"], 0, 1⟩

/-- A hook that takes the first message it is told and refuses the others. -/
def wearyHook : LogHook := fun told _ =>
  if told.isEmpty then none else some (.raised "RuntimeError" "enough")

/-- A router with that hook that can remember one path. -/
def wearyRouter : Router Nat :=
  { limit := ⟨1, by decide⟩, hook := wearyHook }

/-- The router with its one route. -/
def wearyRouting : Router Nat :=
  { wearyRouter with
    memory := Memory.initial.install [anyRoute]
    told := [replacedMessage 1] }

/-- The router once it remembers a path. -/
def wearyCrowded : Router Nat :=
  { wearyRouting with
    memory := wearyRouting.memory.replace (wearyRouting.snapshot.withEntry "/a" anyRoute 1) }

theorem wearyRouting_of_register :
    (Turn.called ⟨wearyRouter, .register [("/:x", .handler 0)]⟩).router = wearyRouting := by
  have hcompiled : Route.compileAll wearyRouter.memory.fresh
      (Ordered.ofList [("/:x", .handler 0)]) = .ok [anyRoute] := rfl
  unfold Turn.called Router.call Operation.task
  rw [Task.run_register_of_ok hcompiled]
  rfl

theorem wearyCrowded_of_find :
    (Turn.called ⟨wearyRouting, .find "/a"⟩).router = wearyCrowded := by
  have hfound : wearyRouting.memory.snapshot.lookup "/a"
      = .scanned ⟨anyRoute, [("x", "a")]⟩ := by rfl
  have hroom : wearyRouting.memory.snapshot.cache.wouldClear "/a" 1 = false := by rfl
  unfold Turn.called Router.call Operation.task
  dsimp only
  rw [Task.run_find_room hfound hroom]
  rfl

/-- The second path has a route, and the match of it fails because of the hook. -/
theorem refusal?_crowded :
    Turn.refusal? ⟨wearyCrowded, .find "/b"⟩ = some (.raised "RuntimeError" "enough") := by
  have hfound : wearyCrowded.memory.snapshot.lookup "/b"
      = .scanned ⟨anyRoute, [("x", "b")]⟩ := by rfl
  have hfull : wearyCrowded.memory.snapshot.cache.wouldClear "/b" 1 = true := by rfl
  have hrefused : wearyCrowded.hook wearyCrowded.told (fullMessage 1)
      = some (.raised "RuntimeError" "enough") := by rfl
  unfold Turn.refusal? Turn.called Router.call Operation.task
  dsimp only
  rw [Task.run_find_refused hfound hfull hrefused]
  rfl

/-- Two paths with one route, of which only one can be remembered. -/
def crowding : List (Operation Nat) :=
  [.register [("/:x", .handler 0)], .find "/a", .find "/b"]

/-- A hook can take an answer away: the second path has a route, but matching it fails. -/
theorem refusal_takes_answer :
    ¬ ∀ (limit : CacheLimit) (hook : LogHook) (operations : List (Operation Nat)),
        List.Forall₂ (fun turn other =>
            turn.called.result.map Answer.unstamped = other.called.result.map Answer.unstamped)
          (({ limit, hook } : Router Nat).turns operations)
          (({ limit } : Router Nat).turns operations) := by
  intro h
  have hnone := not_refused_of_same ⟨1, by decide⟩ wearyHook crowding
    (h ⟨1, by decide⟩ wearyHook crowding)
  have hturns : wearyRouter.turns crowding
      = [⟨wearyRouter, .register [("/:x", .handler 0)]⟩, ⟨wearyRouting, .find "/a"⟩,
          ⟨wearyCrowded, .find "/b"⟩] := by
    rw [crowding, turns, turns, turns, turns, wearyRouting_of_register, wearyCrowded_of_find]
  have hlast : (⟨wearyCrowded, .find "/b"⟩ : Turn Nat) ∈ wearyRouter.turns crowding := by
    rw [hturns]
    simp
  have hrefused := hnone _ hlast
  rw [refusal?_crowded] at hrefused
  cases hrefused

end Router

end WebRouter
