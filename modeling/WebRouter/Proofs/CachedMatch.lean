import WebRouter.Proofs.Interleaving

/-!
# A match with the cache is a match without it

A match decides on its answer in a single step, when it reads the memory; what
it does afterwards is to offer the route to the cache, with the answer already
in hand. `Task.answer?` is that answer, and `Phase.Promises` says that a call
will give a certain answer if it gives any. The reading makes the promise
(`Task.step_find_promises`), by `Snapshot.Sound.lookup` the promise of what a
scan of the table finds, and no later step breaks it (`Moved.promises`).

> `World.find_resolves`: whatever the other calls do in between, a match that
> returns gives what its path resolves to in the table that was in force when it
> read the memory.
-/

namespace WebRouter.Router

variable {η : Type}

/-- The answer that a call has in hand. -/
def Task.answer? : Task η → Option (Answer η)
  | offer w => some w.answer
  | swap w => some w.answer
  | reread w => some w.answer
  | _ => none

/-- If the call gives an answer at all, it is this one. -/
def Phase.Promises (answer : Answer η) : Phase η → Prop
  | running t => t.answer? = some answer
  | logging t => t.answer? = some answer
  | ended (.ok given) => given = answer
  | ended (.error _) => True

/-- A call with an answer in hand keeps it. -/
theorem Task.step_promises {limit : Nat} {m : Memory η} {t : Task η} {answer : Answer η}
    (h : t.answer? = some answer) : (Phase.after (t.step limit m).1).Promises answer := by
  cases t with
  | register entries => cases h
  | registered => cases h
  | clear => cases h
  | swapCleared seen => cases h
  | find path => cases h
  | offer w =>
    have ha : w.answer = answer := Option.some.inj h
    rw [Task.step, Write.consider]
    split
    · exact ha
    · split
      · exact h
      · exact h
  | swap w =>
    have ha : w.answer = answer := Option.some.inj h
    rw [Task.step]
    rcases m.swap_cases w.seen (w.seen.value.withEntry w.path w.route limit) with
      ⟨-, hsw⟩ | ⟨-, hsw⟩
    · rw [hsw]
      exact ha
    · rw [hsw]
      exact h
  | reread w => exact h

/-- A match that has read the memory promises what a scan of the table in force finds. -/
theorem Task.step_find_promises {limit : Nat} {m : Memory η} (hm : m.Sound limit)
    (path : String) :
    (Phase.after ((Task.find path).step limit m).1).Promises
      (.found (m.snapshot.table.scan? path)) := by
  have hl := hm.snapshot.lookup path
  rw [Task.step]
  cases h : m.snapshot.lookup path with
  | cached found => rw [← hl, h]; rfl
  | scanned found => rw [← hl, h]; rfl
  | nothing => rw [← hl, h]; rfl

namespace World

/-- A call keeps its promise in every move. -/
theorem Moved.promises {limit : CacheLimit} {w v : World η} {m : Move η} (hm : Moved limit w m v)
    {i : Nat} {call : Call η} (h : w.calls[i]? = some call) {answer : Answer η}
    (hp : call.phase.Promises answer) :
    ∃ next, v.calls[i]? = some { call with phase := next } ∧ next.Promises answer := by
  obtain ⟨next, hv, hnext⟩ := hm.call h
  refine ⟨next, hv, ?_⟩
  rcases hnext with rfl | ha
  · exact hp
  · generalize call.phase = phase, v.memory = memory at ha hp
    cases ha with
    | stepped => exact Task.step_promises hp
    | resumed => exact hp
    | refused => trivial

/-- A call keeps its promise to the end of a run. -/
theorem promises_run {limit : CacheLimit} {w : World η} (moves : List (Move η)) {i : Nat}
    {call : Call η} (h : w.calls[i]? = some call) {answer : Answer η}
    (hp : call.phase.Promises answer) :
    ∃ next, (w.run limit moves).calls[i]? = some { call with phase := next }
      ∧ next.Promises answer := by
  induction moves generalizing w call with
  | nil => exact ⟨call.phase, h, hp⟩
  | cons m rest ih =>
    obtain ⟨next, hv, hnext⟩ := (moved limit w m).promises h hp
    obtain ⟨last, hlast, hkept⟩ := ih hv hnext
    exact ⟨last, hlast, hkept⟩

/-- A call stays the operation it was begun as. -/
theorem operation_run {limit : CacheLimit} {w : World η} (moves : List (Move η)) {i : Nat}
    {call : Call η} (h : w.calls[i]? = some call) :
    ∃ next, (w.run limit moves).calls[i]? = some { call with phase := next } := by
  induction moves generalizing w call with
  | nil => exact ⟨call.phase, h⟩
  | cons m rest ih =>
    obtain ⟨next, hv, -⟩ := (moved limit w m).call h
    obtain ⟨last, hlast⟩ := ih hv
    exact ⟨last, hlast⟩

/-- At some time of the run a match reads the memory, and the answer is what a
scan of the table in force at that time finds. -/
def ReadsFor (limit : CacheLimit) (w : World η) (moves : List (Move η)) (i : Nat) (path : String)
    (answer : Answer η) : Prop :=
  ∃ earlier later, moves = earlier ++ .step i :: later
    ∧ (w.run limit earlier).calls[i]? = some ⟨.find path, .running (.find path)⟩
    ∧ answer = .found ((w.run limit earlier).memory.snapshot.table.scan? path)

theorem ReadsFor.cons {limit : CacheLimit} {w : World η} {m : Move η} {rest : List (Move η)}
    {i : Nat} {path : String} {answer : Answer η}
    (h : ReadsFor limit (w.move limit m) rest i path answer) :
    ReadsFor limit w (m :: rest) i path answer := by
  obtain ⟨earlier, later, hmoves, hcall, hanswer⟩ := h
  exact ⟨m :: earlier, later, congrArg (m :: ·) hmoves, hcall, hanswer⟩

/-- A match that gave an answer has read the memory during the run, if it had not
done so when the run began. -/
theorem readsFor_of_answer {limit : CacheLimit} {moves : List (Move η)} {i : Nat} {path : String}
    {answer : Answer η} {w : World η} (hw : w.Inv limit)
    (hstart : ∀ call, w.calls[i]? = some call → call.phase = .running call.operation.task)
    (hend : (w.run limit moves).calls[i]? = some ⟨.find path, .ended (.ok answer)⟩) :
    ReadsFor limit w moves i path answer := by
  induction moves generalizing w with
  | nil => cases hstart _ hend
  | cons m rest ih =>
    have hmoved := moved limit w m
    cases hc : w.calls[i]? with
    | none => exact (ih (hmoved.inv hw) (fun call hv => hmoved.new_call hc hv) hend).cons
    | some call =>
      have hphase := hstart call hc
      obtain ⟨next, hv, hnext⟩ := hmoved.call hc
      rcases hnext with hstill | ha
      · -- the call has not moved, so it is read later
        refine (ih (hmoved.inv hw) (fun call' hv' => ?_) hend).cons
        have he : { call with phase := next } = call' := Option.some.inj (hv.symm.trans hv')
        rw [← he, hstill]
        exact hphase
      · -- this is the reading step, and its promise is kept to the end
        obtain ⟨operation, phase⟩ := call
        obtain ⟨last, hlast⟩ := operation_run rest hv
        have hop : operation = .find path :=
          congrArg Call.operation (Option.some.inj (hlast.symm.trans hend))
        subst hop
        have hphase' : phase = .running (.find path) := hphase
        subst hphase'
        generalize (w.move limit m).memory = memory at ha
        cases ha
        obtain ⟨kept, hkept, hgiven⟩ :=
          promises_run rest hv (Task.step_find_promises hw.memory path)
        have hended : kept = .ended (.ok answer) :=
          congrArg Call.phase (Option.some.inj (hkept.symm.trans hend))
        rw [hended] at hgiven
        exact ⟨[], rest, rfl, hc, hgiven⟩

/-- **A match with the cache is a match without it.** A match that returns, in any
run, gives what its path resolves to in the table that was in force when it read
the memory: the first route in the order of registration, other than the
fallback, that accepts the path, with the parameters it binds, and nothing else. -/
theorem find_resolves (limit : CacheLimit) (moves : List (Move η)) {i : Nat} {path : String}
    {answer : Answer η}
    (h : (after limit moves).calls[i]? = some ⟨.find path, .ended (.ok answer)⟩) :
    ∃ earlier later, moves = earlier ++ .step i :: later
      ∧ (after limit earlier).calls[i]? = some ⟨.find path, .running (.find path)⟩
      ∧ ∀ found?, answer = .found found? ↔
          (after limit earlier).memory.snapshot.table.Resolves path found? := by
  obtain ⟨earlier, later, hmoves, hcall, hanswer⟩ :=
    readsFor_of_answer (inv_initial limit) (fun call hc => by cases hc) h
  refine ⟨earlier, later, hmoves, hcall, fun found? => ?_⟩
  rw [hanswer, Answer.found.injEq]
  exact Table.scan?_eq_iff

/-- A match of `/a` (call 1) that reads the table of call 0 and is then overtaken:
the table is replaced by that of call 2, in which `/a` is another route, before
the entry is written. -/
def overtaken : List (Move Nat) :=
  [.begin (.register [("/:x", .handler 0)]), .step 0, .begin (.find "/a"), .step 1,
    .begin (.register [("404", .handler 1), ("/a", .handler 2)]), .step 2,
    .step 1, .step 1, .step 1, .step 1]

/-- The match that was overtaken still gives the route of the table it read. -/
theorem find_resolves_overtaken :
    (after ⟨1, by decide⟩ overtaken).calls[1]? = some ⟨.find "/a", .ended (.ok (.found
        (some ⟨⟨"/:x", [.literal "", .param "x"], 0, 1⟩, [("x", "a")]⟩)))⟩
      ∧ ∃ earlier later, overtaken = earlier ++ .step 1 :: later
        ∧ (after ⟨1, by decide⟩ earlier).calls[1]? = some ⟨.find "/a", .running (.find "/a")⟩
        ∧ ∀ found?, Answer.found (some ⟨⟨"/:x", [.literal "", .param "x"], 0, 1⟩, [("x", "a")]⟩)
            = .found found? ↔
          (after ⟨1, by decide⟩ earlier).memory.snapshot.table.Resolves "/a" found? :=
  ⟨by rfl, find_resolves ⟨1, by decide⟩ overtaken (by rfl)⟩

end World

end WebRouter.Router
