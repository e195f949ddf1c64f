import WebRouter.Router.Task

/-!
# A router used by one caller at a time

`Task.run` takes a call from its first step to its last with nothing in between.
The log hook is told every message, together with the messages before it, and
may refuse one, which ends the call there; it does not use the router itself. No
swap can fail twice then: the second one follows a reading that nothing came
after. `Task.remaining` counts the steps down, and `Task.remaining_lt` is why
the run ends.
-/

namespace WebRouter

/-- What a log hook that leaves the router alone does with a message, given the
messages it was told before: a failure if it raises one. -/
abbrev LogHook := List String → String → Option Failure

/-- The hook that only listens. -/
def LogHook.listening : LogHook := fun _ _ => none

namespace Router

variable {η : Type}

/-- A bound on the steps a call takes if nothing comes in between. -/
def Task.remaining (m : Memory η) : Task η → Nat
  | register _ => 1
  | registered => 0
  | clear => 2
  | swapCleared seen => if m.read.stamp = seen.stamp then 1 else 3
  | find _ => 3
  | offer w => if m.read.stamp = w.seen.stamp then 2 else 5
  | swap w => if m.read.stamp = w.seen.stamp then 1 else 4
  | reread _ => 3

/-- A swap succeeds exactly if the snapshot seen is still in the cell. -/
theorem Memory.swap_fst (m : Memory η) (seen : Stamped (Snapshot η)) (new : Snapshot η) :
    (m.swap seen new).1 = decide (m.read.stamp = seen.stamp) := by
  unfold Memory.swap AtomicCell.compareAndSet Memory.read AtomicCell.get
  by_cases h : m.cell.current.stamp = seen.stamp <;> simp [h]

/-- An entry that is not given up goes on to the swap. -/
theorem Write.next?_consider {w : Write η} {limit : Nat} {u : Task η}
    (h : (w.consider limit).next? = some u) : u = .swap w := by
  unfold Write.consider at h
  split at h
  · simp [Progress.next?] at h
  · split at h <;> simp_all [Progress.next?]

/-- A step that is not the last one brings the call closer to its end. -/
theorem Task.remaining_lt (limit : Nat) (m : Memory η) (t u : Task η)
    (h : (t.step limit m).1.next? = some u) :
    u.remaining (t.step limit m).2 < t.remaining m := by
  cases t with
  | register routes =>
    cases hc : Route.compileAll m.fresh (Ordered.ofList routes) with
    | error e => simp [Task.step, hc, Progress.next?] at h
    | ok compiled =>
      simp only [Task.step, hc, Progress.next?, Option.some.injEq] at h ⊢
      subst h
      simp [Task.remaining]
  | registered => simp [Task.step, Progress.next?] at h
  | clear =>
    simp only [Task.step, Progress.next?, Option.some.injEq] at h ⊢
    subst h
    simp [Task.remaining]
  | swapCleared seen =>
    have hs := Memory.swap_fst m seen seen.value.withoutCache
    rcases hp : m.swap seen seen.value.withoutCache with ⟨_ | _, n⟩
    · have hm : m.read.stamp ≠ seen.stamp := by simpa [hp] using hs
      simp only [Task.step, hp, Progress.next?, Option.some.injEq] at h ⊢
      subst h
      simp [Task.remaining, hm]
    · simp [Task.step, hp, Progress.next?] at h
  | find path =>
    cases hl : m.snapshot.lookup path with
    | cached found => simp [Task.step, hl, Progress.next?] at h
    | nothing => simp [Task.step, hl, Progress.next?] at h
    | scanned found =>
      simp only [Task.step, hl, Progress.next?, Option.some.injEq] at h ⊢
      subst h
      simp [Task.remaining]
  | offer w =>
    have hu := Write.next?_consider h
    subst hu
    by_cases hm : m.read.stamp = w.seen.stamp <;> simp [Task.step, Task.remaining, hm]
  | swap w =>
    have hs := Memory.swap_fst m w.seen (w.seen.value.withEntry w.path w.route limit)
    rcases hp : m.swap w.seen (w.seen.value.withEntry w.path w.route limit) with ⟨_ | _, n⟩
    · have hm : m.read.stamp ≠ w.seen.stamp := by simpa [hp] using hs
      simp only [Task.step, hp, Progress.next?, Option.some.injEq] at h ⊢
      subst h
      simp [Task.remaining, hm]
    · simp [Task.step, hp, Progress.next?] at h
  | reread w =>
    simp only [Task.step, Progress.next?, Option.some.injEq] at h ⊢
    subst h
    simp [Task.remaining]

/-- What a call came to: its result, the messages it wrote, and the memory after it. -/
structure Outcome (η : Type) where
  result : Except Failure (Answer η)
  messages : List String
  memory : Memory η

/-- Takes a call to its end; `told` are the messages that the hook was told before. -/
def Task.run (limit : Nat) (hook : LogHook) (told : List String) (m : Memory η) (t : Task η) :
    Outcome η :=
  match _h : t.step limit m with
  | (.finish result, n) => ⟨result, [], n⟩
  | (.run u, n) => u.run limit hook told n
  | (.log message u, n) =>
    match hook told message with
    | some failure => ⟨.error failure, [message], n⟩
    | none =>
      let outcome := u.run limit hook (told ++ [message]) n
      { outcome with messages := message :: outcome.messages }
  termination_by t.remaining m
  decreasing_by
    all_goals
      have := Task.remaining_lt limit m t u
      simp_all [Progress.next?]

end Router

end WebRouter
