import WebRouter.Proofs.Hooks
import WebRouter.Proofs.TemplateInstances

/-!
# A router that is used by one caller at a time

A call that is no registration leaves the table in force as it is, however it ends
(`Task.run_table`). If nobody else uses the router and its log hook only listens, a match
comes to an end with an answer (`Task.run_find`). So what answers
a path is what that table says, whatever was cached when the call began
(`Reached.select`), and the parameters of a match have distinct names
(`Reached.distinct`), since every table in force is one that was compiled
(`World.compiled_after`).
-/

namespace WebRouter

variable {η : Type}

namespace Router

/-! ## A call that is no registration -/

/-- Only a registration fails of itself. -/
theorem Task.eq_register_of_step {limit : Nat} {m : Memory η} {t : Task η} {failure : Failure}
    (h : (t.step limit m).1 = .finish (.error failure)) : ∃ entries, t = .register entries := by
  cases t with
  | register entries => exact ⟨entries, rfl⟩
  | registered => cases h
  | clear => cases h
  | swapCleared seen =>
    rw [Task.step] at h
    split at h
    · cases h
    · cases h
  | find path =>
    rw [Task.step] at h
    split at h
    · cases h
    · cases h
    · cases h
  | offer w =>
    rw [Task.step, Write.consider] at h
    split at h
    · cases h
    · split at h
      · cases h
      · cases h
  | swap w =>
    rw [Task.step] at h
    split at h
    · cases h
    · cases h
  | reread w => cases h

theorem Task.sets?_eq_none {m : Memory η} {t : Task η} (h : ∀ entries, t ≠ .register entries) :
    t.sets? m = none := by
  cases t with
  | register entries => exact absurd rfl (h entries)
  | registered => rfl
  | clear => rfl
  | swapCleared seen => rfl
  | find path => rfl
  | offer w => rfl
  | swap w => rfl
  | reread w => rfl

section Other

variable {limit : CacheLimit} {hook : LogHook} {told : List String} {m : Memory η} {t u : Task η}

/-- No call turns into a registration. -/
theorem Task.next_ne_register (h : (t.step limit.val m).1.next? = some u)
    (entries : List (String × Registrand η)) : u ≠ .register entries := by
  intro hu
  subst hu
  cases t with
  | register routes =>
    rw [Task.step] at h
    split at h
    · cases h
    · cases h
  | registered => cases h
  | clear => cases h
  | swapCleared seen =>
    rw [Task.step] at h
    split at h
    · cases h
    · cases h
  | find path =>
    rw [Task.step] at h
    split at h
    · cases h
    · cases h
    · cases h
  | offer w => cases Write.next?_consider h
  | swap w =>
    rw [Task.step] at h
    split at h
    · cases h
    · cases h
  | reread w => cases h

/-- A step of a call that is no registration leaves the table in force, and what is left
of the call is no registration either. -/
theorem Task.step_keeps_table (hm : m.Sound limit.val) (hfits : t.Fits m)
    (hother : ∀ entries, t ≠ .register entries) :
    (t.step limit.val m).2.snapshot.table = m.snapshot.table
      ∧ (t.step limit.val m).2.Sound limit.val
      ∧ ∀ u, (t.step limit.val m).1.next? = some u →
          u.Fits (t.step limit.val m).2 ∧ ∀ entries, u ≠ .register entries := by
  obtain ⟨hchange, hnext⟩ := Task.step_change hm hfits
  have htable := hchange.table
  rw [Task.sets?_eq_none hother] at htable
  exact ⟨htable, hchange.sound hm, fun u hu => ⟨hnext u hu, Task.next_ne_register hu⟩⟩

/-- A call that is no registration leaves the table in force, however it ends. -/
theorem Task.run_table (hm : m.Sound limit.val) (hfits : t.Fits m)
    (hother : ∀ entries, t ≠ .register entries) :
    (t.run limit.val hook told m).memory.snapshot.table = m.snapshot.table := by
  fun_induction Task.run limit.val hook told m t with
  | case1 told m t result n hs =>
    obtain ⟨htable, -⟩ := Task.step_keeps_table hm hfits hother
    rw [hs] at htable
    exact htable
  | case2 told m t u n hs ih =>
    obtain ⟨htable, hsound, hnext⟩ := Task.step_keeps_table hm hfits hother
    rw [hs] at htable hsound hnext
    obtain ⟨hu, hother'⟩ := hnext u rfl
    exact (ih hsound hu hother').trans htable
  | case3 told m t message u n hs failure hrefused =>
    obtain ⟨htable, -⟩ := Task.step_keeps_table hm hfits hother
    rw [hs] at htable
    exact htable
  | case4 told m t message u n hs hlistens =>
    rename_i ih
    obtain ⟨htable, hsound, hnext⟩ := Task.step_keeps_table hm hfits hother
    rw [hs] at htable hsound hnext
    obtain ⟨hu, hother'⟩ := hnext u rfl
    exact (ih hsound hu hother').trans htable

end Other

/-! ## A match comes to its answer -/

section Promised

variable {limit : CacheLimit} {told : List String} {m : Memory η} {t : Task η} {answer : Answer η}

/-- A step that promises an answer is the last one, with that answer, or leaves a call that
has it in hand. -/
theorem Task.step_promised (hmatch : ∀ entries, t ≠ .register entries)
    (hpromise : (Phase.after (t.step limit.val m).1).Promises answer) :
    (∀ result, (t.step limit.val m).1 = .finish result → result = .ok answer)
      ∧ ∀ u, (t.step limit.val m).1.next? = some u → u.answer? = some answer := by
  cases hprogress : (t.step limit.val m).1 with
  | run v =>
    rw [hprogress] at hpromise
    refine ⟨fun _ hr => (by cases hr), fun u hu => ?_⟩
    cases hu
    exact hpromise
  | log message v =>
    rw [hprogress] at hpromise
    refine ⟨fun _ hr => (by cases hr), fun u hu => ?_⟩
    cases hu
    exact hpromise
  | finish result =>
    rw [hprogress] at hpromise
    refine ⟨fun given hgiven => ?_, fun u hu => by cases hu⟩
    cases hgiven
    cases result with
    | ok given =>
      have hgiven : given = answer := hpromise
      rw [hgiven]
    | error failure =>
      obtain ⟨entries, he⟩ := Task.eq_register_of_step hprogress
      exact absurd he (hmatch entries)

/-- A call whose next step promises an answer ends with it if the hook only listens. -/
theorem Task.run_promised (hmatch : ∀ entries, t ≠ .register entries)
    (hpromise : (Phase.after (t.step limit.val m).1).Promises answer) :
    (t.run limit.val LogHook.listening told m).result = .ok answer := by
  fun_induction Task.run limit.val LogHook.listening told m t with
  | case1 told m t result n hs =>
    obtain ⟨hlast, -⟩ := Task.step_promised hmatch hpromise
    rw [hs] at hlast
    exact hlast result rfl
  | case2 told m t u n hs ih =>
    have hnext : (t.step limit.val m).1.next? = some u := by rw [hs]; rfl
    obtain ⟨-, hanswer⟩ := Task.step_promised hmatch hpromise
    exact ih (Task.next_ne_register hnext) (Task.step_promises (hanswer u hnext))
  | case3 told m t message u n hs failure hrefused => cases hrefused
  | case4 told m t message u n hs hlistens outcome ih =>
    have hnext : (t.step limit.val m).1.next? = some u := by rw [hs]; rfl
    obtain ⟨-, hanswer⟩ := Task.step_promised hmatch hpromise
    exact ih (Task.next_ne_register hnext) (Task.step_promises (hanswer u hnext))

/-- A match ends with what a scan of the table in force finds, and leaves that table. -/
theorem Task.run_find (hm : m.Sound limit.val) (path : String) :
    ((Task.find path).run limit.val LogHook.listening told m).result
        = .ok (.found (m.snapshot.table.scan? path))
      ∧ ((Task.find path).run limit.val LogHook.listening told m).memory.snapshot.table
        = m.snapshot.table := by
  have hother : ∀ entries, Task.find path ≠ (Task.register entries : Task η) :=
    fun entries h => by cases h
  exact ⟨Task.run_promised hother (Task.step_find_promises hm path),
    Task.run_table hm trivial hother⟩

end Promised

/-- What answers a path is what the table in force says, however much was cached. -/
theorem Reached.select {router : Router η} (h : router.Reached)
    (hhook : router.hook = LogHook.listening) (path : String) :
    (router.select path).result = .ok (router.snapshot.table.select path) := by
  have hfind : ((Task.find path).run router.limit.val LogHook.listening router.told
      router.memory).result = .ok (.found (router.memory.snapshot.table.scan? path)) ∧ _ :=
    Task.run_find h.sound path
  obtain ⟨hresult, htable⟩ := hfind
  unfold Router.select Router.find Router.call Router.fallback? Router.snapshot
  rw [hhook]
  dsimp only
  rw [hresult, htable]
  rfl

/-! ## The table in force was compiled -/

/-- A table as it is compiled. -/
def Table.Compiled (table : Table η) : Prop :=
  ∀ route ∈ table.routes, route.Compiled table.stamp

theorem Memory.Change.compiled {limit : Nat} {m n : Memory η} {set? : Option (Table η)}
    (h : Memory.Change limit m set? n) (hm : m.snapshot.table.Compiled) :
    n.snapshot.table.Compiled := by
  cases h with
  | kept => exact hm
  | missed => exact hm
  | installed hc => exact (Route.compileAll_eq_ok_iff.mp hc).2
  | cleared => exact hm
  | entered hw => exact hm

theorem World.compiled_run {limit : CacheLimit} {w : World η} (hw : w.Inv limit)
    (h : w.memory.snapshot.table.Compiled) (moves : List (Move η)) :
    (w.run limit moves).memory.snapshot.table.Compiled := by
  induction moves generalizing w with
  | nil => exact h
  | cons m rest ih =>
    have hmoved := World.moved limit w m
    obtain ⟨set?, hchange⟩ := hmoved.change hw
    exact ih (hmoved.inv hw) (hchange.compiled h)

/-- The table in force is one that was compiled, or the empty one of a new router. -/
theorem World.compiled_after (limit : CacheLimit) (moves : List (Move η)) :
    (World.after limit moves).memory.snapshot.table.Compiled :=
  World.compiled_run (World.inv_initial limit) (fun _ h => (List.not_mem_nil h).elim) moves

/-- The parameters of a match have distinct names. -/
theorem Reached.distinct {router : Router η} (h : router.Reached) {path : String}
    {found : RouteMatch η} (hfound : router.snapshot.table.Resolves path (some found)) :
    (found.params.map Prod.fst).Nodup := by
  obtain ⟨moves, hmoves⟩ := h
  have hmem : found.route ∈ router.snapshot.table.routes := Table.Wins.mem ⟨found.params, hfound⟩
  obtain ⟨-, -, -, -, -, hbind⟩ := hfound
  have htable : router.snapshot.table.Compiled := by
    unfold Router.snapshot
    rw [hmoves]
    exact World.compiled_after router.limit moves
  have hroute := htable found.route hmem
  rw [Route.bind?, hroute.pattern, Template.bind?_split_eq_some_iff hroute.named] at hbind
  rw [hbind.names]
  exact hroute.named.distinct

end Router
end WebRouter
