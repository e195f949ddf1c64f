import WebRouter.Proofs.Tables
import WebRouter.Router

/-!
# Registration is all or nothing

A registration compiles the whole mapping before it touches the memory, and the only
step that touches it installs the compiled table with an empty cache. So a mapping that
is refused leaves the router as it was, with nothing written to the log
(`Task.run_register_of_error`), and of one that is accepted every entry is installed,
whatever the log hook makes of the message about it (`Task.run_register_of_ok`).

> `register_all_or_nothing`: which of the two happens depends on the mapping alone, and
> a refusal names the first entry at fault.
-/

namespace WebRouter.Router

variable {η : Type}

section Run

variable {limit : Nat} {hook : LogHook} {told : List String} {m n : Memory η} {t u : Task η}
  {pairs : List (String × Registrand η)}

theorem Task.run_of_finish {result : Except Failure (Answer η)}
    (h : t.step limit m = (.finish result, n)) :
    t.run limit hook told m = ⟨result, [], n⟩ := by
  rw [Task.run]
  split
  · next hs =>
    simp only [h, Prod.mk.injEq, Progress.finish.injEq] at hs
    rw [hs.1, hs.2]
  · next hs => simp [h] at hs
  · next hs => simp [h] at hs

theorem Task.run_of_run (h : t.step limit m = (.run u, n)) :
    t.run limit hook told m = u.run limit hook told n := by
  rw [Task.run]
  split
  · next hs => simp [h] at hs
  · next hs =>
    simp only [h, Prod.mk.injEq, Progress.run.injEq] at hs
    rw [hs.1, hs.2]
  · next hs => simp [h] at hs

/-- A call that writes a message goes on, unless the hook refuses it. -/
theorem Task.run_of_log {message : String} (h : t.step limit m = (.log message u, n)) :
    t.run limit hook told m =
      match hook told message with
      | some failure => ⟨.error failure, [message], n⟩
      | none =>
        let rest := u.run limit hook (told ++ [message]) n
        { rest with messages := message :: rest.messages } := by
  rw [Task.run]
  split
  · next hs => simp [h] at hs
  · next hs => simp [h] at hs
  · next hs =>
    simp only [h, Prod.mk.injEq, Progress.log.injEq] at hs
    obtain ⟨⟨rfl, rfl⟩, rfl⟩ := hs
    rfl

/-- A mapping that is refused ends the call at once. -/
theorem Task.run_register_of_error {e : RegistrationError}
    (h : Route.compileAll m.fresh (Ordered.ofList pairs) = .error e) :
    (Task.register pairs).run limit hook told m = ⟨.error (.registration e), [], m⟩ := by
  have hstep : (Task.register pairs).step limit m = (.finish (.error (.registration e)), m) := by
    rw [Task.step, h]
  exact Task.run_of_finish hstep

/-- A call whose message has been written has nothing left to do. -/
theorem Task.run_registered :
    (Task.registered : Task η).run limit hook told m = ⟨.ok .done, [], m⟩ :=
  Task.run_of_finish rfl

/-- A table that is accepted is installed before its message is written. -/
theorem Task.run_register_of_ok {routes : List (Route η)}
    (h : Route.compileAll m.fresh (Ordered.ofList pairs) = .ok routes) :
    (Task.register pairs).run limit hook told m
      = ⟨(hook told (replacedMessage routes.length)).elim (.ok .done) .error,
          [replacedMessage routes.length], m.install routes⟩ := by
  have hstep : (Task.register pairs).step limit m
      = (.log (replacedMessage routes.length) .registered, m.install routes) := by
    rw [Task.step, h]
  rw [Task.run_of_log hstep]
  cases hook told (replacedMessage routes.length) with
  | some failure => rfl
  | none =>
    rw [Task.run_registered]
    rfl

end Run

section Register

variable {router : Router η} {pairs : List (String × Registrand η)}

theorem register_of_error {e : RegistrationError}
    (h : Route.compileAll router.memory.fresh (Ordered.ofList pairs) = .error e) :
    router.register pairs = ⟨.error (.registration e), [], router⟩ := by
  unfold register call
  dsimp only
  rw [Task.run_register_of_error h, List.append_nil]
  rfl

theorem register_of_ok {routes : List (Route η)}
    (h : Route.compileAll router.memory.fresh (Ordered.ofList pairs) = .ok routes) :
    router.register pairs
      = ⟨(router.hook router.told (replacedMessage routes.length)).elim (.ok ()) .error,
          [replacedMessage routes.length],
          { router with
            memory := router.memory.install routes
            told := router.told ++ [replacedMessage routes.length] }⟩ := by
  unfold register call
  dsimp only
  rw [Task.run_register_of_ok h]
  cases router.hook router.told (replacedMessage routes.length) with
  | none => rfl
  | some failure => rfl

end Register

/-- **Registration is all or nothing.** A mapping is refused exactly if some entry is at
fault, with the error that its first such entry calls for; the router is then what it
was, in every respect, and nothing is written to the log. Otherwise the table in force
has the entries of the mapping in their order, nothing is cached, and one message is
written; only what the log hook raises on being told it can still leave the call. -/
theorem register_all_or_nothing (router : Router η) (pairs : List (String × Registrand η)) :
    let mapping := Ordered.ofList pairs
    let called := router.register pairs
    let message := replacedMessage mapping.length
    ((∃ e, Route.Refused mapping e) ↔ ∃ entry ∈ mapping, Route.AtFault entry)
      ∧ (∀ e, Route.Refused mapping e →
          called.result = .error (.registration e) ∧ called.messages = []
            ∧ called.router = router)
      ∧ ((∀ entry ∈ mapping, ¬ Route.AtFault entry) →
          called.router.routes.map Route.entry = mapping
            ∧ (∀ route ∈ called.router.routes, route.Compiled called.router.snapshot.table.stamp)
            ∧ called.router.snapshot.cache.entries = []
            ∧ called.messages = [message]
            ∧ called.result = (router.hook router.told message).elim (.ok ()) .error)
      ∧ ((∀ e, router.hook router.told message ≠ some (.registration e)) →
          ((∃ e, called.result = .error (.registration e)) ↔
            ∃ entry ∈ mapping, Route.AtFault entry)) := by
  intro mapping called message
  have hrefused : ∀ e, Route.Refused mapping e →
      called = ⟨.error (.registration e), [], router⟩ :=
    fun e he => register_of_error (Route.compileAll_eq_error_iff.mpr he)
  have haccepted : (∀ entry ∈ mapping, ¬ Route.AtFault entry) →
      called.router.routes.map Route.entry = mapping
        ∧ (∀ route ∈ called.router.routes, route.Compiled called.router.snapshot.table.stamp)
        ∧ called.router.snapshot.cache.entries = []
        ∧ called.messages = [message]
        ∧ called.result = (router.hook router.told message).elim (.ok ()) .error := by
    intro hsound
    cases hcompiled : Route.compileAll router.memory.fresh mapping with
    | error e =>
      obtain ⟨entry, hentry, hfault⟩ :=
        Route.exists_refused_iff.mp ⟨e, Route.compileAll_eq_error_iff.mp hcompiled⟩
      exact absurd hfault (hsound entry hentry)
    | ok routes =>
      obtain ⟨hentries, hroutes⟩ := Route.compileAll_eq_ok_iff.mp hcompiled
      have hlength : routes.length = mapping.length := by
        rw [← hentries, List.length_map]
      have hcalled := register_of_ok hcompiled
      rw [hlength] at hcalled
      have hcalled : called = _ := hcalled
      rw [hcalled]
      exact ⟨hentries, hroutes, rfl, rfl, rfl⟩
  refine ⟨Route.exists_refused_iff, fun e he => ?_, haccepted, fun hhook => ?_⟩
  · rw [hrefused e he]
    exact ⟨rfl, rfl, rfl⟩
  · rw [← Route.exists_refused_iff]
    constructor
    · -- a table that is accepted raises what the hook raises, if anything
      rintro ⟨e, he⟩
      refine Classical.byContradiction fun hnone => ?_
      rw [Route.exists_refused_iff] at hnone
      have hresult := (haccepted fun entry hentry hfault => hnone ⟨entry, hentry, hfault⟩).2.2.2.2
      rw [he] at hresult
      cases hraised : router.hook router.told message with
      | none => rw [hraised] at hresult; cases hresult
      | some failure =>
        rw [hraised] at hresult
        cases hresult
        exact hhook e hraised
    · rintro ⟨e, he⟩
      exact ⟨e, by rw [hrefused e he]⟩

end WebRouter.Router
