import WebRouter.App.Registration
import WebRouter.Proofs.Refusals
import WebRouter.Proofs.Registry

/-!
# A log hook between two writes

A registration writes twice: it puts its table into the router's memory, and once the
router has returned, it takes the same routes down as what the next one is added to.
Between the two writes the log hook is told about the new table, and may fail, which
ends the registration, or make calls of its own on the same application. The first
leaves the second write undone, the second may leave it to be done after those of a
later registration.

`Registration.accepted?` is the mapping of a call between its two writes, and the
invariant says that the copies agree but for one such mapping (`Tables.Owed`). It is kept
by all that can happen but two things (`Disturbed`), and

> `copies_agree`: if neither of them happens in any of the calls that have ended, the
> two copies are the same.

Either of the two alone lets them drift apart (`copies_drift`). A hook that makes no calls
gives the application as one caller sees it (`machine_of_perform`), where the copies drift
apart exactly if the hook fails on being told of a new table (`inStep_register_iff`).
-/

namespace WebRouter.App

variable {ρ : Type}

/-- The call that carries an operation out, before its first step. -/
def Operation.task : Operation → Registration
  | register routes => .register routes
  | addRoute template registrand => .addRoute template registrand
  | find path => .routing (.find path)
  | clear => .routing .clear

/-- A move of a hook that, if it is a call, is one that any caller may make. -/
def IsCall : HookMove Registration → Prop
  | .resume => True
  | .fail _ => True
  | .call t => ∃ operation : Operation, t = operation.task

/-- A hook that makes whole calls, and does not enter one half-way. -/
structure MakesCalls (hook : ReentrantHook Tables Registration (Router.Answer Handler) ρ) :
    Prop where
  told : ∀ message tables r, IsCall (hook.told message tables r).1
  answered : ∀ result tables r, IsCall (hook.answered result tables r).1

/-- The entries of the table in force. -/
def Tables.entries (tables : Tables) : Routes :=
  tables.memory.snapshot.table.routes.map Route.entry

/-- Both copies hold the same routes. -/
def Tables.InStep (tables : Tables) : Prop :=
  tables.entries = tables.registry

/-! ## Steps of one call -/

/-- The mapping that a registration has put in force and not taken down yet. -/
def Registration.accepted? : Registration → Option Routes
  | register _ => none
  | addRoute _ _ => none
  | installing .registered routes => some routes
  | installing _ _ => none
  | recording routes => some routes
  | routing _ => none

/-- What a call carries with it between two steps agrees with the memory. -/
def Registration.Fits (m : Router.Memory Handler) : Registration → Prop
  | register _ => True
  | addRoute _ _ => True
  | installing t routes => t = .register routes ∨ t = .registered
  | recording _ => True
  | routing t => t.Fits m ∧ ∀ entries, t ≠ .register entries

theorem Operation.fits (m : Router.Memory Handler) (operation : Operation) :
    operation.task.Fits m := by
  cases operation with
  | register routes => trivial
  | addRoute template registrand => trivial
  | find path => exact ⟨trivial, fun entries h => by cases h⟩
  | clear => exact ⟨trivial, fun entries h => by cases h⟩

theorem Operation.accepted?_task (operation : Operation) : operation.task.accepted? = none := by
  cases operation <;> rfl

/-- A call under way still fits the memory after any other call's step. -/
theorem Registration.Fits.change {limit : Nat} {m n : Router.Memory Handler}
    {set? : Option (Router.Table Handler)} (h : Router.Memory.Change limit m set? n)
    {t : Registration} (ht : t.Fits m) : t.Fits n := by
  cases t with
  | register routes => trivial
  | addRoute template registrand => trivial
  | installing u routes => exact ht
  | recording routes => trivial
  | routing u => exact ⟨h.fits ht.1, ht.2⟩

/-- What a step does to the two copies: nothing; or the first of the two writes; or the
second. -/
inductive Wrote (before : Tables) (t : Registration) :
    Progress Registration (Router.Answer Handler) → Tables → Prop
  | nothing {progress : Progress Registration (Router.Answer Handler)} {after : Tables}
      (hentries : after.entries = before.entries) (hregistry : after.registry = before.registry)
      (hnext : progress.next?.bind Registration.accepted? = t.accepted?) :
      Wrote before t progress after
  | table {message : String} {next : Registration} {routes : Routes} {after : Tables}
      (hnone : t.accepted? = none) (hnext : next.accepted? = some routes)
      (hentries : after.entries = Ordered.ofList routes) :
      Wrote before t (.log message next) after
  | registry {result : Except Failure (Router.Answer Handler)} {routes : Routes} {after : Tables}
      (haccepted : t.accepted? = some routes) (hentries : after.entries = before.entries)
      (hregistry : after.registry = Ordered.ofList routes) :
      Wrote before t (.finish result) after

section Step

variable {limit : CacheLimit} {tables : Tables} {t : Registration}

/-- What a step does: it changes the memory in one of the ways a change can be and the
copies in one of the ways of `Wrote`, and a call that goes on fits the memory afterwards. -/
theorem Registration.step_wrote (hm : tables.memory.Sound limit.val)
    (ht : t.Fits tables.memory) :
    Wrote tables t (t.step limit tables).1 (t.step limit tables).2
      ∧ (∃ set?, Router.Memory.Change limit.val tables.memory set? (t.step limit tables).2.memory)
      ∧ ∀ u, (t.step limit tables).1.next? = some u → u.Fits (t.step limit tables).2.memory := by
  cases t with
  | register routes =>
    refine ⟨.nothing rfl rfl rfl, ⟨_, .kept⟩, fun u hu => ?_⟩
    cases hu
    exact Or.inl rfl
  | addRoute template registrand =>
    refine ⟨.nothing rfl rfl rfl, ⟨_, .kept⟩, fun u hu => ?_⟩
    cases hu
    exact Or.inl rfl
  | installing u routes =>
    rcases ht with rfl | rfl
    · rw [Registration.step, Router.Task.step]
      cases hc : Route.compileAll tables.memory.fresh (Ordered.ofList routes) with
      | error e => exact ⟨.nothing rfl rfl rfl, ⟨_, .kept⟩, fun u hu => by cases hu⟩
      | ok compiled =>
        have hentries := (Route.compileAll_eq_ok_iff.mp hc).1
        refine ⟨.table rfl rfl hentries, ⟨_, .installed hc⟩, fun u hu => ?_⟩
        cases hu
        exact Or.inr rfl
    · refine ⟨.nothing rfl rfl rfl, ⟨_, .kept⟩, fun u hu => ?_⟩
      cases hu
      trivial
  | recording routes =>
    exact ⟨.registry rfl rfl rfl, ⟨_, .kept⟩, fun u hu => by cases hu⟩
  | routing u =>
    obtain ⟨hfits, hother⟩ := ht
    obtain ⟨htable, -, hnext⟩ := Router.Task.step_keeps_table hm hfits hother
    have hchange := (Router.Task.step_change hm hfits).1
    have hentries : (({ tables with memory := (u.step limit.val tables.memory).2 } : Tables)).entries
        = tables.entries :=
      congrArg (fun table : Router.Table Handler => table.routes.map Route.entry) htable
    rw [Registration.step]
    rcases hs : u.step limit.val tables.memory with ⟨progress, m⟩
    rw [hs] at hnext hchange hentries
    cases progress with
    | run v => exact ⟨.nothing hentries rfl rfl, ⟨_, hchange⟩, fun w hw => by
        cases hw; exact hnext v rfl⟩
    | log message v => exact ⟨.nothing hentries rfl rfl, ⟨_, hchange⟩, fun w hw => by
        cases hw; exact hnext v rfl⟩
    | finish result => exact ⟨.nothing hentries rfl rfl, ⟨_, hchange⟩, fun w hw => by cases hw⟩

end Step

/-! ## A hook that leaves the application alone -/

/-- A hook that leaves the application alone, as the hook of a machine. Its memory is the
messages that it was told. -/
def asReentrant (hook : LogHook) :
    ReentrantHook Tables Registration (Router.Answer Handler) (List String) where
  told message _ told := ((hook told message).elim .resume .fail, told ++ [message])
  answered _ _ told := (.resume, told)

/-- A call on the router goes in a machine as it goes on its own, beside the other copy. -/
theorem machine_of_routing (limit : CacheLimit) (hook : LogHook) (told : List String)
    (registry : Routes) (m : Router.Memory Handler) (t : Router.Task Handler) :
    ∃ bound, (Machine.start ⟨m, registry⟩ told (.routing t)).run (Registration.step limit)
        (asReentrant hook) bound
      = ⟨⟨(t.run limit.val hook told m).memory, registry⟩,
          told ++ (t.run limit.val hook told m).messages,
          .ended (t.run limit.val hook told m).result, []⟩ := by
  refine Router.machine_of_part Registration.routing (Tables.mk · registry) (fun t m => ?_)
    (fun message m told => rfl) told m t
  rw [Registration.step]
  rcases t.step limit.val m with ⟨u | ⟨message, u⟩ | result, n⟩ <;> rfl

/-- The two copies that an application keeps. -/
def tables (app : App) : Tables :=
  ⟨app.router.memory, app.registry⟩

/-- The last of the two writes of a registration waits for the hook. -/
theorem machine_of_installing (app : App) (routes : Routes) :
    ∃ bound result, (Machine.start app.tables app.router.told
          (.installing (.register routes) routes)).run (Registration.step app.router.limit)
        (asReentrant app.router.hook) bound
      = ⟨(app.register routes).app.tables, (app.register routes).app.router.told,
          .ended result, []⟩
      ∧ result.map (fun _ => ()) = (app.register routes).result := by
  unfold App.register App.ofRouter
  cases hc : Route.compileAll app.router.memory.fresh (Ordered.ofList routes) with
  | error e =>
    refine ⟨1, .error (.registration e), ?_, ?_⟩
    · rw [Router.register_of_error hc]
      simp only [Machine.run, Machine.step?, Machine.start, tables, Registration.step,
        Router.Task.step, hc]
    · rw [Router.register_of_error hc]
      rfl
  | ok compiled =>
    rw [Router.register_of_ok hc]
    cases hraised : app.router.hook app.router.told (Router.replacedMessage compiled.length) with
    | some failure =>
      refine ⟨2, .error failure, ?_, rfl⟩
      simp only [Machine.run, Machine.step?, Machine.start, tables, Registration.step,
        Router.Task.step, hc, asReentrant, hraised, Option.elim]
    | none =>
      refine ⟨4, .ok .done, ?_, rfl⟩
      simp only [Machine.run, Machine.step?, Machine.start, tables, Registration.step,
        Router.Task.step, hc, asReentrant, hraised, Option.elim]

/-- With a hook that leaves the application alone, a call comes to what it comes to for one
caller. -/
theorem machine_of_perform (app : App) (operation : Operation) :
    ∃ bound result, (Machine.start app.tables app.router.told operation.task).run
        (Registration.step app.router.limit) (asReentrant app.router.hook) bound
      = ⟨(app.perform operation).app.tables, (app.perform operation).app.router.told,
          .ended result, []⟩
      ∧ result.map (fun _ => ()) = (app.perform operation).result := by
  cases operation with
  | register routes =>
    obtain ⟨bound, result, hend, hresult⟩ := machine_of_installing app routes
    exact ⟨bound + 1, result, hend, hresult⟩
  | addRoute template registrand =>
    obtain ⟨bound, result, hend, hresult⟩ :=
      machine_of_installing app (Ordered.put template registrand app.registry)
    exact ⟨bound + 1, result, hend, hresult⟩
  | find path =>
    obtain ⟨bound, hend⟩ := machine_of_routing app.router.limit app.router.hook app.router.told
      app.registry app.router.memory (.find path)
    refine ⟨bound, _, hend, ?_⟩
    unfold App.perform App.find App.ofRouter Router.find Router.call
    dsimp only
    cases ((Router.Task.find path).run app.router.limit.val app.router.hook app.router.told
      app.router.memory).result <;> rfl
  | clear =>
    obtain ⟨bound, hend⟩ := machine_of_routing app.router.limit app.router.hook app.router.told
      app.registry app.router.memory .clear
    exact ⟨bound, _, hend, rfl⟩

/-- With a hook that leaves the application alone, a registration keeps the copies alike
unless the hook fails on being told of its table, and that is another one than before. -/
theorem inStep_register_iff {app : App} (h : app.tables.InStep) (routes : Routes) :
    (app.register routes).app.tables.InStep ↔
      (app.register routes).result = .ok ()
        ∨ (∃ e, Route.Refused (Ordered.ofList routes) e)
        ∨ Ordered.ofList routes = app.registry := by
  unfold App.register App.ofRouter
  cases hc : Route.compileAll app.router.memory.fresh (Ordered.ofList routes) with
  | error e =>
    rw [Router.register_of_error hc]
    exact iff_of_true h (Or.inr (Or.inl ⟨e, Route.compileAll_eq_error_iff.mp hc⟩))
  | ok compiled =>
    have hentries := (Route.compileAll_eq_ok_iff.mp hc).1
    rw [Router.register_of_ok hc]
    cases hraised : app.router.hook app.router.told (Router.replacedMessage compiled.length) with
    | none => exact iff_of_true hentries (Or.inl rfl)
    | some failure =>
      show compiled.map Route.entry = app.registry ↔ _
      rw [hentries]
      constructor
      · exact fun hsame => Or.inr (Or.inr hsame)
      · rintro (hreturned | ⟨e, he⟩ | hsame)
        · cases hreturned
        · rw [Route.compileAll_eq_error_iff.mpr he] at hc
          cases hc
        · exact hsame

/-! ## A call and its hook -/

section Machine

variable {limit : CacheLimit}
  {hook : ReentrantHook Tables Registration (Router.Answer Handler) ρ}
  {m n : Machine Tables Registration (Router.Answer Handler) ρ}

/-- The call in focus, unless it has ended. -/
def focused? : Machine.Focus Registration (Router.Answer Handler) → Option Registration
  | .task t => some t
  | .hook u _ => some u
  | .ended _ => none

/-- The calls under way, the innermost first. -/
def underWay (m : Machine Tables Registration (Router.Answer Handler) ρ) : List Registration :=
  (focused? m.focus).toList ++ m.waiting

/-- Moments at which a hook parts the two writes of a registration. -/
inductive Disturbed : Machine Tables Registration (Router.Answer Handler) ρ → Prop
  /-- the hook fails, and the registration ends before its second write -/
  | failing {m : Machine Tables Registration (Router.Answer Handler) ρ} {u : Registration}
      {routes : Routes} {failure : Failure} (hfocus : m.focus = .hook u (.fail failure))
      (h : u.accepted? = some routes) : Disturbed m
  /-- a registration that the hook has made does its first write while another one is
  waiting to do its second -/
  | nested {m : Machine Tables Registration (Router.Answer Handler) ρ} {u v : Registration}
      {routes earlier : Routes} {move : HookMove Registration} (hfocus : m.focus = .hook u move)
      (h : u.accepted? = some routes) (hwaits : v ∈ m.waiting)
      (hearlier : v.accepted? = some earlier) : Disturbed m

/-- Whether a moment is one of those. -/
def disturbed (m : Machine Tables Registration (Router.Answer Handler) ρ) : Bool :=
  match m.focus with
  | .hook u (.fail _) => u.accepted?.isSome
  | .hook u _ => u.accepted?.isSome && m.waiting.any (·.accepted?.isSome)
  | _ => false

theorem disturbed_iff : disturbed m = true ↔ Disturbed m := by
  obtain ⟨state, memory, focus, waiting⟩ := m
  constructor
  · intro h
    unfold disturbed at h
    split at h
    · next u failure hfocus =>
      obtain ⟨routes, hroutes⟩ := Option.isSome_iff_exists.mp h
      exact .failing hfocus hroutes
    · next u move hmove hfocus =>
      obtain ⟨h, hany⟩ := Bool.and_eq_true_iff.mp h
      obtain ⟨routes, hroutes⟩ := Option.isSome_iff_exists.mp h
      obtain ⟨v, hv, hwaits⟩ := List.any_eq_true.mp hany
      obtain ⟨earlier, hearlier⟩ := Option.isSome_iff_exists.mp hwaits
      exact .nested hfocus hroutes hv hearlier
    · cases h
  · intro h
    cases h with
    | @failing u routes failure hfocus h =>
      cases hfocus
      simp [disturbed, h]
    | @nested u v routes earlier move hfocus h hwaits hearlier =>
      have hany : waiting.any (·.accepted?.isSome) = true :=
        List.any_eq_true.mpr ⟨v, hwaits, by rw [hearlier]; rfl⟩
      cases hfocus
      cases move <;> simp [disturbed, h, hany]

instance : DecidablePred (Disturbed : Machine Tables Registration _ ρ → Prop) :=
  fun _ => decidable_of_iff _ disturbed_iff

/-- The two copies agree, but for the mapping of a registration that has yet to take it
down. -/
inductive Tables.Owed (tables : Tables) : List Routes → Prop
  | nothing (h : tables.InStep) : tables.Owed []
  | one {routes : Routes} (h : tables.entries = Ordered.ofList routes) : tables.Owed [routes]

/-- What holds of a call and its hook as long as the hook parts no writes. -/
structure Undisturbed (limit : CacheLimit)
    (m : Machine Tables Registration (Router.Answer Handler) ρ) : Prop where
  memory : m.state.memory.Sound limit.val
  fits : ∀ t ∈ underWay m, t.Fits m.state.memory
  move : ∀ u next, m.focus = .hook u next → IsCall next
  owed : m.state.Owed ((underWay m).filterMap Registration.accepted?)

theorem Tables.Owed.congr {before after : Tables} {accepted : List Routes}
    (h : before.Owed accepted) (hentries : after.entries = before.entries)
    (hregistry : after.registry = before.registry) : after.Owed accepted := by
  cases h with
  | nothing h => exact .nothing (hentries.trans (h.trans hregistry.symm))
  | one h => exact .one (hentries.trans h)

/-- A step of the innermost call. If it is the first write of a registration, no other
one is between its two writes. -/
theorem Wrote.owed {before after : Tables} {t : Registration} {waiting : List Registration}
    {progress : Progress Registration (Router.Answer Handler)} (h : Wrote before t progress after)
    (howed : before.Owed ((t :: waiting).filterMap Registration.accepted?))
    (halone : ∀ message u routes, progress = .log message u → u.accepted? = some routes →
      waiting.filterMap Registration.accepted? = []) :
    after.Owed ((progress.next?.toList ++ waiting).filterMap Registration.accepted?) := by
  cases h with
  | nothing hentries hregistry hnext =>
    have hsame : (progress.next?.toList ++ waiting).filterMap Registration.accepted?
        = (t :: waiting).filterMap Registration.accepted? := by
      cases hprogress : progress.next? with
      | none =>
        rw [hprogress] at hnext
        have hnone : t.accepted? = none := hnext.symm
        rw [List.filterMap_cons_none hnone]
        rfl
      | some u =>
        rw [hprogress] at hnext
        have hnext : u.accepted? = t.accepted? := hnext
        show (u :: waiting).filterMap _ = _
        rw [List.filterMap_cons, List.filterMap_cons, hnext]
    rw [hsame]
    exact howed.congr hentries hregistry
  | @table message next routes _ hnone hnext hentries =>
    have hwaiting := halone message next routes rfl hnext
    show after.Owed ((next :: waiting).filterMap _)
    rw [List.filterMap_cons_some hnext, hwaiting]
    exact .one hentries
  | @registry result routes _ haccepted hentries hregistry =>
    show after.Owed (waiting.filterMap _)
    rw [List.filterMap_cons_some haccepted] at howed
    generalize waiting.filterMap Registration.accepted? = rest at howed
    cases howed with
    | one h => exact .nothing (hentries.trans (h.trans hregistry.symm))

/-- What a machine does when the innermost call takes a step. -/
theorem step?_task (hcalls : MakesCalls hook) {state : Tables} {memory : ρ} {t : Registration}
    {waiting : List Registration}
    (h : Machine.step? (Registration.step limit) hook ⟨state, memory, .task t, waiting⟩ = some n) :
    n.state = (t.step limit state).2 ∧ focused? n.focus = (t.step limit state).1.next?
      ∧ n.waiting = waiting
      ∧ (∀ u next, n.focus = .hook u next → IsCall next)
      ∧ ∀ message u, (t.step limit state).1 = .log message u → ∃ next, n.focus = .hook u next := by
  unfold Machine.step? at h
  dsimp only at h
  split at h
  · next u after hs =>
    cases h
    rw [hs]
    exact ⟨rfl, rfl, rfl, (fun _ _ e => by cases e), fun _ _ e => by cases e⟩
  · next result after hs =>
    cases h
    rw [hs]
    exact ⟨rfl, rfl, rfl, (fun _ _ e => by cases e), fun _ _ e => by cases e⟩
  · next message u after hs =>
    cases h
    rw [hs]
    refine ⟨rfl, rfl, rfl, fun v next e => ?_, fun text v e => ?_⟩
    · cases e
      exact hcalls.told message after memory
    · cases e
      exact ⟨_, rfl⟩

/-- The invariant is kept from one moment to the next if neither is disturbed. -/
theorem Undisturbed.step (hcalls : MakesCalls hook) (h : Undisturbed limit m)
    (hstep : m.step? (Registration.step limit) hook = some n) (hm : ¬ Disturbed m)
    (hn : ¬ Disturbed n) : Undisturbed limit n := by
  obtain ⟨state, memory, focus, waiting⟩ := m
  have hsound : state.memory.Sound limit.val := h.memory
  cases focus with
  | task t =>
    -- the innermost call takes a step
    have hfits : ∀ u ∈ t :: waiting, u.Fits state.memory := h.fits
    obtain ⟨hstate, hfocus, hwaiting, hmove, hlog⟩ := step?_task hcalls hstep
    obtain ⟨hwrote, ⟨set?, hchange⟩, hnext⟩ :=
      Registration.step_wrote hsound (hfits t List.mem_cons_self)
    have hunder : underWay n = (t.step limit state).1.next?.toList ++ waiting := by
      rw [underWay, hfocus, hwaiting]
    refine ⟨?_, fun u hu => ?_, hmove, ?_⟩
    · rw [hstate]
      exact hchange.sound hsound
    · rw [hunder, List.mem_append, Option.mem_toList] at hu
      rw [hstate]
      rcases hu with hu | hu
      · exact hnext u hu
      · exact (hfits u (List.mem_cons_of_mem t hu)).change hchange
    · rw [hunder, hstate]
      refine hwrote.owed h.owed fun message u routes hlogs haccepted => ?_
      obtain ⟨next, hnext⟩ := hlog message u hlogs
      rw [List.filterMap_eq_nil_iff]
      intro v hv
      cases hearlier : v.accepted? with
      | none => rfl
      | some earlier =>
        exact absurd (.nested hnext haccepted (hwaiting ▸ hv) hearlier) hn
  | hook u move =>
    have hcall : IsCall move := h.move u move rfl
    rw [Machine.step?] at hstep
    cases move with
    | resume =>
      cases hstep
      exact ⟨hsound, h.fits, (fun _ _ e => by cases e), h.owed⟩
    | fail failure =>
      -- the call that fails was not between two writes, so nothing is left undone
      cases hstep
      have hnone : u.accepted? = none := by
        cases haccepted : u.accepted? with
        | none => rfl
        | some routes => exact absurd (.failing rfl haccepted) hm
      have howed : state.Owed ((u :: waiting).filterMap Registration.accepted?) := h.owed
      rw [List.filterMap_cons_none hnone] at howed
      exact ⟨hsound, fun t ht => h.fits t (List.mem_cons_of_mem u ht), (fun _ _ e => by cases e),
        howed⟩
    | call t =>
      -- a call that has not begun is between no writes
      obtain ⟨operation, rfl⟩ := hcall
      cases hstep
      refine ⟨hsound, fun t ht => ?_, (fun _ _ e => by cases e), ?_⟩
      · have ht : t ∈ operation.task :: u :: waiting := ht
        rcases List.mem_cons.mp ht with hnew | hold
        · rw [hnew]
          exact operation.fits _
        · exact h.fits t hold
      · show state.Owed ((operation.task :: u :: waiting).filterMap _)
        rw [List.filterMap_cons_none operation.accepted?_task]
        exact h.owed
  | ended result =>
    rw [Machine.step?] at hstep
    cases waiting with
    | nil => cases hstep
    | cons u waiting =>
      -- the hook gets the result, and the call that waited is the innermost again
      cases hstep
      refine ⟨hsound, h.fits, fun v next e => ?_, h.owed⟩
      cases e
      exact hcalls.answered result state memory

/-- What a call and its hook go through, up to a bound. -/
def moments (limit : CacheLimit)
    (hook : ReentrantHook Tables Registration (Router.Answer Handler) ρ) (bound : Nat)
    (m : Machine Tables Registration (Router.Answer Handler) ρ) :
    List (Machine Tables Registration (Router.Answer Handler) ρ) :=
  (List.range (bound + 1)).map fun k => m.run (Registration.step limit) hook k

theorem Undisturbed.run (hcalls : MakesCalls hook) (h : Undisturbed limit m) (bound : Nat)
    (hnone : ∀ k ≤ bound, ¬ Disturbed (m.run (Registration.step limit) hook k)) :
    Undisturbed limit (m.run (Registration.step limit) hook bound) := by
  induction bound generalizing m with
  | zero => exact h
  | succ bound ih =>
    rw [Machine.run]
    cases hstep : m.step? (Registration.step limit) hook with
    | none => exact h
    | some n =>
      have hlater : ∀ k, m.run (Registration.step limit) hook (k + 1)
          = n.run (Registration.step limit) hook k := by
        intro k
        rw [Machine.run, hstep]
      have hn : ∀ k ≤ bound, ¬ Disturbed (n.run (Registration.step limit) hook k) := by
        intro k hk
        rw [← hlater k]
        exact hnone (k + 1) (by omega)
      exact ih (h.step hcalls hstep (hnone 0 (by omega)) (hn 0 (by omega))) hn

end Machine

/-! ## One call after the other -/

/-- Calls that have ended, one after the other, on an application that was made without
routes: the moments that they went through, and what they have left. -/
inductive Session (limit : CacheLimit)
    (hook : ReentrantHook Tables Registration (Router.Answer Handler) ρ) :
    List (Machine Tables Registration (Router.Answer Handler) ρ) → Tables → ρ → Prop
  | fresh (memory : ρ) : Session limit hook [] {} memory
  | call {past : List (Machine Tables Registration (Router.Answer Handler) ρ)} {tables : Tables}
      {memory : ρ} {last : Machine Tables Registration (Router.Answer Handler) ρ}
      {result : Except Failure (Router.Answer Handler)}
      (before : Session limit hook past tables memory) (operation : Operation) (bound : Nat)
      (hlast : (Machine.start tables memory operation.task).run (Registration.step limit) hook bound
        = last)
      (hended : last.result? = some result) :
      Session limit hook
        (past ++ moments limit hook bound (Machine.start tables memory operation.task))
        last.state last.memory

variable {limit : CacheLimit} {hook : ReentrantHook Tables Registration (Router.Answer Handler) ρ}
  {past : List (Machine Tables Registration (Router.Answer Handler) ρ)} {tables : Tables}
  {memory : ρ}

theorem undisturbed_start (hm : tables.memory.Sound limit.val) (hstep : tables.InStep)
    (operation : Operation) :
    Undisturbed limit (Machine.start tables memory operation.task) where
  memory := hm
  fits := fun t ht => by
    rw [List.mem_singleton.mp ht]
    exact operation.fits _
  move := fun _ _ e => by cases e
  owed := by
    show tables.Owed ([operation.task].filterMap _)
    rw [List.filterMap_cons_none operation.accepted?_task]
    exact .nothing hstep

/-- With the outermost call, every call has ended, and nothing is owed. -/
theorem Undisturbed.inStep {m : Machine Tables Registration (Router.Answer Handler) ρ}
    (h : Undisturbed limit m) {result : Except Failure (Router.Answer Handler)}
    (hended : m.result? = some result) : m.state.InStep := by
  obtain ⟨state, memory, focus, waiting⟩ := m
  unfold Machine.result? at hended
  split at hended
  · next given hfocus hwaiting =>
    dsimp only at hfocus hwaiting
    subst hfocus hwaiting
    have howed : state.Owed [] := h.owed
    cases howed with
    | nothing hstep => exact hstep
  · cases hended

theorem Session.kept (hcalls : MakesCalls hook) (h : Session limit hook past tables memory)
    (hnone : ∀ m ∈ past, ¬ Disturbed m) :
    tables.memory.Sound limit.val ∧ tables.InStep := by
  induction h with
  | fresh memory => exact ⟨Router.Memory.sound_initial _, rfl⟩
  | @call past tables memory last result before operation bound hlast hended ih =>
    obtain ⟨hm, hstep⟩ := ih fun m hm => hnone m (List.mem_append_left _ hm)
    have hrun := (undisturbed_start hm hstep operation).run hcalls bound fun k hk =>
      hnone _ (List.mem_append_right past
        (List.mem_map.mpr ⟨k, List.mem_range.mpr (by omega), rfl⟩))
    rw [hlast] at hrun
    exact ⟨hrun.memory, hrun.inStep hended⟩

/-- **The two copies of the routes.** Let a log hook make what calls it likes on the
application that it is the hook of. As long as it does not fail when it is told of a new
table, and does not have a table accepted while it is being told of another one, the
routes taken down are those in force whenever the calls that were made have ended,
whether they returned or not. -/
theorem copies_agree (hcalls : MakesCalls hook) (h : Session limit hook past tables memory)
    (hnone : ∀ m ∈ past, ¬ Disturbed m) : tables.InStep :=
  (h.kept hcalls hnone).2

/-- A hook that looks a path up whenever it is told something. -/
def looking : ReentrantHook Tables Registration (Router.Answer Handler) Unit where
  told _ _ r := (.call (Operation.find "/").task, r)
  answered _ _ r := (.resume, r)

theorem makesCalls_looking : MakesCalls looking where
  told _ _ _ := ⟨.find "/", rfl⟩
  answered _ _ _ := trivial

/-- A path is looked up while its route is being registered, and nothing comes of it. -/
theorem copies_agree_looking :
    MakesCalls looking
      ∧ ∃ past tables, Session .default looking past tables () ∧ (∀ m ∈ past, ¬ Disturbed m)
        ∧ tables.entries = front ∧ tables.InStep := by
  have hfresh : Session .default looking [] {} () := .fresh ()
  have hsession := hfresh.call (.register front) 12 rfl rfl
  have hnone : ∀ m ∈ moments .default looking 12 (Machine.start {} () (.register front)),
      ¬ Disturbed m := by decide
  exact ⟨makesCalls_looking, _, _, hsession, hnone, rfl,
    copies_agree makesCalls_looking hsession hnone⟩

/-! ## How they drift apart -/

/-- A hook that fails whenever it is told something. -/
def refusing : ReentrantHook Tables Registration (Router.Answer Handler) Unit where
  told _ _ r := (.fail (.raised "RuntimeError" "enough"), r)
  answered _ _ r := (.resume, r)

/-- A hook that takes all routes away when it is told of a table for the first time. -/
def meddling : ReentrantHook Tables Registration (Router.Answer Handler) Bool where
  told _ _ done := (if done then .resume else .call (Operation.register []).task, true)
  answered _ _ done := (.resume, done)

theorem makesCalls_refusing : MakesCalls refusing where
  told _ _ _ := trivial
  answered _ _ _ := trivial

theorem makesCalls_meddling : MakesCalls meddling where
  told _ _ done := by
    cases done with
    | false => exact ⟨.register [], rfl⟩
    | true => trivial
  answered _ _ _ := trivial

/-- A hook that fails makes the copies differ, and so does one that never fails but
registers routes of its own: the next route would be added to what is not in force. -/
theorem copies_drift :
    (MakesCalls refusing ∧ ∃ past tables, Session .default refusing past tables ()
        ∧ tables.entries = front ∧ tables.registry = [])
      ∧ (MakesCalls meddling ∧ ∃ past tables, Session .default meddling past tables true
        ∧ tables.entries = [] ∧ tables.registry = front)
      ∧ ¬ ∀ (hook : ReentrantHook Tables Registration (Router.Answer Handler) Unit),
          MakesCalls hook → ∀ past tables memory,
            Session .default hook past tables memory → tables.InStep := by
  have hrefused : Session .default refusing _ _ _ :=
    (Session.fresh ()).call (.register front) 3 rfl rfl
  have hmeddled : Session .default meddling _ _ _ :=
    (Session.fresh false).call (.register front) 12 rfl rfl
  refine ⟨⟨makesCalls_refusing, _, _, hrefused, rfl, rfl⟩,
    ⟨makesCalls_meddling, _, _, hmeddled, rfl, rfl⟩, fun hagree => ?_⟩
  have hstep : front = [] := hagree refusing makesCalls_refusing _ _ _ hrefused
  cases hstep

end WebRouter.App
