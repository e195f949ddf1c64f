import WebRouter.App
import WebRouter.Proofs.OneCaller
import WebRouter.Proofs.Refusals
import WebRouter.Proofs.Registering

/-!
# What an application's registrations add up to

An application keeps its routes as they were registered, beside the table that its
router has compiled of them, and adding one route means registering all of them again.
That works because the two agree between any two calls (`App.Settled`): every entry that
is registered again has been compiled before, so that only the one that is new can be at
fault.

`App.Takes` says what one call makes of the routes, without the table and the second
copy, and `App.Folds` says it of several calls.

> `App.registrations_add_up`: the table in force is what the calls that returned make of
> the first one, in their order, and a call that fails leaves the application as it was.
-/

namespace WebRouter.App

/-- What a caller may ask of an application's routes. -/
inductive Operation where
  | register (routes : Routes)
  | addRoute (template : String) (registrand : Registrand Handler)
  | find (path : String)
  | clear

/-- Carries an operation out. -/
def perform (app : App) : Operation → Outcome Unit
  | .register routes => app.register routes
  | .addRoute template registrand => app.addRoute template registrand
  | .find path =>
    let outcome := app.find path
    ⟨outcome.result.map fun _ => (), outcome.events, outcome.app⟩
  | .clear => app.clearCache

/-- What a call that returns makes of the routes as they were. -/
inductive Takes : Routes → Operation → Routes → Prop
  | replaced (table routes : Routes) : Takes table (.register routes) (Ordered.ofList routes)
  | appended {table : Routes} {template : String} {registrand : Registrand Handler}
      (h : template ∉ table.map Prod.fst) :
      Takes table (.addRoute template registrand) (table ++ [(template, registrand)])
  | inPlace {before after : Routes} {template : String} {former registrand : Registrand Handler}
      (h : template ∉ before.map Prod.fst) :
      Takes (before ++ (template, former) :: after) (.addRoute template registrand)
        (before ++ (template, registrand) :: after)
  | found (table : Routes) (path : String) : Takes table (.find path) table
  | cleared (table : Routes) : Takes table .clear table

/-- What calls that return make of the routes, one after the other. -/
inductive Folds : Routes → List Operation → Routes → Prop
  | nil (table : Routes) : Folds table [] table
  | cons {table next last : Routes} {operation : Operation} {rest : List Operation}
      (first : Takes table operation next) (more : Folds next rest last) :
      Folds table (operation :: rest) last

/-- Adding a route is storing under its template. -/
theorem takes_addRoute_iff {table next : Routes} {template : String}
    {registrand : Registrand Handler} :
    Takes table (.addRoute template registrand) next ↔
      next = Ordered.put template registrand table := by
  constructor
  · intro h
    cases h with
    | appended hnew => exact (Ordered.put_of_not_mem hnew registrand).symm
    | inPlace hnew => exact (Ordered.put_append_cons hnew registrand _ _).symm
  · intro h
    rw [h]
    by_cases hknown : template ∈ table.map Prod.fst
    · obtain ⟨keys, more, hkeys, hfirst⟩ := List.eq_append_cons_of_mem hknown
      obtain ⟨before, rest, rfl, rfl, hrest⟩ := List.map_eq_append_iff.mp hkeys
      obtain ⟨⟨_, former⟩, after, rfl, rfl, rfl⟩ := List.map_eq_cons_iff.mp hrest
      rw [Ordered.put_append_cons hfirst registrand former after]
      exact .inPlace hfirst
    · rw [Ordered.put_of_not_mem hknown registrand]
      exact .appended hknown

/-- A call makes one thing of the routes. -/
theorem Takes.unique {table next next' : Routes} {operation : Operation}
    (h : Takes table operation next) (h' : Takes table operation next') : next = next' := by
  cases operation with
  | register routes => cases h; cases h'; rfl
  | addRoute template registrand =>
    rw [takes_addRoute_iff.mp h, takes_addRoute_iff.mp h']
  | find path => cases h; cases h'; rfl
  | clear => cases h; cases h'; rfl

theorem Folds.unique {table last last' : Routes} {operations : List Operation}
    (h : Folds table operations last) (h' : Folds table operations last') : last = last' := by
  induction h with
  | nil table => cases h'; rfl
  | cons first more ih =>
    cases h' with
    | cons first' more' =>
      rw [first'.unique first] at more'
      exact ih more'

/-! ## Two copies that agree -/

/-- An application between two calls, with nobody listening to its router but the log: its
router's table has the routes that were registered last. -/
structure Settled (app : App) : Prop where
  hook : app.router.hook = LogHook.listening
  reached : app.router.Reached
  copies : app.router.routes.map Route.entry = app.registry

/-- What was registered last can be registered again. -/
theorem Settled.compiles {app : App} (h : app.Settled) :
    (app.registry.map Prod.fst).Nodup ∧ ∀ entry ∈ app.registry, ¬ Route.AtFault entry := by
  rw [← h.copies]
  refine ⟨?_, ?_⟩
  · have hdistinct := h.reached.sound.snapshot.stamped.distinct
    rw [List.map_map]
    exact hdistinct
  · obtain ⟨moves, hmoves⟩ := h.reached
    have hcompiled : app.router.snapshot.table.Compiled := by
      unfold Router.snapshot
      rw [hmoves]
      exact Router.World.compiled_after app.router.limit moves
    exact Route.not_atFault_of_compileAll (Route.compileAll_eq_ok_iff.mpr ⟨rfl, hcompiled⟩)

/-- A registration is refused, and nothing has happened, or it is accepted, and both
copies hold its mapping. -/
theorem Settled.register {app : App} (h : app.Settled) (routes : Routes) :
    (∃ e, Route.Refused (Ordered.ofList routes) e
        ∧ app.register routes = ⟨.error (.registration e), [], app⟩)
      ∨ ((∀ entry ∈ Ordered.ofList routes, ¬ Route.AtFault entry)
        ∧ (app.register routes).result = .ok () ∧ (app.register routes).app.Settled
        ∧ (app.register routes).app.registry = Ordered.ofList routes) := by
  have hreached := h.reached.call (.register routes) fun _ => ()
  unfold App.register App.ofRouter
  cases hcompiled : Route.compileAll app.router.memory.fresh (Ordered.ofList routes) with
  | error e =>
    rw [Router.register_of_error hcompiled]
    exact Or.inl ⟨e, Route.compileAll_eq_error_iff.mp hcompiled, rfl⟩
  | ok compiled =>
    have hcalled := Router.register_of_ok hcompiled
    have hreached : (app.router.register routes).router.Reached := hreached
    rw [h.hook] at hcalled
    rw [hcalled] at hreached ⊢
    have hentries := (Route.compileAll_eq_ok_iff.mp hcompiled).1
    exact Or.inr ⟨Route.not_atFault_of_compileAll hcompiled, rfl, ⟨rfl, hreached, hentries⟩, rfl⟩

/-- What is registered again to add a route has its templates only once. -/
theorem Settled.ofList_put {app : App} (h : app.Settled) (template : String)
    (registrand : Registrand Handler) :
    Ordered.ofList (Ordered.put template registrand app.registry)
      = Ordered.put template registrand app.registry :=
  Ordered.update_of_nodup (Ordered.nodup_keys_put h.compiles.1 template registrand)

/-- Of the routes that are registered again, only the new one can be at fault. -/
theorem Settled.atFault_of_put {app : App} (h : app.Settled) {template : String}
    {registrand : Registrand Handler} {entry : String × Registrand Handler}
    (hentry : entry ∈ Ordered.put template registrand app.registry)
    (hfault : Route.AtFault entry) : entry = (template, registrand) := by
  rcases Ordered.mem_put hentry with hnew | hold
  · exact hnew
  · exact absurd hfault (h.compiles.2 entry hold)

/-- Adding a route is refused for what is wrong with it, or accepted. -/
theorem Settled.addRoute {app : App} (h : app.Settled) (template : String)
    (registrand : Registrand Handler) :
    (∃ reason, Route.Fault (template, registrand) reason
        ∧ app.addRoute template registrand = ⟨.error (.registration ⟨template, reason⟩), [], app⟩)
      ∨ (¬ Route.AtFault (template, registrand)
        ∧ (app.addRoute template registrand).result = .ok ()
        ∧ (app.addRoute template registrand).app.Settled
        ∧ (app.addRoute template registrand).app.registry
          = Ordered.put template registrand app.registry) := by
  have hregister := h.register (Ordered.put template registrand app.registry)
  rw [h.ofList_put] at hregister
  rcases hregister with ⟨e, hrefused, houtcome⟩ | ⟨hsound, hresult, hsettled, hregistry⟩
  · -- the first entry at fault is the new one, as all others were accepted before
    obtain ⟨before, entry, after, hsplit, -, htemplate, hfault⟩ := hrefused
    have hmem : entry ∈ Ordered.put template registrand app.registry := by
      rw [hsplit]
      exact List.mem_append_right _ List.mem_cons_self
    have hentry := h.atFault_of_put hmem (Route.atFault_iff.mpr ⟨_, hfault⟩)
    subst hentry
    have htemplate : e.template = template := htemplate
    refine Or.inl ⟨e.reason, hfault, ?_⟩
    rw [App.addRoute, houtcome, ← htemplate]
  · have hmem : (template, registrand) ∈ Ordered.put template registrand app.registry :=
      Ordered.mem_of_find? (Ordered.find?_put_self template registrand app.registry)
    exact Or.inr ⟨hsound _ hmem, hresult, hsettled, hregistry⟩

/-- A call on the router that is no registration leaves both copies as they are. -/
theorem Settled.call {app : App} (h : app.Settled) (operation : Router.Operation Handler)
    (hfits : operation.task.Fits app.router.memory)
    (hother : ∀ entries, operation.task ≠ .register entries) {α : Type}
    (read : Router.Answer Handler → α) :
    (app.ofRouter (app.router.call operation.task read)).app.Settled := by
  have htable : (operation.task.run app.router.limit.val app.router.hook app.router.told
      app.router.memory).memory.snapshot.table = app.router.memory.snapshot.table :=
    Router.Task.run_table h.reached.sound hfits hother
  refine ⟨h.hook, h.reached.call operation read, ?_⟩
  refine Eq.trans ?_ h.copies
  exact congrArg (fun table : Router.Table Handler => table.routes.map Route.entry) htable

/-- A match gives what a scan of the table finds, and leaves the routes as they are. -/
theorem Settled.find {app : App} (h : app.Settled) (path : String) :
    (app.find path).result = .ok (app.router.snapshot.table.scan? path)
      ∧ (app.find path).app.Settled := by
  have hsettled : (app.ofRouter (app.router.call (.find path) Router.Answer.match?)).app.Settled :=
    h.call (.find path) trivial (fun _ he => by cases he) _
  refine ⟨?_, hsettled⟩
  have hrun : ((Router.Task.find path).run app.router.limit.val LogHook.listening app.router.told
      app.router.memory).result = .ok (.found (app.router.memory.snapshot.table.scan? path)) :=
    (Router.Task.run_find h.reached.sound path).1
  unfold App.find App.ofRouter Router.find Router.call
  dsimp only
  rw [h.hook, hrun]
  rfl

/-- Forgetting what was cached leaves the routes as they are. -/
theorem Settled.clearCache {app : App} (h : app.Settled) :
    app.clearCache.result = .ok () ∧ app.clearCache.app.Settled := by
  have hsettled : (app.ofRouter (app.router.call .clear fun _ => ())).app.Settled :=
    h.call .clear trivial (fun _ he => by cases he) _
  refine ⟨?_, hsettled⟩
  unfold App.clearCache App.ofRouter Router.clear Router.call
  dsimp only
  rw [Router.Task.run_clear]
  rfl

/-- A call fails, and has done nothing, or it returns, and has made of the routes what it
is to make of them. -/
theorem Settled.perform {app : App} (h : app.Settled) (operation : Operation) :
    (∃ failure, app.perform operation = ⟨.error failure, [], app⟩)
      ∨ ((app.perform operation).result = .ok () ∧ (app.perform operation).app.Settled
        ∧ Takes app.registry operation (app.perform operation).app.registry) := by
  cases operation with
  | register routes =>
    rcases h.register routes with ⟨e, -, houtcome⟩ | ⟨-, hresult, hsettled, hregistry⟩
    · exact Or.inl ⟨_, houtcome⟩
    · refine Or.inr ⟨hresult, hsettled, ?_⟩
      rw [App.perform, hregistry]
      exact .replaced _ routes
  | addRoute template registrand =>
    rcases h.addRoute template registrand with
      ⟨reason, -, houtcome⟩ | ⟨-, hresult, hsettled, hregistry⟩
    · exact Or.inl ⟨_, houtcome⟩
    · exact Or.inr ⟨hresult, hsettled, takes_addRoute_iff.mpr hregistry⟩
  | find path =>
    obtain ⟨hresult, hsettled⟩ := h.find path
    refine Or.inr ⟨?_, hsettled, .found _ path⟩
    rw [App.perform, hresult]
    rfl
  | clear =>
    obtain ⟨hresult, hsettled⟩ := h.clearCache
    exact Or.inr ⟨hresult, hsettled, .cleared _⟩

/-! ## One call after the other -/

/-- A call in a sequence of calls: the application as it finds it, and what is asked of
it. -/
structure Turn where
  app : App
  operation : Operation

/-- What the call comes to. -/
def Turn.outcome (turn : Turn) : Outcome Unit :=
  turn.app.perform turn.operation

/-- The calls that carry out operations, each on the application that the one before it
has left. -/
def turns (app : App) : List Operation → List Turn
  | [] => []
  | operation :: rest => ⟨app, operation⟩ :: (app.perform operation).app.turns rest

/-- The application that operations leave behind. -/
def after (app : App) (operations : List Operation) : App :=
  operations.foldl (fun app operation => (app.perform operation).app) app

/-- Whether the call returns. -/
def Turn.returns (turn : Turn) : Bool :=
  turn.outcome.result.isOk

/-- Adding a route returns unless that route is at fault. -/
theorem Settled.returns_addRoute {app : App} (h : app.Settled) {template : String}
    {registrand : Registrand Handler} :
    Turn.returns ⟨app, .addRoute template registrand⟩ = true
      ↔ ¬ Route.AtFault (template, registrand) := by
  unfold Turn.returns Turn.outcome App.perform
  rcases h.addRoute template registrand with ⟨reason, hfault, houtcome⟩ | ⟨hsound, hresult, -⟩
  · dsimp only
    rw [houtcome]
    exact iff_of_false Bool.false_ne_true fun hsound =>
      hsound (Route.atFault_iff.mpr ⟨reason, hfault⟩)
  · dsimp only
    rw [hresult]
    exact iff_of_true rfl hsound

/-- What was asked in those calls that returned. -/
def returned (turns : List Turn) : List Operation :=
  (turns.filter Turn.returns).map Turn.operation

theorem Settled.next {app : App} (h : app.Settled) (operation : Operation) :
    (app.perform operation).app.Settled := by
  rcases h.perform operation with ⟨failure, houtcome⟩ | ⟨-, hsettled, -⟩
  · rw [houtcome]
    exact h
  · exact hsettled

/-- Every call finds an application with two copies that agree. -/
theorem Settled.turns {app : App} (h : app.Settled) (operations : List Operation) :
    ∀ turn ∈ app.turns operations, turn.app.Settled := by
  induction operations generalizing app with
  | nil => exact fun turn hturn => (List.not_mem_nil hturn).elim
  | cons operation rest ih => exact List.forall_mem_cons.mpr ⟨h, ih (h.next operation)⟩

theorem Settled.after {app : App} (h : app.Settled) (operations : List Operation) :
    (app.after operations).Settled := by
  induction operations generalizing app with
  | nil => exact h
  | cons operation rest ih => exact ih (h.next operation)

/-- The routes registered last are what the calls that returned make of those before. -/
theorem Settled.folds {app : App} (h : app.Settled) (operations : List Operation) :
    Folds app.registry (returned (app.turns operations)) (app.after operations).registry := by
  induction operations generalizing app with
  | nil => exact .nil app.registry
  | cons operation rest ih =>
    have hrest := ih (h.next operation)
    rw [App.turns, returned]
    rcases h.perform operation with ⟨failure, houtcome⟩ | ⟨hresult, -, htakes⟩
    · -- the rest is run on the very application that this call was made on
      have hskipped : ¬ Turn.returns ⟨app, operation⟩ = true := by
        rw [Turn.returns, Turn.outcome, houtcome]
        exact Bool.false_ne_true
      rw [List.filter_cons_of_neg hskipped]
      rw [houtcome] at hrest
      rw [App.after, List.foldl_cons, houtcome]
      exact hrest
    · have hcounted : Turn.returns ⟨app, operation⟩ = true := by
        rw [Turn.returns, Turn.outcome, hresult]
        rfl
      rw [List.filter_cons_of_pos hcounted]
      exact .cons htakes hrest

/-- An application is made with its two copies in agreement, if it can be made. -/
theorem settled_create {config : Config} {routes? : Option Routes}
    {observer? : Option (Request → Response → Script)}
    (h : (create config routes? LogHook.listening observer?).result = .ok ()) :
    (create config routes? LogHook.listening observer?).app.Settled
      ∧ (create config routes? LogHook.listening observer?).app.registry
        = routes?.elim [] Ordered.ofList := by
  have hbare : ({ config, router := { limit := config.cacheLimit }, observer? } : App).Settled :=
    ⟨rfl, Router.reached_new _ _, rfl⟩
  cases routes? with
  | none => exact ⟨hbare, rfl⟩
  | some routes =>
    rcases hbare.register routes with ⟨e, -, houtcome⟩ | ⟨-, -, hsettled, hregistry⟩
    · have hrefused : (create config (some routes) LogHook.listening observer?).result
          = .error (.registration e) := congrArg Outcome.result houtcome
      cases h.symm.trans hrefused
    · exact ⟨hsettled, hregistry⟩

/-- **What registrations add up to.** Let an application be made without a log hook, and
let any calls on its routes follow. The table in force is then what those of the calls
that returned make of the routes it was made with, in their order and whatever else was
tried in between. A call that fails leaves the application as it found it; and adding a
route fails exactly if that route is at fault, with an error that names its template. -/
theorem registrations_add_up (config : Config) (routes? : Option Routes)
    (observer? : Option (Request → Response → Script)) (operations : List Operation)
    (h : (create config routes? LogHook.listening observer?).result = .ok ()) :
    let app := (create config routes? LogHook.listening observer?).app
    let turns := app.turns operations
    (∀ table, Folds (routes?.elim [] Ordered.ofList) (returned turns) table ↔
        table = (app.after operations).router.routes.map Route.entry)
      ∧ ∀ turn ∈ turns,
          (∀ failure, turn.outcome.result = .error failure → turn.outcome.app = turn.app)
          ∧ ∀ template registrand, turn.operation = .addRoute template registrand →
              ((∃ e, turn.outcome.result = .error (.registration e)) ↔
                Route.AtFault (template, registrand))
              ∧ ∀ failure, turn.outcome.result = .error failure →
                  ∃ reason, failure = .registration ⟨template, reason⟩
                    ∧ Route.Fault (template, registrand) reason := by
  intro app turns
  obtain ⟨hsettled, hregistry⟩ := settled_create h
  have hsettled : app.Settled := hsettled
  have hfolds := hsettled.folds operations
  rw [hregistry, ← (hsettled.after operations).copies] at hfolds
  refine ⟨fun table => ⟨fun hfolded => hfolded.unique hfolds, fun htable => ?_⟩, ?_⟩
  · rw [htable]
    exact hfolds
  · intro turn hturn
    have hfound := hsettled.turns operations turn hturn
    refine ⟨fun failure hfailed => ?_, fun template registrand hoperation => ?_⟩
    · rcases hfound.perform turn.operation with ⟨failure', houtcome⟩ | ⟨hresult, -⟩
      · exact congrArg Outcome.app houtcome
      · cases hfailed.symm.trans hresult
    rw [Turn.outcome, hoperation, App.perform]
    rcases hfound.addRoute template registrand with
      ⟨reason, hfault, houtcome⟩ | ⟨hsound, hresult, -⟩
    · rw [houtcome]
      refine ⟨iff_of_true ⟨_, rfl⟩ (Route.atFault_iff.mpr ⟨reason, hfault⟩), ?_⟩
      intro failure hfailed
      cases hfailed
      exact ⟨reason, rfl, hfault⟩
    · rw [hresult]
      refine ⟨iff_of_false (fun hfailed => ?_) hsound, fun failure hfailed => by cases hfailed⟩
      obtain ⟨e, he⟩ := hfailed
      cases he

/-- A handler that answers with its own name. -/
def signing (name : String) : Handler :=
  ⟨name, fun _ _ => .done (.str name)⟩

/-- The routes of an application that is made with one. -/
def front : Routes :=
  [("/", .handler (signing "front"))]

/-- A route that cannot be added, and one that takes the place of the first. -/
def changes : List Operation :=
  [.addRoute "/:id/:id" (.handler (signing "item")), .addRoute "/" (.handler (signing "shop"))]

/-- The route that cannot be added is passed over, and the other one is in its place. -/
theorem registrations_add_up_changes :
    (create {} (some front) LogHook.listening none).result = .ok ()
      ∧ ((create {} (some front) LogHook.listening none).app.after changes).router.routes.map
          Route.entry = [("/", .handler (signing "shop"))] := by
  have hcompiled : Route.compileAll 1 (Ordered.ofList front)
      = .ok [⟨"/", [.literal "", .literal ""], signing "front", 1⟩] := by rfl
  have hmade : (create {} (some front) LogHook.listening none).result = .ok () := by
    unfold create App.register App.ofRouter
    dsimp only
    rw [Router.register_of_ok hcompiled]
    rfl
  have hfold := (registrations_add_up {} (some front) none changes hmade).1
  refine ⟨hmade, ((hfold _).mp ?_).symm⟩
  have hsettled := (settled_create hmade).1
  generalize (create {} (some front) LogHook.listening none).app = app at hsettled
  have hfirst : ¬ Turn.returns ⟨app, .addRoute "/:id/:id" (.handler (signing "item"))⟩ = true :=
    fun hreturns => (hsettled.returns_addRoute.mp hreturns) (Or.inr (Or.inr (by decide)))
  have hsound : ¬ Route.AtFault ("/", .handler (signing "shop")) := by
    intro hfault
    rcases hfault with ⟨kind, hkind⟩ | hunnamed | hrepeated
    · cases hkind
    · exact absurd hunnamed (by decide)
    · exact hrepeated (by decide)
  have hsecond : Turn.returns ⟨_, .addRoute "/" (.handler (signing "shop"))⟩ = true :=
    (hsettled.next (.addRoute "/:id/:id" (.handler (signing "item")))).returns_addRoute.mpr hsound
  have htakes : Takes front (.addRoute "/" (.handler (signing "shop")))
      [("/", .handler (signing "shop"))] := takes_addRoute_iff.mpr rfl
  rw [changes, App.turns, App.turns, App.turns, returned, List.filter_cons_of_neg hfirst,
    List.filter_cons_of_pos hsecond]
  exact .cons htakes (.nil _)

end WebRouter.App
