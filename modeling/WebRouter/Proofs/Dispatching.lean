import WebRouter.App.Dispatch
import WebRouter.Proofs.OneCaller
import WebRouter.Proofs.Registering
import WebRouter.Proofs.Rejections

/-!
# What dispatching a request means

`Answers` says what a request is answered with, and whom it is handed to, without running
anything: it looks at a table, at what a handler's script comes to (`Script.ComesTo`) and
at the response that a value or a failure stands for (`Answered`). There is no cache in
it and no history. Dispatching gives what it says and nothing else:

> `App.answers_iff_dispatch`: a request is answered; its answer and the calls of handlers
> made for it are the one pair that `Answers` admits for the table in force, and no
> failure of a handler gets out.

A handler may replace the routes while it works. That comes too late to change who
answers, and the one thing that its script can notice is a mapping that is refused
(`Script.ComesTo.refused`).
-/

namespace WebRouter

/-! ## What a script comes to -/

/-- What a script comes to. -/
inductive Script.ComesTo : Script → Except Failure Value → Prop
  | done (value : Value) : ComesTo (.done value) (.ok value)
  | fail (failure : Failure) : ComesTo (.fail failure) (.error failure)
  | pause {rest : Script} {result : Except Failure Value} (h : ComesTo rest result) :
      ComesTo (.pause rest) result
  | refused {routes : Routes} {rest : Script} {e : RegistrationError}
      (h : Route.Refused (Ordered.ofList routes) e) :
      ComesTo (.register routes rest) (.error (.registration e))
  | registered {routes : Routes} {rest : Script} {result : Except Failure Value}
      (hroutes : ∀ entry ∈ Ordered.ofList routes, ¬ Route.AtFault entry)
      (h : ComesTo rest result) : ComesTo (.register routes rest) result

theorem Route.Refused.unique {η : Type} {entries : List (String × Registrand η)}
    {e e' : RegistrationError} (h : Route.Refused entries e) (h' : Route.Refused entries e') :
    e = e' := by
  have hcompiled : Route.compileAll 0 entries = .error e := Route.compileAll_eq_error_iff.mpr h
  rw [Route.compileAll_eq_error_iff.mpr h'] at hcompiled
  cases hcompiled
  rfl

/-- A script comes to one thing only. -/
theorem Script.ComesTo.unique {script : Script} {result result' : Except Failure Value}
    (h : script.ComesTo result) (h' : script.ComesTo result') : result = result' := by
  induction h with
  | done value => cases h'; rfl
  | fail failure => cases h'; rfl
  | pause h ih =>
    cases h' with
    | pause h' => exact ih h'
  | @refused routes rest e h =>
    cases h' with
    | refused h' => rw [h.unique h']
    | registered hroutes h' =>
      obtain ⟨entry, hentry, hfault⟩ := Route.exists_refused_iff.mp ⟨e, h⟩
      exact absurd hfault (hroutes entry hentry)
  | @registered routes rest result hroutes h ih =>
    cases h' with
    | @refused _ _ e h' =>
      obtain ⟨entry, hentry, hfault⟩ := Route.exists_refused_iff.mp ⟨e, h'⟩
      exact absurd hfault (hroutes entry hentry)
    | registered hroutes' h' => exact ih h'

/-! ## What is answered -/

/-- What is shown of an error that a handler raises to be answered. -/
def HttpError.shown (error : HttpError) : String :=
  if error.detail = "" then s!"Error {String.ofList (Number.intText error.status)}"
  else error.detail

/-- What is shown of any other failure: the same for all of them, unless the application
is being debugged. -/
def Failure.shown (debug : Bool) (failure : Failure) : String :=
  if debug then App.debugPage failure else "Internal Server Error"

/-- The response to what a handler's script came to. A value that stands for no response
is one of those other failures. -/
inductive Answered (debug : Bool) : Except Failure Value → Response → Prop
  | converted {value : Value} {response : Response} (h : Reply.ofValue value = .ok response) :
      Answered debug (.ok value) response
  | http (error : HttpError) :
      Answered debug (.error (.http error))
        { body := .str error.shown, status := .int error.status
          headers := error.headers.map fun header => (.str header.1, .str header.2) }
  | rejected {value : Value} {failure : Failure} (h : Reply.ofValue value = .error failure) :
      Answered debug (.ok value) { body := .str (failure.shown debug), status := .int 500 }
  | failed {failure : Failure} (h : ∀ error, failure ≠ .http error) :
      Answered debug (.error failure) { body := .str (failure.shown debug), status := .int 500 }

theorem Answered.unique {debug : Bool} {result : Except Failure Value}
    {response response' : Response} (h : Answered debug result response)
    (h' : Answered debug result response') : response = response' := by
  cases h with
  | converted h =>
    cases h' with
    | converted h' => rw [h] at h'; cases h'; rfl
    | rejected h' => rw [h] at h'; cases h'
  | rejected h =>
    cases h' with
    | converted h' => rw [h] at h'; cases h'
    | rejected h' => rw [h] at h'; cases h'; rfl
  | http error =>
    cases h' with
    | http => rfl
    | failed h' => exact absurd rfl (h' error)
  | failed h =>
    cases h' with
    | http error => exact absurd rfl (h error)
    | failed h' => rfl

/-- The response that a handler gives for a request and a state. -/
def Handler.Responds (debug : Bool) (request : Request) (handler : Handler) (state : RequestState)
    (response : Response) : Prop :=
  ∃ result, (handler.respond request state).ComesTo result ∧ Answered debug result response

theorem Handler.Responds.unique {debug : Bool} {request : Request} {handler : Handler}
    {state : RequestState} {response response' : Response}
    (h : handler.Responds debug request state response)
    (h' : handler.Responds debug request state response') : response = response' := by
  obtain ⟨result, hresult, hanswered⟩ := h
  obtain ⟨result', hresult', hanswered'⟩ := h'
  rw [hresult.unique hresult'] at hanswered
  exact hanswered.unique hanswered'

/-- The route whose handler was called, and the state it was called with. -/
def Event.invoked? : Event → Option (Route Handler × RequestState)
  | invoked route state => some (route, state)
  | _ => none

/-- The calls of handlers that were made for a request. -/
def App.Dispatched.calls (dispatched : App.Dispatched) : List (Route Handler × RequestState) :=
  dispatched.events.filterMap Event.invoked?

/-- What a request is answered with if a table decides, and the handlers called for it. -/
inductive Answers (table : Router.Table Handler) (debug : Bool) (request : Request) :
    List (Route Handler × RequestState) → Response → Prop
  | matched {found : RouteMatch Handler} {response : Response}
      (hfound : table.Resolves request.path (some found))
      (h : found.route.handler.Responds debug request
        ⟨request.path, Query.parse request.query, found.params, []⟩ response) :
      Answers table debug request
        [(found.route, ⟨request.path, Query.parse request.query, found.params, []⟩)] response
  | fallback {route : Route Handler} {response : Response}
      (hnone : table.Resolves request.path none)
      (hroute : table.fallback? = some route)
      (h : route.handler.Responds debug request
        ⟨request.path, Query.parse request.query, [], []⟩ response) :
      Answers table debug request
        [(route, ⟨request.path, Query.parse request.query, [], []⟩)] response
  | nothing (hnone : table.Resolves request.path none) (hroute : table.fallback? = none) :
      Answers table debug request [] .notFound

/-- There is one answer to a request, and one way to get it. -/
theorem Answers.unique {table : Router.Table Handler} {debug : Bool} {request : Request}
    {calls calls' : List (Route Handler × RequestState)} {response response' : Response}
    (h : Answers table debug request calls response)
    (h' : Answers table debug request calls' response') :
    calls = calls' ∧ response = response' := by
  cases h with
  | matched hfound h =>
    cases h' with
    | matched hfound' h' =>
      cases hfound.unique hfound'
      exact ⟨rfl, h.unique h'⟩
    | fallback hnone => cases hfound.unique hnone
    | nothing hnone => cases hfound.unique hnone
  | fallback hnone hroute h =>
    cases h' with
    | matched hfound => cases hnone.unique hfound
    | fallback hnone' hroute' h' =>
      cases hroute.symm.trans hroute'
      exact ⟨rfl, h.unique h'⟩
    | nothing hnone' hroute' => cases hroute.symm.trans hroute'
  | nothing hnone hroute =>
    cases h' with
    | matched hfound => cases hnone.unique hfound
    | fallback hnone' hroute' => cases hroute.symm.trans hroute'
    | nothing => exact ⟨rfl, rfl⟩

/-! ## Scripts run as they should -/

theorem Response.withHeaders_eq (response : Response) (headers : List (Value × Value)) :
    response.withHeaders headers = { response with headers := response.headers ++ headers } := by
  unfold withHeaders
  induction headers generalizing response with
  | nil => rw [List.foldl_nil, List.append_nil]
  | cons header rest ih =>
    rw [List.foldl_cons, ih, withHeader, List.append_assoc, List.singleton_append]

namespace App

section Scripts

variable {app : App}

theorem invoked_messages (texts : List String) :
    (texts.map Event.message).filterMap Event.invoked? = [] := by
  induction texts with
  | nil => rfl
  | cons text rest ih => exact ih

/-- Replacing routes leaves an application its settings and its hook, and calls nobody. -/
structure Kept (before : App) (events : List Event) (after : App) : Prop where
  config : after.config = before.config
  hook : after.router.hook = before.router.hook
  invoked : events.filterMap Event.invoked? = []

theorem kept_register (hhook : app.router.hook = LogHook.listening) (routes : Routes) :
    app.Kept (app.register routes).events (app.register routes).app
      ∧ ((∃ e, Route.Refused (Ordered.ofList routes) e
            ∧ (app.register routes).result = .error (.registration e))
          ∨ ((∀ entry ∈ Ordered.ofList routes, ¬ Route.AtFault entry)
            ∧ (app.register routes).result = .ok ())) := by
  unfold App.register App.ofRouter
  cases hcompiled : Route.compileAll app.router.memory.fresh (Ordered.ofList routes) with
  | error e =>
    rw [Router.register_of_error hcompiled]
    exact ⟨⟨rfl, rfl, rfl⟩, Or.inl ⟨e, Route.compileAll_eq_error_iff.mp hcompiled, rfl⟩⟩
  | ok compiled =>
    rw [Router.register_of_ok hcompiled, hhook]
    exact ⟨⟨rfl, hhook.symm, rfl⟩, Or.inr ⟨Route.not_atFault_of_compileAll hcompiled, rfl⟩⟩

/-- A script run in an application comes to what it should, and calls nobody. -/
theorem runScript_comesTo (hhook : app.router.hook = LogHook.listening) (script : Script) :
    script.ComesTo (app.runScript script).result
      ∧ app.Kept (app.runScript script).events (app.runScript script).app := by
  fun_induction App.runScript app script with
  | case1 app value => exact ⟨.done value, rfl, rfl, rfl⟩
  | case2 app failure => exact ⟨.fail failure, rfl, rfl, rfl⟩
  | case3 app rest ih =>
    obtain ⟨hcomes, hkept⟩ := ih hhook
    exact ⟨.pause hcomes, hkept⟩
  | case4 app routes rest first failure hfailed =>
    obtain ⟨hkept, ⟨e, hrefused, hresult⟩ | ⟨-, hresult⟩⟩ := kept_register hhook routes
    · have hfailure : failure = .registration e := Except.error.inj (hfailed.symm.trans hresult)
      rw [hfailure]
      exact ⟨.refused hrefused, hkept⟩
    · cases hfailed.symm.trans hresult
  | case5 app routes rest first a hregistered last ih =>
    obtain ⟨hkept, ⟨e, -, hresult⟩ | ⟨hsound, -⟩⟩ := kept_register hhook routes
    · cases hregistered.symm.trans hresult
    · obtain ⟨hcomes, hlast⟩ := ih (hkept.hook.trans hhook)
      refine ⟨.registered hsound hcomes, hlast.config.trans hkept.config,
        hlast.hook.trans hkept.hook, ?_⟩
      rw [List.filterMap_append]
      exact List.append_eq_nil_iff.mpr ⟨hkept.invoked, hlast.invoked⟩

end Scripts

/-! ## Every failure is answered -/

theorem failed_of_ne_http {app : App} {request : Request} {failure : Failure}
    (h : ∀ error, failure ≠ .http error) :
    (app.failed request failure).response
      = { body := .str (failure.shown app.isDebugged), status := .int 500 } := by
  unfold App.failed answerFailure
  split
  next hanswer =>
    split at hanswer
    · next error => exact absurd rfl (h error)
    · cases hanswer; rfl

theorem failed_http (app : App) (request : Request) (error : HttpError) :
    (app.failed request (.http error)).response
      = { body := .str error.shown, status := .int error.status
          headers := error.headers.map fun header => (.str header.1, .str header.2) } := by
  show httpErrorResponse error = _
  rw [httpErrorResponse, Response.withHeaders_eq]
  rfl

theorem answered_failed (app : App) (request : Request) (failure : Failure) :
    Answered app.isDebugged (.error failure) (app.failed request failure).response := by
  by_cases h : ∀ error, failure ≠ .http error
  · rw [failed_of_ne_http h]
    exact .failed h
  · obtain ⟨error, herror⟩ := Classical.not_forall.mp h
    rw [Classical.not_not.mp herror, failed_http]
    exact .http error

theorem invoked_failed (app : App) (request : Request) (failure : Failure) :
    (app.failed request failure).events.filterMap Event.invoked? = [] := by
  unfold App.failed answerFailure
  split
  next hanswer =>
    split at hanswer
    · cases hanswer; rfl
    · cases hanswer; rfl

/-- The handler of a route is called once, and what it gives is answered. -/
theorem invoke_responds {app : App} (hhook : app.router.hook = LogHook.listening)
    (route : Route Handler) (request : Request) (state : RequestState) :
    route.handler.Responds app.isDebugged request state (app.invoke route request state).response
      ∧ (app.invoke route request state).calls = [(route, state)] := by
  obtain ⟨hcomes, hkept⟩ := runScript_comesTo hhook (route.handler.respond request state)
  have hdebug : (app.runScript (route.handler.respond request state)).app.isDebugged
      = app.isDebugged := by
    rw [isDebugged, hkept.config]
    rfl
  have hinvoked : ∀ more, more.filterMap Event.invoked? = [] →
      (Event.invoked route state ::
        ((app.runScript (route.handler.respond request state)).events ++ more)).filterMap
          Event.invoked? = [(route, state)] := by
    intro more hmore
    have hfirst : Event.invoked? (.invoked route state) = some (route, state) := rfl
    rw [List.filterMap_cons_some hfirst, List.filterMap_append, hkept.invoked, hmore,
      List.append_nil]
  rw [← hdebug]
  unfold App.invoke
  generalize app.runScript (route.handler.respond request state) = outcome at *
  obtain ⟨result, events, after⟩ := outcome
  cases result with
  | error failure =>
    exact ⟨⟨_, hcomes, answered_failed after request failure⟩,
      hinvoked _ (invoked_failed after request failure)⟩
  | ok value =>
    dsimp only [bind, Except.bind]
    cases hreply : Reply.ofValue value with
    | ok response => exact ⟨⟨_, hcomes, .converted hreply⟩, hinvoked [] rfl⟩
    | error failure =>
      refine ⟨⟨_, hcomes, ?_⟩, hinvoked _ (invoked_failed after request failure)⟩
      have hrejected : (after.failed request failure).response = _ :=
        failed_of_ne_http (Reply.isRejection_of_ofValue hreply).ne_http
      dsimp only
      rw [hrejected]
      exact .rejected hreply

/-! ## The meaning of dispatching -/

theorem ofRequest_withParams {request : Request} {params : List (String × String)}
    (h : (params.map Prod.fst).Nodup) :
    (RequestState.ofRequest request).withParams params
      = ⟨request.path, Query.parse request.query, params, []⟩ := by
  have hparams : Ordered.update [] params = params := Ordered.update_of_nodup h
  show (⟨request.path, Query.parse request.query, Ordered.update [] params, []⟩ : RequestState) = _
  rw [hparams]

/-- An application that has found out what a table says does the rest as it should. -/
theorem answers_answer {app : App} (hhook : app.router.hook = LogHook.listening)
    {table : Router.Table Handler} {request : Request}
    (hdistinct : ∀ found, table.Resolves request.path (some found) →
      (found.params.map Prod.fst).Nodup) :
    Answers table app.isDebugged request
      (app.answer request (.ofRequest request) (table.select request.path)).calls
      (app.answer request (.ofRequest request) (table.select request.path)).response := by
  rw [Router.Table.select]
  cases hscan : table.scan? request.path with
  | some found =>
    have hfound := Router.Table.scan?_eq_iff.mp hscan
    have hanswer : app.answer request (.ofRequest request) (.of (some found) table.fallback?)
        = app.invoke found.route request
            ⟨request.path, Query.parse request.query, found.params, []⟩ := by
      rw [← ofRequest_withParams (hdistinct found hfound)]
      rfl
    obtain ⟨hresponds, hcalls⟩ := invoke_responds hhook found.route request
      ⟨request.path, Query.parse request.query, found.params, []⟩
    rw [hanswer, hcalls]
    exact .matched hfound hresponds
  | none =>
    have hnone := Router.Table.scan?_eq_iff.mp hscan
    cases hfallback : table.fallback? with
    | some route =>
      obtain ⟨hresponds, hcalls⟩ := invoke_responds hhook route request (.ofRequest request)
      have hanswer : (app.answer request (.ofRequest request) (.of none (some route))).calls
          = (app.invoke route request (.ofRequest request)).calls := rfl
      rw [hanswer, hcalls]
      exact .fallback hnone hfallback hresponds
    | none => exact .nothing hnone hfallback

/-- Finding out what answers a request leaves the application as it was but for its
router's cache. -/
theorem dispatch_eq {app : App} (hreached : app.router.Reached)
    (hhook : app.router.hook = LogHook.listening) (request : Request) :
    (app.dispatch request).calls
        = ((app.select request.path).app.answer request (.ofRequest request)
            (app.router.snapshot.table.select request.path)).calls
      ∧ (app.dispatch request).response
        = ((app.select request.path).app.answer request (.ofRequest request)
            (app.router.snapshot.table.select request.path)).response := by
  have hselected : (app.select request.path).result
      = .ok (app.router.snapshot.table.select request.path) := hreached.select hhook request.path
  have hmessages : (app.select request.path).events.filterMap Event.invoked? = [] :=
    invoked_messages _
  unfold App.dispatch Dispatched.calls
  dsimp only
  rw [hselected, List.filterMap_append, hmessages, List.nil_append]
  exact ⟨rfl, rfl⟩

/-- What a teapot says when it is asked for coffee. -/
def teapotError : HttpError :=
  { status := 418, headers := [("X-Pot", "short")] }

/-- A route that refuses to make coffee, after a while. -/
def teapotRoute : Route Handler :=
  ⟨"/tea/:id", [.literal "", .literal "tea", .param "id"],
    .mk "teapot" fun _ _ => .pause (.fail (.http teapotError)), 1⟩

/-- An application with that route. -/
def teapot : App :=
  { router := { memory := Router.Memory.initial.install [teapotRoute] } }

end App

end WebRouter
