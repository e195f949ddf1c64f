import WebRouter.App.Serve
import WebRouter.Proofs.Sending

/-!
# Requests that are answered

Whatever a handler does, dispatching its request gives a response; and whatever the
observer does to be shown it, that response is what is sent. What can still fail is the
sending, and by then nobody is left to answer.

> `App.answered_iff_sendable`: a request whose response can be sent is answered with the
> two messages that the response carries; for any other request the call fails, and
> nothing is sent.

If all that the handlers of the table in force return or raise is well made, every request
is answered (`App.answered_of_wellMade`).
-/

namespace WebRouter

/-- A handler all of whose results are well made. -/
def Handler.WellMade (handler : Handler) : Prop :=
  ∀ request state result, (handler.respond request state).ComesTo result → WellMadeResult result

theorem Answers.wellMade {table : Router.Table Handler} {debug : Bool} {request : Request}
    {calls : List (Route Handler × RequestState)} {response : Response}
    (h : Answers table debug request calls response)
    (hmade : ∀ route ∈ table.routes, route.handler.WellMade) : response.WellMade := by
  cases h with
  | @matched found _ hfound h =>
    obtain ⟨result, hcomes, hanswered⟩ := h
    have hmem : found.route ∈ table.routes := Router.Table.Wins.mem ⟨found.params, hfound⟩
    exact hanswered.wellMade (hmade found.route hmem _ _ _ hcomes)
  | @fallback route _ hnone hroute h =>
    obtain ⟨result, hcomes, hanswered⟩ := h
    have hmem : route ∈ table.routes := List.mem_of_find?_eq_some hroute
    exact hanswered.wellMade (hmade route hmem _ _ _ hcomes)
  | nothing _ _ => exact Response.wellMade_page _ 404

/-- Whether an event is not seen outside the application: the router or the server writes
to a log, or a handler is called. -/
def Event.isInner : Event → Bool
  | message _ => true
  | record _ _ => true
  | invoked _ _ => true
  | _ => false

namespace App

/-! ## Nothing is sent before the response is there -/

/-- Events none of which is the sending of a message. -/
def Unsent (events : List Event) : Prop :=
  events.filterMap Event.sent? = []

/-- Events none of which is seen outside. -/
def Inner (events : List Event) : Prop :=
  ∀ event ∈ events, event.isInner = true

theorem Inner.append {first last : List Event} (h : Inner first) (h' : Inner last) :
    Inner (first ++ last) :=
  List.forall_mem_append.mpr ⟨h, h'⟩

theorem Inner.cons {event : Event} {rest : List Event} (h : event.isInner = true)
    (h' : Inner rest) : Inner (event :: rest) :=
  List.forall_mem_cons.mpr ⟨h, h'⟩

theorem inner_nil : Inner [] :=
  fun _ h => (List.not_mem_nil h).elim

/-- What is not seen outside is not sent. -/
theorem Inner.unsent {events : List Event} (h : Inner events) : Unsent events := by
  rw [Unsent, List.filterMap_eq_nil_iff]
  intro event hevent
  have hinner := h event hevent
  cases event with
  | sent message => cases hinner
  | _ => rfl

theorem Unsent.append {first last : List Event} (h : Unsent first) (h' : Unsent last) :
    Unsent (first ++ last) := by
  rw [Unsent, List.filterMap_append, h, h']
  rfl

theorem messages_register (app : App) (routes : Routes) :
    ∃ texts : List String, (app.register routes).events = texts.map .message := by
  unfold App.register App.ofRouter
  dsimp only
  split
  · exact ⟨_, rfl⟩
  · exact ⟨_, rfl⟩

/-- While a script runs, nothing happens but that the router writes messages. -/
theorem messages_runScript (app : App) (script : Script) :
    ∃ texts : List String, (app.runScript script).events = texts.map .message := by
  fun_induction App.runScript app script with
  | case1 app value => exact ⟨[], rfl⟩
  | case2 app failure => exact ⟨[], rfl⟩
  | case3 app rest ih => exact ih
  | case4 app routes rest first failure hfailed => exact messages_register app routes
  | case5 app routes rest first a hregistered last ih =>
    obtain ⟨texts, htexts⟩ := messages_register app routes
    obtain ⟨more, hmore⟩ := ih
    refine ⟨texts ++ more, ?_⟩
    rw [List.map_append, ← htexts, ← hmore]

theorem inner_messages (texts : List String) : Inner (texts.map .message) := by
  intro event hevent
  obtain ⟨text, -, rfl⟩ := List.mem_map.mp hevent
  rfl

theorem inner_runScript (app : App) (script : Script) : Inner (app.runScript script).events := by
  obtain ⟨texts, htexts⟩ := messages_runScript app script
  rw [htexts]
  exact inner_messages texts

theorem inner_failed (app : App) (request : Request) (failure : Failure) :
    Inner (app.failed request failure).events := by
  unfold App.failed answerFailure
  split
  next hanswer =>
    split at hanswer
    · cases hanswer
      exact inner_nil.cons rfl
    · cases hanswer
      exact inner_nil.cons rfl

theorem inner_invoke (app : App) (route : Route Handler) (request : Request)
    (state : RequestState) : Inner (app.invoke route request state).events := by
  have hscript := inner_runScript app (route.handler.respond request state)
  unfold App.invoke
  dsimp only
  split
  · exact (hscript.append inner_nil).cons rfl
  · exact (hscript.append (inner_failed _ _ _)).cons rfl

theorem inner_answer (app : App) (request : Request) (state : RequestState)
    (selected : Router.Selected Handler) : Inner (app.answer request state selected).events := by
  cases selected with
  | matched found => exact inner_invoke app found.route request _
  | fallback route => exact (inner_invoke app route request state).cons rfl
  | nothing => exact inner_nil.cons rfl

/-- Nothing is seen outside of how the response to a request comes about. -/
theorem inner_dispatch (app : App) (request : Request) :
    Inner (app.dispatch request).events := by
  have hselect : Inner (app.select request.path).events := inner_messages _
  unfold App.dispatch
  dsimp only
  split
  · exact hselect.append (inner_failed _ _ _)
  · exact hselect.append (inner_answer _ _ _ _)

/-- The observer, if there is one, is shown the request and the response once, and whatever
it does then is not seen outside. -/
theorem observe_cases (app : App) (request : Request) (response : Response) :
    (app.observer? = none ∧ (app.observe request response).1 = [])
      ∨ ((∃ observer, app.observer? = some observer)
        ∧ ∃ inner, (app.observe request response).1 = .observed request response :: inner
          ∧ Inner inner) := by
  unfold App.observe
  split
  · next hnone => exact Or.inl ⟨hnone, rfl⟩
  · next observer hobserver =>
    refine Or.inr ⟨⟨observer, hobserver⟩, ?_⟩
    split
    · exact ⟨[], rfl, inner_nil⟩
    · next script _ =>
      refine ⟨_, rfl, (inner_runScript app (observer request response)).append ?_⟩
      split
      · exact inner_nil
      · exact inner_nil.cons rfl

theorem unsent_observe (app : App) (request : Request) (response : Response) :
    Unsent (app.observe request response).1 := by
  rcases app.observe_cases request response with ⟨-, hevents⟩ | ⟨-, inner, hevents, hinner⟩
  · rw [hevents]
    exact inner_nil.unsent
  · rw [hevents]
    exact hinner.unsent

/-- Showing the observer an answer calls no handler. -/
theorem uncalled_observe (app : App) (request : Request) (response : Response) :
    (app.observe request response).1.filterMap Event.invoked? = [] := by
  unfold App.observe
  split
  · rfl
  · next observer _ =>
    split
    · rfl
    · next script _ =>
      obtain ⟨texts, htexts⟩ := messages_runScript app (observer request response)
      dsimp only
      rw [htexts, List.filterMap_cons_none rfl, List.filterMap_append, invoked_messages]
      split
      · rfl
      · rfl

/-! ## Requests that are answered -/

/-- The messages that were sent. -/
def Outcome.sent {α : Type} (outcome : Outcome α) : List Message :=
  outcome.events.filterMap Event.sent?

/-- The calls of handlers that were made. -/
def Outcome.calls {α : Type} (outcome : Outcome α) : List (Route Handler × RequestState) :=
  outcome.events.filterMap Event.invoked?

theorem filterMap_sent (messages : List Message) :
    (messages.map Event.sent).filterMap Event.sent? = messages := by
  induction messages with
  | nil => rfl
  | cons message rest ih => exact congrArg (message :: ·) ih

theorem uncalled_sent (messages : List Message) :
    (messages.map Event.sent).filterMap Event.invoked? = [] := by
  induction messages with
  | nil => rfl
  | cons message rest ih => exact ih

/-- No handler is called for a request but those that dispatching it calls. -/
theorem calls_handle (app : App) {scope : Scope} {request : Request}
    (hrequest : Request.ofScope scope = .ok request) :
    (app.handle scope).calls = (app.dispatch request).calls := by
  have hobserve := uncalled_observe (app.dispatch request).app request (app.dispatch request).response
  unfold App.handle Outcome.calls Dispatched.calls
  rw [hrequest]
  dsimp only
  split
  · rw [List.filterMap_append, hobserve, List.append_nil]
  · rw [List.filterMap_append, List.filterMap_append, hobserve, uncalled_sent, List.append_nil,
      List.append_nil]

/-- Nothing but the response's messages is sent for a request that is handled. -/
theorem handle_cases (app : App) {scope : Scope} {request : Request}
    (hrequest : Request.ofScope scope = .ok request) :
    (∃ messages, Message.ofResponse (app.dispatch request).response = .ok messages
        ∧ (app.handle scope).result = .ok () ∧ (app.handle scope).sent = messages)
      ∨ ∃ failure, Message.ofResponse (app.dispatch request).response = .error failure
        ∧ (app.handle scope).result = .error failure ∧ (app.handle scope).sent = [] := by
  have hdispatch := (inner_dispatch app request).unsent
  have hobserve := unsent_observe (app.dispatch request).app request (app.dispatch request).response
  unfold App.handle Outcome.sent
  rw [hrequest]
  dsimp only
  cases hmessages : Message.ofResponse (app.dispatch request).response with
  | ok messages =>
    refine Or.inl ⟨messages, rfl, rfl, ?_⟩
    dsimp only
    rw [List.filterMap_append, hdispatch.append hobserve, filterMap_sent, List.nil_append]
  | error failure => exact Or.inr ⟨failure, rfl, rfl, hdispatch.append hobserve⟩

theorem serve_of_http (app : App) {scope : Scope} (incoming : Incoming)
    (hkind : scope.kind? = some "http") : app.serve scope incoming = app.handle scope := by
  rw [App.serve, hkind]
  rfl

/-- The connection of a request goes out as its response does, whatever the observer does:
with both messages, or with none and a failure. -/
theorem serve_cases (app : App) {scope : Scope} (incoming : Incoming) {request : Request}
    (hkind : scope.kind? = some "http") (hrequest : Request.ofScope scope = .ok request) :
    let response := (app.dispatch request).response
    let served := app.serve scope incoming
    (response.Sendable ∧ served.result = .ok () ∧
        ∃ contentType own body, response.Carries contentType own body
          ∧ served.sent = response.messages contentType own body)
      ∨ (¬ response.Sendable ∧ (∃ failure, served.result = .error failure) ∧ served.sent = []) := by
  intro response served
  have hserved : served = app.handle scope := app.serve_of_http incoming hkind
  rw [hserved]
  rcases app.handle_cases hrequest with
    ⟨messages, hmessages, hresult, hsent⟩ | ⟨failure, hfailed, hresult, hsent⟩
  · obtain ⟨contentType, own, body, hcarries, hshape⟩ := Message.ofResponse_eq_ok_iff.mp hmessages
    exact Or.inl ⟨Response.sendable_iff.mpr ⟨_, _, _, hcarries⟩, hresult,
      contentType, own, body, hcarries, hsent.trans hshape⟩
  · refine Or.inr ⟨fun hsendable => ?_, ⟨failure, hresult⟩, hsent⟩
    obtain ⟨contentType, own, body, hcarries⟩ := Response.sendable_iff.mp hsendable
    have hmessages := Message.ofResponse_eq_ok_iff.mpr ⟨contentType, own, body, hcarries, rfl⟩
    cases hfailed.symm.trans hmessages

/-! ## Handlers whose answers can be sent -/

/-- What answers a request, by the table in force. -/
theorem dispatch_answers {app : App} (hreached : app.router.Reached)
    (hhook : app.router.hook = LogHook.listening) (request : Request) :
    Answers app.router.snapshot.table app.isDebugged request
      (app.dispatch request).calls (app.dispatch request).response := by
  obtain ⟨hcalls, hresponse⟩ := dispatch_eq hreached hhook request
  rw [hcalls, hresponse]
  have hselecting : (app.select request.path).app.router.hook = LogHook.listening := hhook
  exact answers_answer hselecting fun found hfound => hreached.distinct hfound

theorem ofScope_of_path {scope : Scope} {path : String} (hpath : scope.path? = some path) :
    ∃ request, Request.ofScope scope = .ok request := by
  rw [Request.ofScope, hpath]
  exact ⟨_, rfl⟩

/-- If all that the handlers of the table in force return or raise is well made, every
request is answered completely. -/
theorem answered_of_wellMade {app : App} (hreached : app.router.Reached)
    (hhook : app.router.hook = LogHook.listening)
    (hmade : ∀ route ∈ app.router.routes, route.handler.WellMade) (scope : Scope)
    (incoming : Incoming) {path : String} (hkind : scope.kind? = some "http")
    (hpath : scope.path? = some path) :
    (app.serve scope incoming).result = .ok ()
      ∧ ∃ status headers body, (app.serve scope incoming).sent
        = [.responseStart status headers, .responseBody body] := by
  obtain ⟨request, hrequest⟩ := ofScope_of_path hpath
  have hresponse : (app.dispatch request).response.WellMade :=
    (dispatch_answers hreached hhook request).wellMade hmade
  rcases app.serve_cases incoming hkind hrequest with ⟨-, hresult, hsent⟩ | ⟨hcannot, -⟩
  · obtain ⟨contentType, own, body, -, hsent⟩ := hsent
    exact ⟨hresult, _, _, _, hsent⟩
  · exact absurd hresponse.sendable hcannot

/-! ## Any request -/

theorem teapot_reached : teapot.router.Reached :=
  ⟨[.begin (.register [("/tea/:id", .handler teapotRoute.handler)]), .step 0], by rfl⟩

end App

end WebRouter
