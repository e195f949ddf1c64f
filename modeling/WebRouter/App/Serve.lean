import WebRouter.App.Dispatch

/-!
# Serving

A server calls the application once for every connection. A connection that
carries a request is answered by two messages. The connection that stands for
the server's own life carries the news of its start and its end, and each is
answered once the hooks for it have run. Connections of other kinds are left
alone.
-/

namespace WebRouter.App

/-- Shows the observer a request and its answer. What it returns does not matter
and nobody waits for it; if it fails, that goes on record. -/
def observe (app : App) (request : Request) (response : Response) : List Event × App :=
  match app.observer? with
  | none => ([], app)
  | some observer =>
    match observer request response with
    | .pause _ => ([.observed request response], app)
    | script =>
      let outcome := app.runScript script
      let records : List Event :=
        match outcome.result with
        | .ok _ => []
        | .error _ => [.record .error s!"on_request hook failed for {requestLine request}"]
      (.observed request response :: (outcome.events ++ records), outcome.app)

/-- Answers the request that a connection carries. -/
def handle (app : App) (scope : Scope) : Outcome Unit :=
  match Request.ofScope scope with
  | .error failure => ⟨.error failure, [], app⟩
  | .ok request =>
    let answer := app.dispatch request
    let (events, app) := answer.app.observe request answer.response
    match Message.ofResponse answer.response with
    | .error failure => ⟨.error failure, answer.events ++ events, app⟩
    | .ok messages => ⟨.ok (), answer.events ++ events ++ messages.map .sent, app⟩

/-- Runs hooks one after the other, up to the first that fails. -/
def runHooks (app : App) : List LifespanHook → Outcome Unit
  | [] => ⟨.ok (), [], app⟩
  | hook :: rest =>
    let first := app.runScript hook.script
    let events := .ran hook.name :: first.events
    match first.result with
    | .error failure => ⟨.error failure, events, first.app⟩
    | .ok _ =>
      let last := first.app.runHooks rest
      { last with events := events ++ last.events }

/-- The messages of a connection, as they come in, and how waiting for one more
than there are ends. -/
structure Incoming where
  messages : List String := []
  closed : Failure

/-- Attends to the server's life until it ends or fails to start. A hook that
fails at the start is reported; one that fails at the end breaks off the
connection. -/
def live (app : App) (closed : Failure) : List String → Outcome Unit
  | [] => ⟨.error closed, [], app⟩
  | kind :: rest =>
    if kind = "lifespan.startup" then
      let hooks := app.runHooks app.startup
      let events := .received kind :: hooks.events
      match hooks.result with
      | .error failure =>
        ⟨.ok (), events ++ [.sent (.startupFailed failure.message)], hooks.app⟩
      | .ok _ =>
        let last := hooks.app.live closed rest
        { last with events := events ++ .sent .startupComplete :: last.events }
    else if kind = "lifespan.shutdown" then
      let hooks := app.runHooks app.shutdown
      let events := .received kind :: hooks.events
      match hooks.result with
      | .error failure => ⟨.error failure, events, hooks.app⟩
      | .ok _ => ⟨.ok (), events ++ [.sent .shutdownComplete], hooks.app⟩
    else
      let last := app.live closed rest
      { last with events := .received kind :: last.events }

/-- Serves one connection. -/
def serve (app : App) (scope : Scope) (incoming : Incoming) : Outcome Unit :=
  match scope.kind? with
  | none => ⟨.error (.missingKey "type"), [], app⟩
  | some "lifespan" => app.live incoming.closed incoming.messages
  | some "http" => app.handle scope
  | some _ => ⟨.ok (), [], app⟩

end WebRouter.App
