import WebRouter.Http.State
import WebRouter.Route

/-!
# Handlers

A handler is given a request and its state and answers with a `Script`: what it
does, up to the value it returns or the failure it raises. A script may pause
before it goes on, and it may replace the routes of the application it runs in.
Hooks of an application are scripts as well.
-/

namespace WebRouter

mutual

/-- What a handler or a hook does. -/
inductive Script where
  | done (value : Value)
  | fail (failure : Failure)
  /-- goes on later; whoever called it waits -/
  | pause (rest : Script)
  /-- replaces the routes of the application, then goes on -/
  | register (routes : List (String × Registrand Handler)) (rest : Script)

/-- A handler: what a listing calls it, and what it does with a request. -/
inductive Handler where
  | mk (name : String) (respond : Request → RequestState → Script)

end

namespace Handler

/-- What a listing calls the handler. -/
def name : Handler → String
  | mk name _ => name

/-- What the handler does with a request. -/
def respond : Handler → Request → RequestState → Script
  | mk _ respond => respond

end Handler

/-- A script that ends at once. -/
def Script.ofExcept : Except Failure Value → Script
  | .ok value => .done value
  | .error failure => .fail failure

/-- A script as it runs where there is no application: nothing can be registered. -/
def Script.withoutApp : Script → Script
  | .register _ _ => .fail (.missingMember "NoneType" "set_routes")
  | .pause rest => .pause rest.withoutApp
  | script => script

/-- A registrand as it is where there is no application. -/
def Registrand.withoutApp : Registrand Handler → Registrand Handler
  | .handler h => .handler (.mk h.name fun request state => (h.respond request state).withoutApp)
  | registrand => registrand

/-- Routes as they are registered, handlers by their templates. -/
abbrev Routes := List (String × Registrand Handler)

end WebRouter
