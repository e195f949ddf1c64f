import WebRouter.App.Event
import WebRouter.Config
import WebRouter.Router

/-!
# Applications

An application joins a router with what else serving takes: its settings, an
observer that is shown every answer, and hooks for the start and the end of the
server's life. It keeps the routes as they were registered last, since adding one
route means registering all of them again with the new one.
-/

namespace WebRouter

/-- A hook that runs when the server starts or stops. -/
structure LifespanHook where
  name : String
  script : Script

/-- An application. -/
structure App where
  config : Config := {}
  router : Router Handler := {}
  /-- the routes as registered last, to which another one is added -/
  registry : Routes := []
  /-- what is shown every answer before it is sent -/
  observer? : Option (Request → Response → Script) := none
  startup : List LifespanHook := []
  shutdown : List LifespanHook := []

namespace App

/-- What a call on an application came to: its result, what happened in it, and
the application after it. -/
structure Outcome (α : Type) where
  result : Except Failure α
  events : List Event
  app : App

/-- The router's part of a call, as a call on the application. -/
def ofRouter {α : Type} (app : App) (called : Router.Called Handler α) : Outcome α :=
  { result := called.result
    events := called.messages.map .message
    app := { app with router := called.router } }

/-- Replaces all routes. -/
def register (app : App) (routes : Routes) : Outcome Unit :=
  let outcome := app.ofRouter (app.router.register routes)
  match outcome.result with
  | .ok _ => { outcome with app := { outcome.app with registry := Ordered.ofList routes } }
  | .error _ => outcome

/-- Adds one route to those registered last, in the place of one with the same
template if there is one. -/
def addRoute (app : App) (template : String) (registrand : Registrand Handler) : Outcome Unit :=
  app.register (Ordered.put template registrand app.registry)

/-- Resolves a path to a route and its parameters. -/
def find (app : App) (path : String) : Outcome (Option (RouteMatch Handler)) :=
  app.ofRouter (app.router.find path)

/-- Finds out what answers a path: a match, or else the fallback. -/
def select (app : App) (path : String) : Outcome (Router.Selected Handler) :=
  app.ofRouter (app.router.select path)

/-- Drops every cached path. -/
def clearCache (app : App) : Outcome Unit :=
  app.ofRouter app.router.clear

/-- An application with the given settings, log hook and observer, and routes if
any are given. -/
def create (config : Config) (routes? : Option Routes) (hook : LogHook)
    (observer? : Option (Request → Response → Script)) : Outcome Unit :=
  let app : App := { config, router := { limit := config.cacheLimit, hook }, observer? }
  match routes? with
  | none => ⟨.ok (), [], app⟩
  | some routes => app.register routes

/-- The application with one more hook for the start. -/
def onStartup (app : App) (hook : LifespanHook) : App :=
  { app with startup := app.startup ++ [hook] }

/-- The application with one more hook for the end. -/
def onShutdown (app : App) (hook : LifespanHook) : App :=
  { app with shutdown := app.shutdown ++ [hook] }

/-- What a script does to the application it runs in. -/
def runScript (app : App) : Script → Outcome Value
  | .done value => ⟨.ok value, [], app⟩
  | .fail failure => ⟨.error failure, [], app⟩
  | .pause rest => app.runScript rest
  | .register routes rest =>
    let first := app.register routes
    match first.result with
    | .error failure => ⟨.error failure, first.events, first.app⟩
    | .ok _ =>
      let last := first.app.runScript rest
      { last with events := first.events ++ last.events }

end App

/-- What a server is told about the application it is to serve. -/
structure ServerSettings where
  host : Value
  port : Value
  workers : Nat := 1
  reload : Value
  logLevel : Value

/-- The settings of a server for the application; a host or a port that is given
goes before the configured one. -/
def App.serverSettings (app : App) (host port : Value) : ServerSettings :=
  { host := host.orElse app.config.host
    port := port.orElse app.config.port
    reload := app.config.debug
    logLevel := app.config.logLevel }

end WebRouter
