import WebRouter.Router.Run

/-!
# Routers

A router resolves paths to routes. It is made for a cache limit and a log hook,
and every call on it takes it to its next state. This is the router as one
caller sees it; `WebRouter.Router.Task` has the calls step by step.
-/

namespace WebRouter

/-- A router: the limit of its cache, its log hook, what it remembers, and the
messages it has written so far. -/
structure Router (η : Type) where
  limit : CacheLimit := CacheLimit.default
  hook : LogHook := LogHook.listening
  memory : Router.Memory η := .initial
  told : List String := []

namespace Router

variable {η : Type}

/-- What a call on a router came to: its result, the messages it wrote, and the
router after it. -/
structure Called (η α : Type) where
  result : Except Failure α
  messages : List String
  router : Router η

/-- A router with the limit that a value sets. -/
def ofLimit (limit : Value) (hook : LogHook) : Except Failure (Router η) :=
  (CacheLimit.ofValue limit).map ({ limit := ·, hook })

/-- The table and the cache in force. -/
def snapshot (router : Router η) : Snapshot η :=
  router.memory.snapshot

/-- The routes in force. -/
def routes (router : Router η) : List (Route η) :=
  router.snapshot.table.routes

/-- The route that answers where nothing else does. -/
def fallback? (router : Router η) : Option (Route η) :=
  router.snapshot.table.fallback?

/-- Takes a call to its end and reads its result. -/
def call {α : Type} (router : Router η) (t : Task η) (read : Answer η → α) : Called η α :=
  let outcome := t.run router.limit.val router.hook router.told router.memory
  { result := outcome.result.map read
    messages := outcome.messages
    router := { router with
      memory := outcome.memory
      told := router.told ++ outcome.messages } }

/-- Replaces the whole table. -/
def register (router : Router η) (routes : List (String × Registrand η)) : Called η Unit :=
  router.call (.register routes) fun _ => ()

/-- Drops every cached path. -/
def clear (router : Router η) : Called η Unit :=
  router.call .clear fun _ => ()

/-- Resolves a path to a route and its parameters. -/
def find (router : Router η) (path : String) : Called η (Option (RouteMatch η)) :=
  router.call (.find path) Answer.match?

/-- Finds out what answers a path: a match, or else the fallback. -/
def select (router : Router η) (path : String) : Called η (Selected η) :=
  let called := router.find path
  { called with result := called.result.map fun found? => .of found? called.router.fallback? }

/-- How a router is shown. -/
def describe (router : Router η) : String :=
  router.snapshot.describe

end Router

end WebRouter
