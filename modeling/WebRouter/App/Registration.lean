import WebRouter.App

/-!
# Registering routes, one atomic step at a time

An application keeps the routes it was given twice: compiled in its router, and
as they were registered, to add to them. `Registration` is a call that changes
both, between two of its steps, in the form that `Machine` runs. A log hook that
registers routes of its own while it is told of a registration thus finds the
router's table replaced already and the other copy not yet.
-/

namespace WebRouter.App

/-- What the calls that register routes share. -/
structure Tables where
  memory : Router.Memory Handler := .initial
  registry : Routes := []

/-- A call on the tables between two steps. -/
inductive Registration where
  /-- replacing all routes -/
  | register (routes : Routes)
  /-- adding a route to those registered last -/
  | addRoute (template : String) (registrand : Registrand Handler)
  /-- the router's part of a registration -/
  | installing (t : Router.Task Handler) (routes : Routes)
  /-- taking down the routes that the router has accepted -/
  | recording (routes : Routes)
  /-- any other call on the router -/
  | routing (t : Router.Task Handler)

/-- The next step of a call on the tables. -/
def Registration.step (limit : CacheLimit) :
    Stepper Tables Registration (Router.Answer Handler)
  | .register routes, tables => (.run (.installing (.register routes) routes), tables)
  | .addRoute template registrand, tables =>
    let routes := Ordered.put template registrand tables.registry
    (.run (.installing (.register routes) routes), tables)
  | .installing t routes, tables =>
    let (progress, memory) := t.step limit.val tables.memory
    let progress :=
      match progress with
      | .run u => .run (.installing u routes)
      | .log message u => .log message (.installing u routes)
      | .finish (.ok _) => .run (.recording routes)
      | .finish (.error failure) => .finish (.error failure)
    (progress, { tables with memory })
  | .recording routes, tables =>
    (.finish (.ok .done), { tables with registry := Ordered.ofList routes })
  | .routing t, tables =>
    let (progress, memory) := t.step limit.val tables.memory
    let progress :=
      match progress with
      | .run u => .run (.routing u)
      | .log message u => .log message (.routing u)
      | .finish result => .finish result
    (progress, { tables with memory })

end WebRouter.App
