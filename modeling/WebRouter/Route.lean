import WebRouter.Failure

/-!
# Routes

A route joins a template, taken apart for matching, with whatever answers the
requests it matches. What answers is left open (`η`): a route only hands it out.
A `Registrand` is what a caller registers, which need not be callable.

Routes are compiled a table at a time. A route carries the stamp of the table it
was compiled for, and within a table no two routes have the same template, so
stamp and template together tell any two routes apart.
-/

namespace WebRouter

/-- What is registered under a template. -/
inductive Registrand (η : Type) where
  | handler (h : η)
  /-- something that cannot be called; `kind` is what it is -/
  | inert (kind : String)

/-- A compiled route. -/
structure Route (η : Type) where
  template : String
  pattern : List Segment
  handler : η
  /-- the stamp of the table that the route belongs to -/
  table : Nat

namespace Route

variable {η : Type}

/-- The names of the parameters, in the order of the template. -/
def paramNames (route : Route η) : List String :=
  Template.paramNames route.pattern

/-- The parameters of a path that the route accepts. -/
def bind? (route : Route η) (path : String) : Option (List (String × String)) :=
  Template.bind? route.pattern path

/-- Compiles one route. That something cannot be called counts before anything
that is wrong with the template. -/
def compile (table : Nat) (template : String) :
    Registrand η → Except RegistrationError (Route η)
  | .inert kind => .error ⟨template, .notCallable kind⟩
  | .handler h =>
    match Template.pattern? template with
    | .error defect => .error ⟨template, .template defect⟩
    | .ok pattern => .ok ⟨template, pattern, h, table⟩

/-- Compiles a whole table, or reports the first route at fault. -/
def compileAll (table : Nat) :
    List (String × Registrand η) → Except RegistrationError (List (Route η))
  | [] => .ok []
  | (template, registrand) :: rest => do
    return (← compile table template registrand) :: (← compileAll table rest)

end Route

/-- A route that a path was found to match, with the path's parameters. -/
structure RouteMatch (η : Type) where
  route : Route η
  params : List (String × String)

end WebRouter
