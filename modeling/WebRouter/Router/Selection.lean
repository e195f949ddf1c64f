import WebRouter.Router.Task

/-!
# What answers a request, one atomic step at a time

Finding out what answers a path is a match and, where nothing was found, a second
reading of the memory for the fallback. Between the two another call may install
another table. `Selection` is this search between two of its steps; a table
alone decides by `Table.select`.
-/

namespace WebRouter.Router

variable {η : Type}

/-- The search for what answers a path, between two steps. -/
inductive Selection (η : Type) where
  /-- matching -/
  | finding (t : Task η)
  /-- nothing was found, and the memory is not yet read for the fallback -/
  | fallingBack

namespace Selection

/-- The search for what answers a path, before its first step. -/
def start (path : String) : Selection η :=
  .finding (.find path)

/-- How the search goes on after the match has come to an answer. -/
def afterFind (answer : Answer η) : Progress (Selection η) (Selected η) :=
  match answer.match? with
  | some found => .finish (.ok (.matched found))
  | none => .run .fallingBack

/-- The next step of the search. -/
def step (limit : CacheLimit) : Stepper (Memory η) (Selection η) (Selected η)
  | .finding t, m =>
    let (progress, m) := t.step limit.val m
    let progress :=
      match progress with
      | .run u => .run (.finding u)
      | .log message u => .log message (.finding u)
      | .finish (.ok answer) => afterFind answer
      | .finish (.error failure) => .finish (.error failure)
    (progress, m)
  | .fallingBack, m => (.finish (.ok (.of none m.snapshot.table.fallback?)), m)

end Selection

end WebRouter.Router
