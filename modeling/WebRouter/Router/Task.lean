import WebRouter.Config
import WebRouter.Process
import WebRouter.Router.Memory

/-!
# Calls on a router, one atomic step at a time

Any number of calls may be under way on one router. A `Task` is a call between
two of its steps, and `Task.step` takes the next one. Every step reads the
memory, sets it, swaps it or leaves it alone, so any order in which the steps of
several calls can follow one another is a run of the calls side by side. Between
two steps a call may also write a message to the log, which is where a log hook
gets to act.

A match that had to scan the table adds what it found to the cache by reading,
computing and swapping until the swap succeeds, and gives up once it sees another
table than the one it scanned: a route of an old table never gets into the cache
of a new one.
-/

namespace WebRouter.Router

variable {η : Type}

/-- What a call gives back. -/
inductive Answer (η : Type) where
  | done
  | found (m : Option (RouteMatch η))

/-- The match that a call gives back, if that is what it was for. -/
def Answer.match? : Answer η → Option (RouteMatch η)
  | done => none
  | found m => m

/-- A cache entry on its way into the memory. -/
structure Write (η : Type) where
  /-- the stamp of the table that the route was found in -/
  table : Nat
  path : String
  route : Route η
  /-- the snapshot read last -/
  seen : Stamped (Snapshot η)
  /-- what the call gives back once the entry is written or given up -/
  answer : Answer η

/-- A call between two steps. -/
inductive Task (η : Type) where
  /-- registration, before the table is compiled and installed -/
  | register (routes : List (String × Registrand η))
  /-- registration, after its message -/
  | registered
  /-- clearing the cache, before the memory is read -/
  | clear
  /-- clearing the cache, before the swap -/
  | swapCleared (seen : Stamped (Snapshot η))
  /-- matching, before the memory is read -/
  | find (path : String)
  /-- writing an entry, with a snapshot just read -/
  | offer (w : Write η)
  /-- writing an entry, before the swap -/
  | swap (w : Write η)
  /-- writing an entry, after a swap that failed -/
  | reread (w : Write η)

/-- The message about a new table. -/
def replacedMessage (count : Nat) : String :=
  s!"route table replaced: {count} routes"

/-- The message about a cache that is about to be cleared because it is full. -/
def fullMessage (count : Nat) : String :=
  s!"match cache full ({count} entries), clearing"

/-- What becomes of an entry, given the snapshot read last. -/
def Write.consider (w : Write η) (limit : Nat) : Progress (Task η) (Answer η) :=
  if w.seen.value.table.stamp ≠ w.table then .finish (.ok w.answer)
  else if w.seen.value.cache.wouldClear w.path limit then
    .log (fullMessage w.seen.value.cache.size) (.swap w)
  else .run (.swap w)

/-- The next step of a call. -/
def Task.step (limit : Nat) (m : Memory η) : Task η → Progress (Task η) (Answer η) × Memory η
  | register routes =>
    match Route.compileAll m.fresh (Ordered.ofList routes) with
    | .error e => (.finish (.error (.registration e)), m)
    | .ok compiled => (.log (replacedMessage compiled.length) .registered, m.install compiled)
  | registered => (.finish (.ok .done), m)
  | clear => (.run (.swapCleared m.read), m)
  | swapCleared seen =>
    match m.swap seen seen.value.withoutCache with
    | (true, m) => (.finish (.ok .done), m)
    | (false, m) => (.run .clear, m)
  | find path =>
    match m.snapshot.lookup path with
    | .cached found => (.finish (.ok (.found (some found))), m)
    | .nothing => (.finish (.ok (.found none)), m)
    | .scanned found =>
      (.run (.offer ⟨m.snapshot.table.stamp, path, found.route, m.read, .found (some found)⟩), m)
  | offer w => (w.consider limit, m)
  | swap w =>
    match m.swap w.seen (w.seen.value.withEntry w.path w.route limit) with
    | (true, m) => (.finish (.ok w.answer), m)
    | (false, m) => (.run (.reread w), m)
  | reread w => (.run (.offer { w with seen := m.read }), m)

/-- The call that adds an entry for a route of a snapshot read earlier. -/
def Task.remember (seen : Stamped (Snapshot η)) (path : String) (route : Route η) : Task η :=
  .offer ⟨seen.value.table.stamp, path, route, seen, .done⟩

/-- How calls on a router with the given limit take their steps. -/
def stepper (limit : CacheLimit) : Stepper (Memory η) (Task η) (Answer η) :=
  fun t m => t.step limit.val m

end WebRouter.Router
