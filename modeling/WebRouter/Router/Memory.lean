import WebRouter.AtomicCell
import WebRouter.MatchCache

/-!
# What a router remembers

A router's table and its match cache lie together in one immutable `Snapshot`,
and the snapshot lies in an atomic cell, so that whoever reads the cell sees a
table and a cache that belong together. A new table comes with an empty cache.

Tables and snapshots are told apart by stamps, which `Memory` hands out in
increasing order and never twice.
-/

namespace WebRouter.Router

variable {η : Type}

/-- What answers a path: a route that matches it, or else the route that answers
where nothing else does, if there is one. -/
inductive Selected (η : Type) where
  | matched (m : RouteMatch η)
  | fallback (route : Route η)
  | nothing

/-- What answers a path, given the match that was found and the fallback. -/
def Selected.of (found? : Option (RouteMatch η)) (fallback? : Option (Route η)) : Selected η :=
  match found?, fallback? with
  | some found, _ => matched found
  | none, some route => fallback route
  | none, none => nothing

/-- A route table: the routes in the order of their registration, under the stamp
that tells this table from every other. -/
structure Table (η : Type) where
  stamp : Nat
  routes : List (Route η)

namespace Table

/-- The template of the route that answers where nothing else does. -/
def fallbackKey : String := "404"

/-- The route registered under a template. -/
def route? (table : Table η) (template : String) : Option (Route η) :=
  table.routes.find? (·.template == template)

/-- The route that answers where nothing else does. -/
def fallback? (table : Table η) : Option (Route η) :=
  table.route? fallbackKey

/-- The parameters with which a route matches a path; the fallback matches none. -/
def matches? (route : Route η) (path : String) : Option (RouteMatch η) :=
  if route.template = fallbackKey then none
  else (route.bind? path).map (⟨route, ·⟩)

/-- The first route that matches a path. -/
def scan? (table : Table η) (path : String) : Option (RouteMatch η) :=
  table.routes.findSome? (matches? · path)

/-- What answers a path if this table alone decides. -/
def select (table : Table η) (path : String) : Selected η :=
  .of (table.scan? path) table.fallback?

end Table

/-- A table and the cache that goes with it. -/
structure Snapshot (η : Type) where
  table : Table η
  cache : MatchCache η

/-- What a snapshot has to offer for a path. -/
inductive Lookup (η : Type) where
  /-- the cached route and the parameters bound from it -/
  | cached (m : RouteMatch η)
  /-- the outcome of a scan of the table -/
  | scanned (m : RouteMatch η)
  | nothing

namespace Snapshot

/-- Looks a path up, first in the cache and then in the table. -/
def lookup (s : Snapshot η) (path : String) : Lookup η :=
  let scan :=
    match s.table.scan? path with
    | some m => Lookup.scanned m
    | none => .nothing
  match s.cache.find? path with
  | none => scan
  | some route =>
    match route.bind? path with
    | some params => .cached ⟨route, params⟩
    | none => scan

/-- The snapshot with nothing cached. -/
def withoutCache (s : Snapshot η) : Snapshot η :=
  { s with cache := {} }

/-- The snapshot with one more path cached. -/
def withEntry (s : Snapshot η) (path : String) (route : Route η) (limit : Nat) : Snapshot η :=
  { s with cache := s.cache.withEntry path route limit }

/-- How a snapshot's router is shown. -/
def describe (s : Snapshot η) : String :=
  s!"Router({s.table.routes.length} routes, {s.cache.size} cached)"

end Snapshot

/-- The memory that all calls on a router share. -/
structure Memory (η : Type) where
  cell : AtomicCell (Snapshot η)
  /-- the least stamp not handed out yet -/
  fresh : Nat

namespace Memory

/-- The memory of a new router: an empty table and nothing cached. -/
def initial : Memory η :=
  ⟨⟨⟨0, ⟨⟨0, []⟩, {}⟩⟩⟩, 1⟩

instance : Inhabited (Memory η) := ⟨initial⟩

/-- The snapshot in the cell, with its stamp. -/
def read (m : Memory η) : Stamped (Snapshot η) :=
  m.cell.get

/-- The snapshot in the cell. -/
def snapshot (m : Memory η) : Snapshot η :=
  m.read.value

/-- Puts a new table into the cell, with nothing cached. -/
def install (m : Memory η) (routes : List (Route η)) : Memory η :=
  ⟨m.cell.set ⟨m.fresh, ⟨⟨m.fresh, routes⟩, {}⟩⟩, m.fresh + 1⟩

/-- Replaces the snapshot if it is still the one that was seen. -/
def swap (m : Memory η) (seen : Stamped (Snapshot η)) (new : Snapshot η) : Bool × Memory η :=
  let (swapped, cell) := m.cell.compareAndSet seen ⟨m.fresh, new⟩
  (swapped, ⟨cell, m.fresh + 1⟩)

end Memory

end WebRouter.Router
