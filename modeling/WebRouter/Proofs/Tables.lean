import WebRouter.Proofs.Compiling
import WebRouter.Router.Memory

/-!
# Tables: what a path resolves to, and which routes are the same

A path resolves to the first route of a table, in the order of registration, that
is not the fallback and accepts it, with the parameters the route binds; it
resolves to nothing if there is no such route. `Table.Resolves` says this of a
table and a path without scanning anything, and `Table.scan?_eq_iff` says that a
scan finds exactly what a path resolves to. The cache remembers routes and not
parameters, so what is said of an entry is `Table.Wins`: the route is what the
path resolves to.

`Table.Stamped` is what makes a route of a table one object: every route carries
the stamp of its table, and no two have the same template. Compiling a table
gives such routes (`Route.stamped_of_compileAll`).
-/

namespace WebRouter

variable {η : Type}

namespace Router

/-- A route that does not answer a path: the fallback, or one that does not
accept it. -/
def Passes (path : String) (route : Route η) : Prop :=
  route.template = Table.fallbackKey ∨ route.bind? path = none

/-- What a path resolves to in a table. -/
def Table.Resolves (table : Table η) (path : String) : Option (RouteMatch η) → Prop
  | none => ∀ route ∈ table.routes, Passes path route
  | some found =>
    ∃ before after, table.routes = before ++ found.route :: after
      ∧ (∀ route ∈ before, Passes path route)
      ∧ found.route.template ≠ Table.fallbackKey
      ∧ found.route.bind? path = some found.params

/-- The route is the one that a path resolves to. -/
def Table.Wins (table : Table η) (path : String) (route : Route η) : Prop :=
  ∃ params, table.Resolves path (some ⟨route, params⟩)

/-! ## A scan finds what a path resolves to -/

theorem Table.matches?_eq_none {route : Route η} {path : String} :
    Table.matches? route path = none ↔ Passes path route := by
  unfold Table.matches? Passes
  split
  · next h => exact iff_of_true rfl (Or.inl h)
  · next h =>
    rw [Option.map_eq_none_iff]
    exact ⟨Or.inr, fun hp => hp.resolve_left h⟩

theorem Table.matches?_eq_some {route : Route η} {path : String} {found : RouteMatch η} :
    Table.matches? route path = some found ↔
      found.route = route ∧ route.template ≠ Table.fallbackKey
        ∧ route.bind? path = some found.params := by
  unfold Table.matches?
  split
  · next h =>
    constructor
    · intro e; cases e
    · rintro ⟨-, hne, -⟩; exact absurd h hne
  · next h =>
    rw [Option.map_eq_some_iff]
    constructor
    · rintro ⟨params, hb, rfl⟩; exact ⟨rfl, h, hb⟩
    · rintro ⟨rfl, -, hb⟩; exact ⟨found.params, hb, rfl⟩

/-- A scan finds exactly what a path resolves to. -/
theorem Table.scan?_eq_iff {table : Table η} {path : String} {found? : Option (RouteMatch η)} :
    table.scan? path = found? ↔ table.Resolves path found? := by
  cases found? with
  | none =>
    unfold Table.scan? Table.Resolves
    rw [List.findSome?_eq_none_iff]
    exact forall₂_congr fun _ _ => Table.matches?_eq_none
  | some found =>
    unfold Table.scan? Table.Resolves
    rw [List.findSome?_eq_some_iff]
    constructor
    · rintro ⟨before, route, after, hr, hm, hbefore⟩
      obtain ⟨rfl, hkey, hb⟩ := Table.matches?_eq_some.mp hm
      exact ⟨before, after, hr, fun r h => Table.matches?_eq_none.mp (hbefore r h), hkey, hb⟩
    · rintro ⟨before, after, hr, hbefore, hkey, hb⟩
      exact ⟨before, found.route, after, hr, Table.matches?_eq_some.mpr ⟨rfl, hkey, hb⟩,
        fun r h => Table.matches?_eq_none.mpr (hbefore r h)⟩

theorem Table.Resolves.unique {table : Table η} {path : String}
    {found? found?' : Option (RouteMatch η)} (h : table.Resolves path found?)
    (h' : table.Resolves path found?') : found? = found?' :=
  (Table.scan?_eq_iff.mpr h).symm.trans (Table.scan?_eq_iff.mpr h')

theorem Table.wins_of_scan? {table : Table η} {path : String} {found : RouteMatch η}
    (h : table.scan? path = some found) : table.Wins path found.route :=
  ⟨found.params, Table.scan?_eq_iff.mp h⟩

/-- The route that wins binds the path, and a scan finds it with those parameters. -/
theorem Table.Wins.scan? {table : Table η} {path : String} {route : Route η}
    (h : table.Wins path route) :
    ∃ params, route.bind? path = some params ∧ table.scan? path = some ⟨route, params⟩ := by
  obtain ⟨params, hr⟩ := h
  have hscan := Table.scan?_eq_iff.mpr hr
  obtain ⟨_, _, _, _, _, hb⟩ := hr
  exact ⟨params, hb, hscan⟩

theorem Table.Wins.mem {table : Table η} {path : String} {route : Route η}
    (h : table.Wins path route) : route ∈ table.routes := by
  obtain ⟨_, before, after, hr, _⟩ := h
  rw [hr]
  exact List.mem_append_right _ List.mem_cons_self

/-! ## Routes as objects -/

/-- The routes of a table belong to it, and their templates tell them apart. -/
structure Table.Stamped (table : Table η) : Prop where
  owned : ∀ route ∈ table.routes, route.table = table.stamp
  distinct : (table.routes.map Route.template).Nodup

end Router

/-! ## What compiling gives -/

/-- The routes compiled for a mapping are told apart by stamp and template. -/
theorem Route.stamped_of_compileAll {stamp : Nat} {entries : List (String × Registrand η)}
    {routes : List (Route η)} (h : Route.compileAll stamp (Ordered.ofList entries) = .ok routes) :
    (Router.Table.mk stamp routes).Stamped := by
  obtain ⟨hentries, hcompiled⟩ := Route.compileAll_eq_ok_iff.mp h
  refine ⟨fun route hroute => (hcompiled route hroute).table, ?_⟩
  have htemplates : routes.map Route.template = (Ordered.ofList entries).map Prod.fst := by
    rw [← hentries, List.map_map]
    rfl
  show (routes.map Route.template).Nodup
  rw [htemplates]
  exact Ordered.nodup_keys_ofList entries

end WebRouter
