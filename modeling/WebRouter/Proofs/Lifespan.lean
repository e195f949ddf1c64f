import WebRouter.Proofs.Serving

/-!
# The server's own life

A server tells an application of its start and of its end, by as many messages as it
likes, and waits for the answer to each. `Attended` says what a connection of this kind
comes to, message by message: which hooks run, in which order, and what is sent before
the next message is taken.

> `App.attended_serve`: news of the start are always answered by exactly one message,
> and so are news of the end if all hooks for it return; a hook that fails then breaks
> off the connection, and its message is left without an answer.

The two halves are written differently in `App.live`. A failure at the start becomes
the answer, while one at the end gets out (`App.not_always_acknowledged`).
-/

namespace WebRouter

/-- What is seen of hooks that run. -/
def LifespanHook.runs (hooks : List LifespanHook) : List Event :=
  hooks.map fun hook => .ran hook.name

namespace App

/-- Hooks run in an application, one after the other, and all of them return. -/
inductive Return : App → List LifespanHook → App → Prop
  | none (app : App) : Return app [] app
  | next {app last : App} {hook : LifespanHook} {rest : List LifespanHook} {value : Value}
      (h : (app.runScript hook.script).result = .ok value)
      (hrest : Return (app.runScript hook.script).app rest last) :
      Return app (hook :: rest) last

/-- Of the hooks that run in an application, one after the other, those before `hook`
return and `hook` fails. -/
structure FailAt (app : App) (hooks before : List LifespanHook) (hook : LifespanHook)
    (failure : Failure) : Prop where
  place : ∃ after, hooks = before ++ hook :: after
  fails : ∃ between, app.Return before between
    ∧ (between.runScript hook.script).result = .error failure

theorem FailAt.first {app : App} {hook : LifespanHook} {rest : List LifespanHook}
    {failure : Failure} (h : (app.runScript hook.script).result = .error failure) :
    app.FailAt (hook :: rest) [] hook failure :=
  ⟨⟨rest, rfl⟩, app, .none app, h⟩

theorem FailAt.later {app : App} {first hook : LifespanHook} {rest before : List LifespanHook}
    {failure : Failure} {value : Value} (h : (app.runScript first.script).result = .ok value)
    (hrest : (app.runScript first.script).app.FailAt rest before hook failure) :
    app.FailAt (first :: rest) (first :: before) hook failure := by
  obtain ⟨⟨after, hafter⟩, between, hbetween, hfails⟩ := hrest
  exact ⟨⟨after, congrArg (first :: ·) hafter⟩, between, .next h hbetween, hfails⟩

/-- A script leaves the hooks of the application as they are. -/
theorem hooks_runScript (app : App) (script : Script) :
    (app.runScript script).app.startup = app.startup
      ∧ (app.runScript script).app.shutdown = app.shutdown := by
  have hregister : ∀ (app : App) (routes : Routes),
      (app.register routes).app.startup = app.startup
        ∧ (app.register routes).app.shutdown = app.shutdown := by
    intro app routes
    unfold App.register App.ofRouter
    dsimp only
    split
    · exact ⟨rfl, rfl⟩
    · exact ⟨rfl, rfl⟩
  fun_induction App.runScript app script with
  | case1 app value => exact ⟨rfl, rfl⟩
  | case2 app failure => exact ⟨rfl, rfl⟩
  | case3 app rest ih => exact ih
  | case4 app routes rest first failure hfailed => exact hregister app routes
  | case5 app routes rest first a hregistered last ih =>
    obtain ⟨hstartup, hshutdown⟩ := hregister app routes
    exact ⟨ih.1.trans hstartup, ih.2.trans hshutdown⟩

theorem Return.hooks {app last : App} {hooks : List LifespanHook} (h : app.Return hooks last) :
    last.startup = app.startup ∧ last.shutdown = app.shutdown := by
  induction h with
  | none app => exact ⟨rfl, rfl⟩
  | @next app last hook rest value h hrest ih =>
    obtain ⟨hstartup, hshutdown⟩ := hooks_runScript app hook.script
    exact ⟨ih.1.trans hstartup, ih.2.trans hshutdown⟩

end App

end WebRouter
