import WebRouter.Failure

/-!
# Calls that proceed in steps

A call on a shared state is modelled by the steps it takes: between two of them
it is a task, a value of some type `τ`, and a step turns a task and the state
into a `Progress` and the state afterwards. Whatever may happen between two
steps of a call, other calls' steps among it, can then be written down.

A step may also write a message. A log hook is told the message while the call
waits, and it may do three things: return, raise a failure, which ends the
waiting call, or make a call of its own on the same state, whose messages it is
told in turn. `Machine` runs a call together with all the calls that its hook
makes. A hook may go on making calls for ever, so a run has a bound.
-/

namespace WebRouter

/-- What a call does after a step. -/
inductive Progress (τ α : Type) where
  | run (next : τ)
  | log (message : String) (next : τ)
  | finish (result : Except Failure α)

namespace Progress

variable {τ υ α : Type}

/-- The call as it stands after the step, unless that was the last one. -/
def next? : Progress τ α → Option τ
  | run next => some next
  | log _ next => some next
  | finish _ => none

/-- The progress of a call as part of another one. -/
def map (f : τ → υ) : Progress τ α → Progress υ α
  | run next => run (f next)
  | log message next => log message (f next)
  | finish result => finish result

end Progress

/-- A kind of call: how it takes a step on a state of type `σ`. -/
abbrev Stepper (σ τ α : Type) := τ → σ → Progress τ α × σ

/-- What a log hook does next. -/
inductive HookMove (τ : Type) where
  | resume
  | fail (failure : Failure)
  | call (t : τ)

/-- A log hook with a memory of its own, of type `ρ`. -/
structure ReentrantHook (σ τ α ρ : Type) where
  /-- what it does on being told a message -/
  told : String → σ → ρ → HookMove τ × ρ
  /-- what it does on getting the result of a call that it made -/
  answered : Except Failure α → σ → ρ → HookMove τ × ρ

namespace Machine

/-- What is going on. -/
inductive Focus (τ α : Type) where
  /-- a call is about to take a step -/
  | task (t : τ)
  /-- the hook is about to make a move, while a call waits for it -/
  | hook (waiting : τ) (move : HookMove τ)
  /-- a call has ended -/
  | ended (result : Except Failure α)

end Machine

/-- A call under way, and the calls in whose messages it was made. -/
structure Machine (σ τ α ρ : Type) where
  state : σ
  memory : ρ
  focus : Machine.Focus τ α
  /-- the calls that wait for the hook, the innermost first -/
  waiting : List τ := []

namespace Machine

variable {σ τ α ρ : Type}

/-- A call that has not begun. -/
def start (state : σ) (memory : ρ) (t : τ) : Machine σ τ α ρ :=
  { state, memory, focus := .task t }

/-- What goes on next; nothing once the outermost call has ended. -/
def step? (take : Stepper σ τ α) (hook : ReentrantHook σ τ α ρ) (m : Machine σ τ α ρ) :
    Option (Machine σ τ α ρ) :=
  match m.focus with
  | .task t =>
    match take t m.state with
    | (.run u, state) => some { m with state, focus := .task u }
    | (.finish result, state) => some { m with state, focus := .ended result }
    | (.log message u, state) =>
      let (move, memory) := hook.told message state m.memory
      some { m with state, memory, focus := .hook u move }
  | .hook u .resume => some { m with focus := .task u }
  | .hook _ (.fail failure) => some { m with focus := .ended (.error failure) }
  | .hook u (.call t) => some { m with focus := .task t, waiting := u :: m.waiting }
  | .ended result =>
    match m.waiting with
    | [] => none
    | u :: waiting =>
      let (move, memory) := hook.answered result m.state m.memory
      some { m with memory, focus := .hook u move, waiting }

/-- Goes on until the outermost call has ended, for at most `bound` steps. -/
def run (take : Stepper σ τ α) (hook : ReentrantHook σ τ α ρ) :
    Nat → Machine σ τ α ρ → Machine σ τ α ρ
  | 0, m => m
  | bound + 1, m =>
    match m.step? take hook with
    | none => m
    | some m => m.run take hook bound

/-- The result of the outermost call, once it has ended. -/
def result? (m : Machine σ τ α ρ) : Option (Except Failure α) :=
  match m.focus, m.waiting with
  | .ended result, [] => some result
  | _, _ => none

end Machine

end WebRouter
