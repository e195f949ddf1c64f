import WebRouter.CommandLine.Grammar
import WebRouter.Number.Decimal

/-!
# The command line of the tool

The tool has three commands: `routes` lists the routes of an application,
`match` shows how a URL is routed, and `run` serves the application. Each takes
the name of the application and, where there are any, options of its own; how
much is logged is said in front of the command.
-/

namespace WebRouter.CommandLine

/-- How much is logged. -/
inductive LogLevel where
  | debug
  | info
  | warning
  | error
  deriving DecidableEq

/-- The level of a name. -/
def LogLevel.ofName? : String → Option LogLevel
  | "debug" => some debug
  | "info" => some info
  | "warning" => some warning
  | "error" => some error
  | _ => none

/-- What the tool is asked to do. -/
inductive Command where
  | routes (target : String)
  /-- the URL is missing if a second `--` stood in its place -/
  | resolve (target : String) (url? : Option String)
  | serve (target : String) (host? : Option String) (port? : Option Int)

/-- A command line that has been read. -/
structure Arguments where
  /-- missing if a `--` stood in place of its name -/
  level? : Option LogLevel := some .warning
  command? : Option Command := none
  leftover : List String := []

/-- What a command's own arguments are taken down in. -/
structure Draft where
  target? : Option String := none
  url? : Option String := none
  host? : Option String := none
  port? : Option Int := none

/-- The name of the application. -/
def target : Positional Draft :=
  .one fun target? draft => .ok { draft with target? }

/-- The URL to be routed. -/
def url : Positional Draft :=
  .one fun url? draft => .ok { draft with url? }

/-- Where the server is to listen. -/
def bindOptions : List (String × Store (Option String) Draft) :=
  [("--host", fun host? draft => .ok { draft with host? }),
    ("--port", fun text? draft =>
      match text?.map Number.readInt? with
      | none => .ok { draft with port? := none }
      | some none => .error .misuse
      | some port? => .ok { draft with port? })]

/-- Reads the arguments of a command, all of which have to be there. -/
def readCommand (g : Grammar Draft) (make : Draft → String → Command) (args : List String) :
    Except Stop (Command × List String) := do
  let p ← g.read {} args
  match p.positionals, p.draft.target? with
  | [], some target => return (make p.draft target, p.leftover)
  | _, _ => .error .misuse

/-- Reads the command of a name. -/
def command (name : String) (args : List String) : Except Stop (Command × List String) :=
  match name with
  | "routes" => readCommand ⟨[], [target]⟩ (fun _ target => .routes target) args
  | "match" =>
    readCommand ⟨[], [target, url]⟩ (fun draft target => .resolve target draft.url?) args
  | "run" =>
    readCommand ⟨bindOptions, [target]⟩
      (fun draft target => .serve target draft.host? draft.port?) args
  | _ => .error .misuse

/-- The command line as a whole. -/
def grammar : Grammar Arguments where
  options := [("--log-level", fun name? arguments =>
    match name?.map LogLevel.ofName? with
    | none => .ok { arguments with level? := none }
    | some none => .error .misuse
    | some level? => .ok { arguments with level? })]
  positionals := [.all fun words arguments =>
    match words with
    | [] => .error .misuse
    | name :: args => do
      let (command, leftover) ← command name args
      return { arguments with command? := some command, leftover }]

/-- Reads the command line. Nothing may be left over. -/
def Arguments.read (args : List String) : Except Stop Arguments := do
  let p ← grammar.read {} args
  if p.leftover.isEmpty && p.draft.leftover.isEmpty then return p.draft else .error .misuse

end WebRouter.CommandLine
