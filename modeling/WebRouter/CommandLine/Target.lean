import WebRouter.CommandLine.Module

/-!
# The application that a command is about

A command names its application as `module:name`, the name being `app` where it
is left out. What stands under the name may be an application, a table of routes,
or a factory that builds an application; anything else is refused.
-/

namespace WebRouter.CommandLine

/-- Why there is no application to work on. -/
inductive TargetError where
  | emptyModuleName
  | relativeName (name : String)
  | noModule (name : String)
  /-- a name with a dot, in something that has no parts -/
  | notAPackage (name parent : String)
  /-- a place to search whose name is no name of a file -/
  | unnameablePlace
  /-- a name that could not be looked up -/
  | lookup (failure : Failure)
  /-- the tool was called instead, and has shown how it is used -/
  | usageShown
  | routes (message : String)
  | factoryFailed (origin : String) (failure : Failure)
  | factoryReturned (origin kind : String)
  | unsuitable (origin kind : String)

namespace TargetError

/-- The reason in words. -/
def message : TargetError → String
  | emptyModuleName => "Empty module name"
  | relativeName name =>
    "the 'package' argument is required to perform a relative import for "
      ++ Text.Quoted.text name
  | noModule name => s!"No module named {Text.Quoted.text name}"
  | notAPackage name parent =>
    s!"No module named {Text.Quoted.text name}; {Text.Quoted.text parent} is not a package"
  | unnameablePlace => "embedded null byte"
  | lookup failure => failure.message
  | usageShown => ""
  | routes message => message
  | factoryFailed origin failure =>
    s!"App factory {Text.Quoted.text origin} raised an error: {failure.message}"
  | factoryReturned origin kind =>
    s!"App factory {Text.Quoted.text origin} returned {kind}, not a junction.App"
  | unsuitable origin kind =>
    s!"{Text.Quoted.text origin} is a {kind}; expected a junction.App, "
      ++ "a route mapping or an app factory"

/-- Whether the reason is told to the user; names that nothing can have are not. -/
def isReported : TargetError → Bool
  | emptyModuleName | unnameablePlace | usageShown => false
  | _ => true

end TargetError

/-- The name under which an application is looked for if none is given. -/
def defaultName : String := "app"

/-- The modules that a dotted name says it is part of, the nearest first. -/
def ancestors (name : String) : List String :=
  let parts := Text.pieces '.' name
  ((List.range (parts.length - 1)).map fun n => ".".intercalate (parts.take (n + 1))).reverse

/-- Why a module has no part of a name: it is no package, or its search path leads
nowhere. The name of a place may hold any character but U+0000. -/
def missingPart (m : Module) (name parent : String) : TargetError :=
  match m.find Module.pathName with
  | .error failure =>
    if failure.isAbsence then .notAPackage name parent else .lookup failure
  | .ok path =>
    match path.places? with
    | none => .lookup (.uniterable path.typeName)
    | some places =>
      if places.any (·.toList.contains '\x00') then .unnameablePlace else .noModule name

/-- Why there is no module of a name. One that is not there is missed before its
parts are. -/
def missingModule (modules : Modules) (name : String) : List String → TargetError
  | [] => .noModule name
  | parent :: rest =>
    match modules.lookup parent with
    | some m => missingPart m name parent
    | none => missingModule modules parent rest

/-- The module of a name. -/
def importModule (modules : Modules) (name : String) : Except TargetError Module :=
  if name.toList.head? = some '.' then .error (.relativeName name)
  else if name = "" then .error .emptyModuleName
  else
    match modules.lookup name with
    | some m => .ok m
    | none => .error (missingModule modules name (ancestors name))

/-- What resolving a target came to, and what the router of a new application
wrote meanwhile. -/
structure Resolved where
  result : Except TargetError App
  messages : List String := []

/-- The application that a table of routes makes. -/
def appOfRoutes (routes : Routes) : Resolved :=
  let outcome := App.create {} (some routes) LogHook.listening none
  { result :=
      match outcome.result with
      | .ok _ => .ok outcome.app
      | .error failure => .error (.routes failure.message)
    messages := outcome.events.filterMap fun
      | .message text => some text
      | _ => none }

/-- The application that a mapping of values makes: none of them can be called, so
the first one is at fault. -/
def appOfEntries : List (Value × Value) → Resolved
  | [] => appOfRoutes []
  | (key, value) :: _ =>
    let reason := RegistrationReason.notCallable value.typeName
    ⟨.error (.routes s!"Invalid route {key.literal}: {reason.text}"), []⟩

/-- The application that a target stands for. -/
def Target.resolve (origin : String) : Target → Resolved
  | app a => ⟨.ok a, []⟩
  | routes table => appOfRoutes table
  | factory _ _ messages (.ok (.app a)) => ⟨.ok a, messages⟩
  | factory _ _ messages (.ok other) =>
    ⟨.error (.factoryReturned origin other.typeName), messages⟩
  | factory _ _ messages (.error failure) => ⟨.error (.factoryFailed origin failure), messages⟩
  | tool => ⟨.error .usageShown, []⟩
  | trace kind => ⟨.error (.unsuitable origin kind), []⟩
  | value (.dict entries) => appOfEntries entries
  | value v => ⟨.error (.unsuitable origin v.typeName), []⟩

/-- The application of a name. -/
def resolveTarget (modules : Modules) (origin : String) : Resolved :=
  let (module, name) := Text.cut ':' origin
  let name := if name = "" then defaultName else name
  match importModule modules module with
  | .error e => ⟨.error e, []⟩
  | .ok m =>
    match m.find name with
    | .error failure => ⟨.error (.lookup failure), []⟩
    | .ok target => target.resolve origin

end WebRouter.CommandLine
