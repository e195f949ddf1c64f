import WebRouter.CommandLine.Arguments
import WebRouter.CommandLine.Listing
import WebRouter.CommandLine.Target
import WebRouter.Json

/-!
# What a command does

`perform` reads a command line, finds the application and does what is asked. A
`Report` is all there is to see of it: the two streams of text, the servers that
were started, and how it ended.
-/

namespace WebRouter.CommandLine

/-- How a command ended. -/
inductive Ending where
  | exit (status : Nat)
  /-- with a failure that nothing on the way made a message of -/
  | broken (failure : Failure)

/-- All there is to see of a command. -/
structure Report where
  output : List String := []
  errors : List String := []
  started : List ServerSettings := []
  ending : Ending := .exit 0

/-- How the tool is used. -/
def usage : String :=
  "usage: webrouter [-h] [--log-level LEVEL] routes TARGET | match TARGET URL | "
    ++ "run [--host HOST] [--port PORT] TARGET"

/-- The lines in which a match is shown. -/
def matchLines (found : RouteMatch Handler) : Except Failure (List String) := do
  let params ← Json.write (.dict (found.params.map fun param => (.str param.1, .str param.2)))
  return [s!"route:  {found.route.template}", s!"params: {params}"]

/-- Shows how an application routes a URL: the route and its parameters, or the
fallback, or that there is neither; then the query. -/
def showMatch (app : App) (url : String) : Report × List Event :=
  let (path, query) := Text.cut '?' url
  let selection := app.select path
  let shown : Except Failure Report := do
    match ← selection.result with
    | .matched found => withQuery query (← matchLines found)
    | .fallback route => withQuery query [s!"route:  {route.template}"]
    | .nothing =>
      return { output := [s!"No route matches {Text.Quoted.text path}"], ending := .exit 1 }
  match shown with
  | .ok report => (report, selection.events)
  | .error failure => ({ ending := .broken failure }, selection.events)
where
  /-- Adds the line of the query. -/
  withQuery (query : String) (lines : List String) : Except Failure Report := do
    let text ← Json.write (Query.toValue (Query.parse query))
    return { output := lines ++ [s!"query:  {text}"] }

/-- Does what is asked of an application; what its router writes comes along. -/
def Command.perform (app : App) : Command → Report × List Event
  | routes _ => ({ output := routeLines app.router.routes }, [])
  | resolve _ none => ({ ending := .broken (.missingMember "list" "partition") }, [])
  | resolve _ (some url) => showMatch app url
  | serve _ host? port? =>
    let host := (host?.map Value.str).getD .null
    let port := (port?.map Value.int).getD .null
    ({ started := [app.serverSettings host port] }, [])

/-- The name of the application that a command is about. -/
def Command.target : Command → String
  | routes target => target
  | resolve target _ => target
  | serve target .. => target

/-- The messages of the router as lines of the log, which are there only if
everything is logged. -/
def logLines (level : LogLevel) (messages : List String) : List String :=
  if level = .debug then messages.map (s!"DEBUG:junction.router:" ++ ·) else []

/-- Finds the application of a command and performs it. -/
def Command.execute (modules : Modules) (level : LogLevel) (command : Command) : Report :=
  let resolved := resolveTarget modules command.target
  let log := logLines level resolved.messages
  match resolved.result with
  | .ok app =>
    let (report, events) := command.perform app
    let messages := events.filterMap fun
      | .message text => some text
      | _ => none
    { report with errors := log ++ logLines level messages ++ report.errors }
  | .error .usageShown => { output := [usage], errors := log }
  | .error e =>
    if e.isReported then { errors := log ++ [s!"Error: {e.message}"], ending := .exit 1 }
    else { errors := log, ending := .broken (.raised "ValueError" e.message) }

/-- Performs a command line. A level that has no name is missed before the
application is looked for. -/
def perform (modules : Modules) (args : List String) : Report :=
  match Arguments.read args with
  | .error .help => { output := [usage] }
  | .error .misuse => { errors := [usage], ending := .exit 2 }
  | .ok arguments =>
    match arguments.command?, arguments.level? with
    | none, _ => { output := [usage] }
    | some _, none => { ending := .broken (.missingMember "list" "upper") }
    | some command, some level => command.execute modules level

end WebRouter.CommandLine
