import WebRouter.CommandLine.Target

/-!
# A module to try the tool on

The module `demo` has an application, a bare table of routes and a factory, one
for each of the ways in which an application can be named on a command line.
-/

namespace WebRouter.Demo

/-- A handler that answers with its parameters. -/
def showParams (name : String) : Handler :=
  .mk name fun _ state =>
    .done (.dict (state.params.map fun param => (.str param.1, .str param.2)))

/-- A handler that answers with a text. -/
def say (name text : String) : Handler :=
  .mk name fun _ _ => .done (.str text)

/-- A few routes, with a fallback. -/
def routes : Routes :=
  [("/", .handler (say "home" "hello")),
    ("/users/:id", .handler (showParams "show_user")),
    ("/users/:id/posts/:post", .handler (showParams "show_post")),
    (Router.Table.fallbackKey, .handler (say "missing" "nothing here"))]

/-- An application with the routes. -/
def app : App :=
  (App.create {} (some routes) LogHook.listening none).app

/-- The modules there are. -/
def modules : CommandLine.Modules :=
  [("demo", .ofNames "demo" [("app", .app app), ("routes", .routes routes),
    ("make", .factory "make" "make" [Router.replacedMessage routes.length] (.ok (.app app)))])]

end WebRouter.Demo
