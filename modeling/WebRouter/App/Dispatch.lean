import WebRouter.App
import WebRouter.Http.Reply
import WebRouter.Text.Html

/-!
# From a request to a response

`dispatch` finds out what answers the path, calls the handler of that route, or
nobody, and makes a response of what came back. Whatever
fails on the way becomes a response too: an HTTP error one with its status, any
other failure a page that says no more than that something went wrong, unless
the application is being debugged.
-/

namespace WebRouter.App

/-- What dispatching a request came to. There is always a response. -/
structure Dispatched where
  response : Response
  events : List Event
  app : App

/-- A request as log records name it. -/
def requestLine (request : Request) : String :=
  s!"{request.method} {request.path}"

/-- The response to an error that a handler raised to be answered. -/
def httpErrorResponse (error : HttpError) : Response :=
  let status := String.ofList (Number.intText error.status)
  let response : Response :=
    { body := .str (if error.detail = "" then s!"Error {status}" else error.detail)
      status := .int error.status }
  response.withHeaders (error.headers.map fun header => (.str header.1, .str header.2))

/-- The record of an error that a handler raised to be answered. -/
def httpErrorRecord (request : Request) (error : HttpError) : Event :=
  .record .debug
    s!"{String.ofList (Number.intText error.status)} {requestLine request} — {error.detail}"

/-- A failure as the last line of a report. -/
def reportLine (failure : Failure) : String :=
  if failure.message = "" then failure.fullKind
  else s!"{failure.fullKind}: {failure.message}"

/-- The page about a failure that is shown to who debugs the application. Of the
report on the failure it has the first and the last line only: neither the calls
that the failure came through nor other failures that it came of are modelled. -/
def debugPage (failure : Failure) : String :=
  let report := s!"Traceback (most recent call last):\n{reportLine failure}\n"
  s!"<h1>500 Internal Server Error</h1><pre>{Text.Html.escape report}</pre>"

/-- The response to any other failure. -/
def internalErrorResponse (debug : Bool) (failure : Failure) : Response :=
  { body := .str (if debug then debugPage failure else "Internal Server Error")
    status := .int 500 }

/-- The response to a failure, and the record of it. -/
def answerFailure (debug : Bool) (request : Request) : Failure → Response × Event
  | .http error => (httpErrorResponse error, httpErrorRecord request error)
  | failure =>
    (internalErrorResponse debug failure, .record .error s!"500 {requestLine request}")

/-- Whether the application is being debugged. -/
def isDebugged (app : App) : Bool :=
  app.config.debug.isTruthy

/-- The response to a failure. -/
def failed (app : App) (request : Request) (failure : Failure) : Dispatched :=
  let (response, record) := answerFailure app.isDebugged request failure
  ⟨response, [record], app⟩

/-- Calls the handler of a route and makes a response of what comes back. -/
def invoke (app : App) (route : Route Handler) (request : Request) (state : RequestState) :
    Dispatched :=
  let outcome := app.runScript (route.handler.respond request state)
  let answer : Dispatched :=
    match outcome.result >>= Reply.ofValue with
    | .ok response => ⟨response, [], outcome.app⟩
    | .error failure => outcome.app.failed request failure
  { answer with events := .invoked route state :: (outcome.events ++ answer.events) }

/-- The record of a request that no route was found for. -/
def missRecord (request : Request) : Event :=
  .record .debug s!"404 {requestLine request}"

/-- Answers a request, given what was found to answer it. -/
def answer (app : App) (request : Request) (state : RequestState) :
    Router.Selected Handler → Dispatched
  | .matched found => app.invoke found.route request (state.withParams found.params)
  | .fallback route =>
    let answer := app.invoke route request state
    { answer with events := missRecord request :: answer.events }
  | .nothing => ⟨.notFound, [missRecord request], app⟩

/-- Answers a request. -/
def dispatch (app : App) (request : Request) : Dispatched :=
  let selection := app.select request.path
  let answer : Dispatched :=
    match selection.result with
    | .error failure => selection.app.failed request failure
    | .ok selected => selection.app.answer request (.ofRequest request) selected
  { answer with events := selection.events ++ answer.events }

end WebRouter.App
