import WebRouter.App.Serve
import WebRouter.Text.Percent

/-!
# A client for tests

The client sends requests straight into an application and reads the response
back from the messages that come out. What it sends goes through the same bytes
as a request over a network: names and values of headers, the path and the query
have to be encodable, one byte per character.
-/

namespace WebRouter.Client

/-- One key and value of a query, percent-encoded. A value that is neither text
nor bytes is sent as it displays. -/
def encodePair (pair : String × Value) : String :=
  let value :=
    match pair.2 with
    | .bytes bs => Text.Percent.encodeBytes bs
    | v => Text.Percent.encode v.display.toList
  String.ofList (Text.Percent.encode pair.1.toList ++ '=' :: value)

/-- A mapping as a query string. -/
def encodeQuery (query : List (String × Value)) : String :=
  "&".intercalate ((Ordered.ofList query).map encodePair)

/-- A path with a query added to it. -/
def withQuery (path : String) (query : List (String × Value)) : String :=
  if query.isEmpty then path
  else
    let separator := if path.toList.contains '?' then "&" else "?"
    path ++ separator ++ encodeQuery query

/-- The scope of a request. -/
def scopeOf (method url : String) (headers : List (String × String)) : Except Failure Scope := do
  let (path, query) := Text.cut '?' url
  let headers ← (Ordered.ofList headers).mapM fun header => do
    return (← Message.bytesOfText (Text.lower header.1), ← Message.bytesOfText header.2)
  let _ ← Message.bytesOfText path
  let query ← Message.bytesOfText query
  return {
    kind? := some "http"
    method? := some (Text.upper method)
    path? := some path
    query := .bytes query
    headers
    client? := some ("127.0.0.1", 0) }

/-- Reads one more message into the response. -/
def receive (response : Response) : Message → Response
  | .responseStart status headers =>
    let named := headers.map fun header => (Text.Latin1.decode header.1, Text.Latin1.decode header.2)
    let contentType :=
      match named.reverse.lookup Message.contentTypeName with
      | some contentType => .str contentType
      | none => ({} : Response).contentType
    let own := named.filter fun header =>
      header.1 != Message.contentTypeName && header.1 != Message.contentLengthName
    { response with
      status, contentType, headers := own.map fun header => (.str header.1, .str header.2) }
  | .responseBody body =>
    match response.body with
    | .bytes bs => { response with body := .bytes (bs ++ body) }
    | _ => { response with body := .bytes body }
  | _ => response

/-- The response that messages add up to. -/
def readBack (messages : List Message) : Response :=
  messages.foldl receive { body := .bytes [] }

/-- Sends a request. -/
def request (app : App) (method url : String) (headers : List (String × String)) :
    App.Outcome Response :=
  match scopeOf method url headers with
  | .error failure => ⟨.error failure, [], app⟩
  | .ok scope =>
    let outcome := app.serve scope ⟨[], .raised "RuntimeError" "nothing is received"⟩
    { result := outcome.result.map fun _ => readBack (outcome.events.filterMap Event.sent?)
      events := outcome.events
      app := outcome.app }

/-- Sends a request for a path, with a query added to it. -/
def get (app : App) (path : String) (query : List (String × Value))
    (headers : List (String × String)) : App.Outcome Response :=
  request app "GET" (withQuery path query) headers

end WebRouter.Client
