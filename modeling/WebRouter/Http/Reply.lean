import WebRouter.Http.Response
import WebRouter.Json

/-!
# From what a handler returns to a response

A handler may return a response, nothing, a text, bytes, a mapping or a list, or
one of these in a tuple with a status and perhaps headers, tuples inside tuples
included. This is the one place where the shape of a returned value matters.

Tuples may stand inside one another to any depth: the bound that an interpreter
sets to the depth of its calls is idealised away, here as in writing JSON.
-/

namespace WebRouter.Reply

/-- A body that is JSON. -/
def json (value : Value) : Except Failure Response :=
  (Json.write value).map fun text =>
    { body := .str text, contentType := .str "application/json; charset=utf-8" }

/-- The response that a returned value stands for. In a tuple a truth value can
be the status as well. -/
def ofValue : Value → Except Failure Response
  | .response body status contentType headers => .ok { body, status, contentType, headers }
  | .null => .ok { status := .int 204 }
  | .str s => .ok { body := .str s }
  | .bytes bs => .ok { body := .bytes bs, contentType := .str "application/octet-stream" }
  | .dict entries => json (.dict entries)
  | .list items => json (.list items)
  | .tuple [inner, .int i] => (ofValue inner).map (·.withStatus (.int i))
  | .tuple [inner, .bool b] => (ofValue inner).map (·.withStatus (.bool b))
  | .tuple [inner, .int i, .dict headers] =>
    (ofValue inner).map fun response => (response.withStatus (.int i)).withHeaders headers
  | .tuple [inner, .bool b, .dict headers] =>
    (ofValue inner).map fun response => (response.withStatus (.bool b)).withHeaders headers
  | v => .error (.noResponse v.typeName)

end WebRouter.Reply
