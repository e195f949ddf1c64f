import WebRouter.Failure
import WebRouter.Query.Raw
import WebRouter.Text.Case

/-!
# Requests

A server hands over a `Scope`: what it knows about a connection, any part of
which may be missing. A `Request` is made of it once. The path is the one part
that has to be there. Names of headers are lowered, so that looking a header up
does not depend on the case in which it was sent.
-/

namespace WebRouter

/-- What a server tells about a connection. -/
structure Scope where
  kind? : Option String := none
  method? : Option String := none
  path? : Option String := none
  query : RawQuery := .missing
  headers : List (Bytes × Bytes) := []
  client? : Option (String × Int) := none

/-- A request as it arrived. -/
structure Request where
  method : String
  path : String
  query : String := ""
  headers : List (String × String) := []
  client? : Option (String × Int) := none
  deriving DecidableEq

namespace Request

/-- A header with its name lowered. -/
def headerOfBytes (header : Bytes × Bytes) : String × String :=
  (Text.lower (Text.Latin1.decode header.1), Text.Latin1.decode header.2)

/-- The request that a scope describes. -/
def ofScope (scope : Scope) : Except Failure Request :=
  match scope.path? with
  | none => .error (.missingKey "path")
  | some path =>
    .ok {
      method := scope.method?.getD "GET"
      path
      query := scope.query.toText
      headers := scope.headers.map headerOfBytes
      client? := scope.client? }

/-- The value of the first header of a name, whatever the case of the name. -/
def header? (request : Request) (name : String) : Option String :=
  request.headers.lookup (Text.lower name)

/-- The path, and the query string unless that is empty. -/
def url (request : Request) : String :=
  if request.query = "" then request.path else s!"{request.path}?{request.query}"

end Request

end WebRouter
