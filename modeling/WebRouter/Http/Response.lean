import WebRouter.Failure
import WebRouter.Text.Case

/-!
# Responses

A response is built up step by step, every step giving a new one. Its parts are
whatever a handler put there; whether they can be sent comes out when it is sent.
-/

namespace WebRouter

/-- An answer to a request. -/
structure Response where
  body : Value := .str ""
  status : Value := .int 200
  contentType : Value := .str "text/html; charset=utf-8"
  headers : List (Value × Value) := []
  deriving Inhabited

namespace Response

/-- The response among the values that handlers deal in. -/
def toValue (response : Response) : Value :=
  .response response.body response.status response.contentType response.headers

/-- The page for a path that leads nowhere. -/
def notFoundPage : String :=
  "<!DOCTYPE html><html><body><h1>404 Not Found</h1></body></html>"

/-- The answer where no route matches and no fallback is registered. -/
def notFound : Response :=
  { body := .str notFoundPage, status := .int 404 }

/-- The response with another status. -/
def withStatus (response : Response) (status : Value) : Response :=
  { response with status }

/-- The response with one more header. -/
def withHeader (response : Response) (name value : Value) : Response :=
  { response with headers := response.headers ++ [(name, value)] }

/-- The response with one more header for every entry. -/
def withHeaders (response : Response) (headers : List (Value × Value)) : Response :=
  headers.foldl (fun response header => response.withHeader header.1 header.2) response

/-- The response with another content type. -/
def withContentType (response : Response) (contentType : Value) : Response :=
  { response with contentType }

/-- The body as bytes, a text in UTF-8. A text holds no surrogate on its own, so that
it can always be encoded; the bodies that cannot are the values that are neither a
text nor bytes. -/
def bodyBytes (response : Response) : Except Failure Bytes :=
  match response.body with
  | .bytes bs => .ok bs
  | .str s => .ok (Text.Utf8.encode s.toList)
  | v => .error (.missingMember v.typeName "encode")

/-- The body as a text, bytes read as UTF-8. -/
def text (response : Response) : Except Failure String :=
  match response.body with
  | .str s => .ok s
  | .bytes bs =>
    match Text.Utf8.decode? bs with
    | some chars => .ok (String.ofList chars)
    | none => .error .undecodable
  | v => .error (.missingMember v.typeName "decode")

/-- Whether a header has the name, whatever the case of either. A header whose
name is no text has none. -/
def isNamed (header : Value × Value) (name : String) : Bool :=
  match header.1 with
  | .str s => Text.lower s == Text.lower name
  | _ => false

/-- The value of the first header of a name. -/
def header? (response : Response) (name : String) : Option Value :=
  (response.headers.find? (isNamed · name)).map (·.2)

end Response

end WebRouter
