import WebRouter.Http.Response

/-!
# What is sent back

A response goes out as two messages, one with the status and the headers and one
with the body. The first header is the content type, then come the response's
own headers with their names lowered, and the last one is the length of the
body, which is empty where the status permits none. Everything that can go wrong
does so before the first message is made.
-/

namespace WebRouter

/-- A message to the server. -/
inductive Message where
  | responseStart (status : Value) (headers : List (Bytes × Bytes))
  | responseBody (body : Bytes)
  | startupComplete
  | startupFailed (reason : String)
  | shutdownComplete

namespace Message

/-- What the server calls the message. -/
def kind : Message → String
  | responseStart .. => "http.response.start"
  | responseBody _ => "http.response.body"
  | startupComplete => "lifespan.startup.complete"
  | startupFailed _ => "lifespan.startup.failed"
  | shutdownComplete => "lifespan.shutdown.complete"

/-- A text as bytes, one per character. -/
def bytesOfText (text : String) : Except Failure Bytes :=
  match Text.Latin1.encode? text with
  | some bytes => .ok bytes
  | none => .error .unencodable

/-- A content type or the value of a header as bytes. -/
def bytesOfValue : Value → Except Failure Bytes
  | .str s => bytesOfText s
  | v => .error (.missingMember v.typeName "encode")

/-- The name of a header as bytes. Bytes have a lower case too, but are not
encoded a second time. -/
def bytesOfName : Value → Except Failure Bytes
  | .str s => bytesOfText (Text.lower s)
  | .bytes bs => .error (.missingMember (Value.bytes bs).typeName "encode")
  | v => .error (.missingMember v.typeName "lower")

/-- The name of the header for the content type. -/
def contentTypeName : String := "content-type"

/-- The name of the header for the length of the body. -/
def contentLengthName : String := "content-length"

/-- Whether a number is at least `n`; nothing else can be compared with one. -/
def isAtLeast (v : Value) (n : Nat) : Except Failure Bool :=
  match v with
  | .bool b => .ok (n ≤ b.toNat)
  | .int i => .ok (n ≤ i)
  | .float x => .ok (x.atLeast n)
  | v => .error (.unordered v.typeName)

/-- Whether a status permits a body: all do but those from 100 to 199, 204 and 304. -/
def bodyAllowed (status : Value) : Except Failure Bool := do
  let informational := (← isAtLeast status 100) && !(← isAtLeast status 200)
  return !(informational || status == .int 204 || status == .int 304)

/-- The headers of a response, the length of the body aside. -/
def headersOf (response : Response) : Except Failure (List (Bytes × Bytes)) := do
  let contentType ← bytesOfValue response.contentType
  let headers ← response.headers.mapM fun header => do
    return (← bytesOfName header.1, ← bytesOfValue header.2)
  return (Text.Latin1.bytesOf contentTypeName, contentType) :: headers

/-- The bytes sent for the body of a response. -/
def bodyOf (response : Response) : Except Failure Bytes := do
  if ← bodyAllowed response.status then response.bodyBytes else return []

/-- The messages that a response goes out as. -/
def ofResponse (response : Response) : Except Failure (List Message) := do
  let headers ← headersOf response
  let body ← bodyOf response
  let length := Text.Latin1.bytesOf (String.ofList (Number.natText body.length))
  return [
    .responseStart response.status (headers ++ [(Text.Latin1.bytesOf contentLengthName, length)]),
    .responseBody body]

end Message

end WebRouter
