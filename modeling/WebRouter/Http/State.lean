import WebRouter.Http.Request

/-!
# What the router worked out about a request

A `RequestState` holds the path, the parsed query, the parameters that the
matched route bound, and whatever handlers add. It is a value: adding to it
makes another one. A name is looked up among the parameters first, then among
the additions, then at the top of the query.
-/

namespace WebRouter

/-- What is known about a request while it is answered. -/
structure RequestState where
  path : String
  query : Query := []
  params : List (String × String) := []
  extras : List (String × Value) := []

namespace RequestState

/-- The state of a request that no route has been looked for yet. -/
def ofRequest (request : Request) : RequestState :=
  { path := request.path, query := Query.parse request.query }

/-- The state with more parameters. -/
def withParams (state : RequestState) (params : List (String × String)) : RequestState :=
  { state with params := Ordered.update state.params params }

/-- The state with more additions. -/
def withExtras (state : RequestState) (extras : List (String × Value)) : RequestState :=
  { state with extras := Ordered.update state.extras extras }

/-- The name that no addition may have, since it is the state's own. -/
def reservedName : String := "self"

/-- The additions that a mapping holds, if every key is a name and none is the
reserved one. -/
def additions (entries : List (Value × Value)) : Except Failure (List (String × Value)) := do
  let named ← entries.mapM fun entry =>
    match entry.1 with
    | .str name => .ok (name, entry.2)
    | _ => .error (.misuse "keywords must be strings")
  if Ordered.contains reservedName named then
    .error (.misuse
      s!"RequestState.with_values() got multiple values for argument '{reservedName}'")
  else
    .ok named

/-- The state with the entries of a mapping added. -/
def withValues (state : RequestState) (entries : List (Value × Value)) :
    Except Failure RequestState :=
  (additions entries).map state.withExtras

/-- The value of a name. -/
def get? (state : RequestState) (name : String) : Option Value :=
  match Ordered.find? name state.params with
  | some value => some (.str value)
  | none =>
    match Ordered.find? name state.extras with
    | some value => some value
    | none => (Ordered.find? name state.query).map Query.valueOfTree

end RequestState

end WebRouter
