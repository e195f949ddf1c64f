import WebRouter.Handler

/-!
# Listings of routes

A listing has a line for every route, in the order in which routes are tried:
the template, the names of the parameters and the handler. The first two columns
are as wide as their widest entry and a rule of at most 80 dashes stands below
the headings.
-/

namespace WebRouter.CommandLine

/-- A line of a listing. -/
structure Row where
  template : String
  params : String
  handler : String

namespace Row

/-- The headings of the columns. -/
def headings : Row :=
  ⟨"TEMPLATE", "PARAMS", "HANDLER"⟩

/-- The line of a route. -/
def ofRoute (route : Route Handler) : Row :=
  { template := route.template
    params := if route.paramNames.isEmpty then "-" else ", ".intercalate route.paramNames
    handler := route.handler.name }

end Row

/-- A text filled up with blanks to a width. -/
def padded (width : Nat) (text : String) : String :=
  text ++ String.ofList (List.replicate (width - text.length) ' ')

/-- The widest length among texts. -/
def widest (texts : List String) : Nat :=
  texts.foldl (fun width text => max width text.length) 0

/-- The lines of a listing. -/
def listing (rows : List Row) : List String :=
  let templates := widest (Row.headings.template :: rows.map (·.template))
  let params := widest (Row.headings.params :: rows.map (·.params))
  let rule := min (templates + params + 4 + widest (rows.map (·.handler))) 80
  let line (row : Row) : String :=
    s!"{padded templates row.template}  {padded params row.params}  {row.handler}"
  line Row.headings :: String.ofList (List.replicate rule '-') :: rows.map line

/-- The listing of routes; a single line if there are none. -/
def routeLines (routes : List (Route Handler)) : List String :=
  if routes.isEmpty then ["No routes registered."] else listing (routes.map Row.ofRoute)

end WebRouter.CommandLine
