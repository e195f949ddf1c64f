import WebRouter.Text.Pieces

/-!
# Path templates

A template is a path some of whose segments are parameters: `/users/:id` stands
for `/users/` followed by one or more letters, digits and underscores, which it
calls `id`. `pattern?` takes a template apart, refusing a parameter without a
name and a name that occurs twice, and `bind?` matches a path against the
result. A path fits exactly if it is the template with every parameter replaced
by its value, which is what `fill` makes; since neither a value nor a literal segment holds a slash, the
segments of the path line up with those of the template one by one, and no
other way to match has to be tried.
-/

namespace WebRouter

/-- One segment of a template. -/
inductive Segment where
  /-- a segment that stands for itself -/
  | literal (text : String)
  /-- a segment that stands for a value of the given name -/
  | param (name : String)
  deriving DecidableEq, Repr

namespace Segment

/-- A segment that begins with a colon is a parameter; the rest, verbatim, is its name. -/
def ofText (text : String) : Segment :=
  match text.toList with
  | ':' :: name => param (String.ofList name)
  | _ => literal text

/-- The name of a parameter. -/
def name? : Segment → Option String
  | literal _ => none
  | param name => some name

end Segment

namespace Template

/-- What can be wrong with a template. -/
inductive Defect where
  /-- a parameter without a name -/
  | unnamed
  /-- a second parameter of the same name -/
  | duplicate (name : String)
  deriving DecidableEq, Repr

/-- The segments of a template as a listing shows them; the root, a single slash,
is one segment of its own. -/
def segments (template : String) : List String :=
  if template = "/" then [template] else Text.pieces '/' template

/-- The leftmost defect in segments that follow parameters named `seen`. -/
def defectAfter? (seen : List String) : List Segment → Option Defect
  | [] => none
  | .literal _ :: rest => defectAfter? seen rest
  | .param name :: rest =>
    if name = "" then some .unnamed
    else if name ∈ seen then some (.duplicate name)
    else defectAfter? (name :: seen) rest

/-- The segments between the slashes of a template, the pattern that paths are
matched against. -/
def split (template : String) : List Segment :=
  (Text.pieces '/' template).map Segment.ofText

/-- The pattern of a template, or the leftmost thing wrong with it. -/
def pattern? (template : String) : Except Defect (List Segment) :=
  match defectAfter? [] (split template) with
  | some defect => .error defect
  | none => .ok (split template)

/-- The names of the parameters, in the order of the template. -/
def paramNames (pattern : List Segment) : List String :=
  pattern.filterMap Segment.name?

/-- Whether a text can be the value of a parameter: letters, digits and
underscores, at least one. -/
def isValue (text : String) : Bool :=
  !text.toList.isEmpty && text.toList.all Text.isWordChar

/-- A segment with the value of its parameter in place; a parameter that has no
value is left empty. -/
def fillSegment (params : List (String × String)) : Segment → String
  | .literal text => text
  | .param name => (params.lookup name).getD ""

/-- The path that a pattern stands for under the given values of its parameters. -/
def fill (pattern : List Segment) (params : List (String × String)) : String :=
  "/".intercalate (pattern.map (fillSegment params))

/-- Matches the segments of a path one by one, collecting the values. -/
def bindSegments : List Segment → List String → Option (List (String × String))
  | [], [] => some []
  | .literal text :: pattern, piece :: path =>
    if piece = text then bindSegments pattern path else none
  | .param name :: pattern, piece :: path =>
    if isValue piece then (bindSegments pattern path).map ((name, piece) :: ·) else none
  | _, _ => none

/-- The values of the parameters, in the order of the template, if the path fits. -/
def bind? (pattern : List Segment) (path : String) : Option (List (String × String)) :=
  bindSegments pattern (Text.pieces '/' path)

end Template

end WebRouter
