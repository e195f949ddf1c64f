import WebRouter.Failure

/-!
# The public names

The library answers to a fixed list of names. Most stand for something that is
defined in one of its parts, and `originOf` says in which. The parts themselves
have names as well, and so have some values that describe the library and the
operations that anything has; these cannot say where they are defined, or not
in full.
-/

namespace WebRouter.Catalogue

/-- What something says of itself: where it is defined, unless it leaves that
open, and what it is called. -/
structure Origin where
  place? : Option String
  name : String
  deriving DecidableEq, Repr

/-- What a public name stands for. -/
inductive Meaning where
  /-- something that tells its origin -/
  | definition (origin : Origin)
  /-- a part of the library -/
  | part
  /-- a value that is silent on its origin: its kind has not got the member asked for -/
  | silent (kind member : String)
  deriving DecidableEq

/-- What the library as a whole is called. -/
def library : String := "junction"

/-- Where something says that it is defined. -/
def placeName : String := "__module__"

/-- Where something says what it is called. -/
def selfName : String := "__name__"

/-- The names of what is defined in a part. -/
def definitions : List (String × String) :=
  [("App", "app"), ("AppConfig", "config"), ("ConfigurationError", "errors"),
    ("HTTPError", "errors"), ("JunctionError", "errors"), ("NotFound", "errors"),
    ("RegistrationError", "errors"), ("Request", "http.request"),
    ("RequestState", "http.request"), ("Response", "http.response"),
    ("Router", "routing.router"), ("parse_query_string", "http.query")]

/-- The names of the parts. -/
def parts : List String :=
  ["_internal", "app", "cli", "config", "errors", "http", "routing", "server", "testing"]

/-- The names of the values that describe the library, each with its kind. -/
def descriptions : List (String × String) :=
  [("__all__", "list"), ("__annotations__", "dict"), ("__builtins__", "dict"),
    ("__cached__", "str"), ("__dict__", "dict"), ("__doc__", "str"), ("__file__", "str"),
    ("__name__", "str"), ("__package__", "str"), ("__path__", "list"), ("__version__", "str")]

/-- The names of the values that say how the library was found, each with its
kind. They have a place but no name of their own. -/
def findings : List (String × String) :=
  [("__loader__", "SourceFileLoader"), ("__spec__", "ModuleSpec")]

/-- The names of the operations on the library that tell nothing of themselves. -/
def boundOperations : List String :=
  ["__delattr__", "__eq__", "__ge__", "__getattribute__", "__gt__", "__hash__", "__init__",
    "__le__", "__lt__", "__ne__", "__repr__", "__setattr__", "__str__"]

/-- The names of the operations that tell their own name but no place. -/
def namedOperations : List String :=
  ["__dir__", "__format__", "__getstate__", "__init_subclass__", "__new__", "__reduce__",
    "__reduce_ex__", "__sizeof__", "__subclasshook__"]

/-- The name of the look-up of names itself. -/
def lookupName : String := "__getattr__"

/-- The name of the class of the library. -/
def className : String := "__class__"

/-- What a name stands for. -/
def meaning? (name : String) : Option Meaning :=
  match definitions.lookup name, descriptions.lookup name, findings.lookup name with
  | some part, _, _ => some (.definition ⟨some s!"{library}.{part}", name⟩)
  | none, some kind, _ => some (.silent kind placeName)
  | none, none, some kind => some (.silent kind selfName)
  | none, none, none =>
    if name ∈ parts then some .part
    else if name ∈ boundOperations then some (.silent "method-wrapper" placeName)
    else if name ∈ namedOperations then some (.definition ⟨none, name⟩)
    else if name = lookupName then some (.definition ⟨some library, name⟩)
    else if name = className then some (.definition ⟨some "builtins", "module"⟩)
    else none

/-- The origin of what a name stands for. -/
def originOf (name : String) : Except Failure Origin :=
  match meaning? name with
  | some (.definition origin) => .ok origin
  | some .part => .error (.unknownName s!"{library}.{name}" placeName)
  | some (.silent kind member) => .error (.missingMember kind member)
  | none => .error (.unknownName library name)

end WebRouter.Catalogue
