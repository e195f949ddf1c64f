import WebRouter.App

/-!
# Modules and what stands in them

A module is a table of names, each for something that a command may be about.
Beside them every module answers to the name of the table itself, to the name of
its notes and to the operations that anything has (`operations`). `Module.find`
looks a name up in all of these, the module's own names first.

Of a name that it has not got, a module says so (`Module.missing`). It may have
somebody to ask first, under the name `askName`; of all that can stand there,
nothing takes the question, so that ends in a failure of its own.

A module with a search path (`pathName`) is a package, which may have parts.
-/

namespace WebRouter.CommandLine

/-- What can stand under a name in a module. -/
inductive Target where
  | app (app : App)
  | routes (routes : Routes)
  | value (value : Value)
  /-- something to be called, by its own name and by its name in full; the messages
  are those that the router of a new application writes during the call -/
  | factory (name fullName : String) (messages : List String) (built : Except Failure Target)
  /-- what the search for a module leaves behind, of a kind that no value has: it
  has a name, and can be searched in turn -/
  | trace (kind : String)
  /-- the tool itself, which shows how it is used if it is called with nothing -/
  | tool

namespace Target

/-- What a target's kind is called in messages. -/
def typeName : Target → String
  | app _ => "App"
  | routes _ => (Value.dict []).typeName
  | value v => v.typeName
  | trace kind => kind
  | factory .. | tool => "function"

/-- What is said if a target is called with a single argument, which none of them
takes. -/
def unwelcome : Target → Failure
  | app _ => .missingArguments "App.__call__" ["receive", "send"]
  | factory _ fullName .. =>
    .misuse s!"{fullName}() takes 0 positional arguments but 1 was given"
  | target => .uncallable target.typeName

/-- A target as a handler of requests. What can be called passes for one until a
request comes. -/
def registrand : Target → Registrand Handler
  | app _ =>
    .handler (.mk "<junction.app.App object>" fun _ _ =>
      .fail (.missingArguments "App.__call__" ["send"]))
  | factory name fullName .. =>
    .handler (.mk name fun _ _ =>
      .fail (.misuse s!"{fullName}() takes 0 positional arguments but 2 were given"))
  | tool =>
    .handler (.mk "main" fun _ _ =>
      .fail (.misuse "main() takes from 0 to 1 positional arguments but 2 were given"))
  | target => .inert target.typeName

/-- Whether a target counts as given. -/
def isGiven : Target → Bool
  | routes table => !table.isEmpty
  | value v => v.isTruthy
  | _ => true

/-- The places that a search path leads to, if the target can be gone through item by
item; only texts are places. Nothing at all stands for the path that is searched
otherwise. -/
def places? : Target → Option (List String)
  | routes table => some (table.map (·.1))
  | trace _ | value .null | value (.bytes _) => some []
  | value (.str s) => some (s.toList.map (·.toString))
  | value (.list items) | value (.tuple items) => some (items.filterMap text?)
  | value (.dict entries) => some (entries.filterMap fun entry => text? entry.1)
  | _ => none
where
  /-- The text that a value is. -/
  text? : Value → Option String
    | .str s => some s
    | _ => none

end Target

/-- A table of names. -/
abbrev Names := List (String × Target)

/-- A module: what stands under its names, and what it says of a name that it has
not got if it has words of its own for that. -/
structure Module where
  names : Names
  refusal? : Option (String → Failure) := none

/-- The modules there are. -/
abbrev Modules := List (String × Module)

namespace Module

/-- The name under which a module says what it is called. -/
def selfName : String := "__name__"

/-- The name of the one to ask for a name that is missing. -/
def askName : String := "__getattr__"

/-- The name of the search path of a package. -/
def pathName : String := "__path__"

/-- The name of the table of names. -/
def tableName : String := "__dict__"

/-- The name of the record of how a module was found. -/
def recordName : String := "__spec__"

/-- The name of the place that a module was found in. -/
def placeName : String := "__file__"

/-- The name of the class of a module. -/
def className : String := "__class__"

/-- The name of the notes on the other names. -/
def notesName : String := "__annotations__"

/-- What describes a module: its name, and four things that nothing is known of. -/
def descriptions (name : String) : Names :=
  [(selfName, .value (.str name)), ("__doc__", .value .null),
    ("__package__", .value .null), ("__loader__", .value .null), (recordName, .value .null)]

/-- The module of a name. A description that is given anew keeps its place. -/
def ofNames (name : String) (own : Names) : Module :=
  { names := Ordered.update (descriptions name) own }

/-- The module with something under a name. Its table of names cannot be replaced, and
its class only by another class, which nothing here is. -/
def put (m : Module) (name : String) (target : Target) : Except Failure Module :=
  if name = tableName then .error (.raised "AttributeError" "readonly attribute")
  else if name = className then
    .error (.misuse s!"{className} must be set to a class, not '{target.typeName}' object")
  else .ok { m with names := Ordered.put name target m.names }

/-- The table of names as a table of routes. -/
def table (m : Module) : Routes :=
  m.names.map fun (name, target) => (name, target.registrand)

/-- What a module is called where a name is missing: by its name, if that is a text. -/
def display (m : Module) : String :=
  match m.names.lookup selfName with
  | some (.value (.str name)) => s!"module '{name}'"
  | _ => "module"

/-- What is said of a name that the module has not got. -/
def missing (m : Module) (name : String) : Failure :=
  match m.refusal? with
  | some refusal => refusal name
  | none =>
    match m.names.lookup askName with
    | some asked => asked.unwelcome
    | none => .absentName m.display name

/-- What showing a module comes to. A record of how it was found is shown by its name,
and of all that can be put in its place nothing has one; without a record it is
asked for its place, which it need not have. -/
def shown (m : Module) : Except Failure Target :=
  let text : Target := .value (.str "")
  match m.names.lookup recordName with
  | some (.trace _) => .ok text
  | record? =>
    match record?.filter (·.isGiven), m.names.lookup placeName with
    | some record, _ => .error (.missingMember record.typeName "name")
    | none, some _ => .ok text
    | none, none =>
      let failure := m.missing placeName
      if failure.isAbsence then .ok text else .error failure

/-- An operation that comes to a value. -/
def yields (name : String) (value : Value) : String × Target :=
  (name, .factory name name [] (.ok (.value value)))

/-- An operation that cannot be called with nothing. -/
def wants (name message : String) : String × Target :=
  (name, .factory name name [] (.error (.misuse message)))

/-- What is said of a missing operand. -/
def oneWanted : String := "expected 1 argument, got 0"

/-- What is said of a new module that is given no name. -/
def nameWanted : String := "module() missing required argument 'name' (pos 1)"

/-- The operations that anything has, a module too. -/
def operations (m : Module) : Names :=
  [wants className nameWanted, wants "__init__" nameWanted,
    wants "__new__" "module.__new__(): not enough arguments",
    wants "__eq__" oneWanted, wants "__ne__" oneWanted, wants "__lt__" oneWanted,
    wants "__le__" oneWanted, wants "__gt__" oneWanted, wants "__ge__" oneWanted,
    wants "__delattr__" oneWanted, wants "__getattribute__" oneWanted,
    wants "__setattr__" " expected 2 arguments, got 0",
    wants "__format__" "__format__() takes exactly one argument (0 given)",
    wants "__reduce__" "cannot pickle 'module' object",
    wants "__reduce_ex__" "__reduce_ex__() takes exactly one argument (0 given)",
    ("__repr__", .factory "__repr__" "__repr__" [] m.shown),
    ("__str__", .factory "__str__" "__str__" [] m.shown),
    yields "__hash__" (.int 0), yields "__sizeof__" (.int 0),
    yields "__dir__" (.list []), yields "__getstate__" (.dict []),
    yields "__init_subclass__" .null,
    yields "__subclasshook__" (.object "NotImplementedType")]

/-- What stands under a name. -/
def lookup? (m : Module) (name : String) : Option Target :=
  let special : Names := [(tableName, .routes m.table), (notesName, .routes [])]
  (m.names ++ special ++ m.operations).lookup name

/-- Looks a name up. -/
def find (m : Module) (name : String) : Except Failure Target :=
  match m.lookup? name with
  | some target => .ok target
  | none => .error (m.missing name)

end Module

end WebRouter.CommandLine
