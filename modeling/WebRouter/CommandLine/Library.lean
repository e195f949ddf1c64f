import WebRouter.Catalogue
import WebRouter.CommandLine.Module

/-!
# The library's own modules

The library can be named on its own command line like anything else: it is a
package, and its parts are modules. A `Part` says what is defined in it and what
it takes over from other parts; `modules` turns the parts into modules. Whatever
is defined can be called, and most of it cannot do with nothing.
-/

namespace WebRouter.CommandLine.Library

/-- A value, of which the kind is told. -/
def value (name kind : String) : String × Target :=
  (name, .value (.object kind))

/-- A class that is content with nothing. -/
def makes (name : String) : String × Target :=
  (name, .factory name name [] (.ok (.value (.object name))))

/-- A function that is content with nothing, and the kind of what it gives. -/
def returns (name kind : String) : String × Target :=
  (name, .factory name name [] (.ok (.value (.object kind))))

/-- A function that cannot do without some arguments. -/
def needs (name : String) (args : List String) : String × Target :=
  (name, .factory name name [] (.error (.missingArguments name args)))

/-- A class that cannot do without some arguments. -/
def builtFrom (name : String) (args : List String) : String × Target :=
  (name, .factory name name [] (.error (.missingArguments s!"{name}.__init__" args)))

/-- A function or a class that refuses to be called with nothing. -/
def refuses (name message : String) : String × Target :=
  (name, .factory name name [] (.error (.misuse message)))

/-- A class that leaves operations open, so that nothing can be made of it alone. -/
def abstract (name kind : String) (operations : List String) : String × Target :=
  let noun := if operations.length = 1 then "method" else "methods"
  refuses name
    (s!"Can't instantiate abstract class {kind} with abstract {noun} "
      ++ ", ".intercalate operations)

/-- A class of anything that can be called. -/
def callableKind (name : String) : String × Target :=
  abstract name "Callable" ["__call__"]

/-- A class of anything that can be changed by keys. -/
def mappingKind (name : String) : String × Target :=
  abstract name "MutableMapping"
    ["__delitem__", "__getitem__", "__iter__", "__len__", "__setitem__"]

/-- Where parts of the library take from that are not the library's: each name with
what it stands for. -/
def foreign : Names :=
  [callableKind "Callable", mappingKind "MutableMapping",
    abstract "Mapping" "Mapping" ["__getitem__", "__iter__", "__len__"],
    abstract "Awaitable" "Awaitable" ["__await__"], abstract "Iterator" "Iterator" ["__next__"],
    refuses "Any" "Any cannot be instantiated",
    refuses "TypeAlias" "Cannot instantiate typing.TypeAlias",
    refuses "MappingProxyType" "mappingproxy() missing required argument 'mapping' (pos 1)",
    makes "Generic", builtFrom "TypeVar" ["name"], returns "dataclass" "function",
    returns "field" "Field", needs "replace" ["obj"], needs "unquote" ["string"],
    needs "quote" ["string"], needs "urlencode" ["query"], value "annotations" "_Feature"]
    ++ ["argparse", "html", "importlib", "inspect", "json", "json_module", "logging", "re", "sys",
      "threading", "traceback"].map (value · "module")

/-- A new application without routes. -/
def newApp : Target :=
  .factory "App" "App" [] (.ok (.app (App.create {} none LogHook.listening none).app))

/-- A part of the library. -/
structure Part where
  /-- the name below the library's -/
  name : String
  isPackage : Bool := false
  /-- whether there is anything in a package besides its parts -/
  hasSource : Bool := true
  own : Names := []
  /-- what is taken over, by the parts it is defined in -/
  uses : List (String × List String) := []
  /-- what is taken over from elsewhere -/
  borrows : List String := []
  /-- the names that are explained by something else, each with that something -/
  notes : List (String × String) := []

/-- The parts of the library. -/
def parts : List Part :=
  [{ name := "_internal", isPackage := true, hasSource := false },
    { name := "_internal.asgi",
      own := [mappingKind "Scope", callableKind "Receive", callableKind "Send"],
      borrows := ["Any", "Awaitable", "Callable", "MutableMapping", "TypeAlias"],
      notes := [("Scope", "TypeAlias"), ("Receive", "TypeAlias"), ("Send", "TypeAlias")] },
    { name := "_internal.atomic",
      own := [value "T" "TypeVar", builtFrom "AtomicRef" ["value"]],
      borrows := ["Generic", "TypeVar", "threading"] },
    { name := "_internal.invoke", own := [needs "invoke" ["handler"]],
      borrows := ["Any", "inspect"] },
    { name := "_internal.types",
      own := [callableKind "Handler", callableKind "LogHook", callableKind "RequestHook"],
      borrows := ["Any", "Callable", "TypeAlias"],
      notes := [("Handler", "TypeAlias"), ("LogHook", "TypeAlias"), ("RequestHook", "TypeAlias")] },
    { name := "app", own := [("App", newApp), needs "_run_hooks" ["hooks"]],
      uses := [("_internal.asgi", ["Receive", "Scope", "Send"]), ("_internal.invoke", ["invoke"]),
        ("_internal.types", ["Handler", "LogHook", "RequestHook"]), ("config", ["AppConfig"]),
        ("routing.route", ["RouteMatch"]), ("routing.router", ["Router"]),
        ("server.handler", ["handle_request"])],
      borrows := ["Any", "Callable", "Mapping"] },
    { name := "cli", isPackage := true, own := [("main", .tool)],
      borrows := ["argparse", "logging", "sys"] },
    { name := "cli._match", own := [needs "run_match" ["args"]],
      uses := [("cli._resolve", ["resolve_or_exit"]), ("http.query", ["parse_query_string"])],
      borrows := ["argparse", "json"] },
    { name := "cli._resolve",
      own := [value "DEFAULT_ATTRIBUTE" "str", needs "resolve_app" ["import_string"],
        needs "_as_app" ["target", "origin"], needs "resolve_or_exit" ["import_string"]],
      uses := [("app", ["App"]), ("errors", ["JunctionError"])],
      borrows := ["Any", "Mapping", "importlib", "sys"] },
    { name := "cli._routes", own := [needs "run_routes" ["args"]],
      uses := [("cli._resolve", ["resolve_or_exit"])],
      borrows := ["argparse"] },
    { name := "cli._run", own := [needs "run_server" ["args"]],
      uses := [("cli._resolve", ["resolve_or_exit"])],
      borrows := ["argparse"] },
    { name := "config",
      own := [value "DEFAULT_CACHE_LIMIT" "int", needs "check_cache_limit" ["value"],
        makes "AppConfig"],
      uses := [("errors", ["ConfigurationError"])],
      borrows := ["dataclass"] },
    { name := "errors",
      own := [makes "JunctionError", makes "ConfigurationError",
        builtFrom "RegistrationError" ["template", "reason"], builtFrom "HTTPError" ["status"],
        makes "NotFound"],
      borrows := ["dataclass"] },
    { name := "http", isPackage := true, hasSource := false },
    { name := "http.query",
      own := [value "QueryValue" "UnionType", value "_OBJECT_KEY" "Pattern",
        value "_SUBKEY" "Pattern", builtFrom "CoercionRule" ["name", "pattern", "convert"],
        needs "_unquote" ["m"], value "COERCION_RULES" "tuple", needs "coerce_value" ["value"],
        needs "deep_merge" ["base", "incoming"], needs "merge_into" ["target", "incoming"],
        needs "parse_object_key" ["key"], needs "nest" ["path", "value"],
        needs "split_pairs" ["raw"], needs "parse_query_string" ["raw"]],
      borrows := ["Any", "Callable", "Mapping", "TypeAlias", "dataclass", "re", "unquote"],
      notes := [("QueryValue", "TypeAlias"), ("COERCION_RULES", "tuple")] },
    { name := "http.request",
      own := [builtFrom "Request" ["method", "path"], builtFrom "RequestState" ["path"]],
      uses := [("_internal.asgi", ["Scope"]), ("http.query", ["parse_query_string"])],
      borrows := ["Any", "Mapping", "MappingProxyType", "annotations", "dataclass", "field",
        "replace"] },
    { name := "http.response", own := [value "NOT_FOUND_BODY" "str", makes "Response"],
      borrows := ["dataclass", "replace"] },
    { name := "routing", isPackage := true },
    { name := "routing.cache", own := [makes "MatchCache"],
      uses := [("routing.route", ["Route"])],
      borrows := ["Iterator", "Mapping", "MappingProxyType"] },
    { name := "routing.route",
      own := [builtFrom "Route" ["template", "pattern", "param_names", "handler"],
        builtFrom "RouteMatch" ["route", "path_params"]],
      uses := [("errors", ["RegistrationError"]), ("routing.template", ["compile_template"])],
      borrows := ["Any", "Callable", "dataclass", "re"] },
    { name := "routing.router",
      own := [value "logger" "Logger", value "NOT_FOUND_KEY" "str", makes "RouterState",
        makes "Router"],
      uses := [("_internal.atomic", ["AtomicRef"]), ("_internal.types", ["LogHook"]),
        ("config", ["DEFAULT_CACHE_LIMIT", "check_cache_limit"]),
        ("routing.cache", ["MatchCache"]), ("routing.route", ["Route", "RouteMatch"])],
      borrows := ["Any", "Callable", "Mapping", "MappingProxyType", "dataclass", "field",
        "logging", "replace"] },
    { name := "routing.template",
      own := [value "PARAM_PREFIX" "str", value "SEPARATOR" "str", value "PARAM_PATTERN" "str",
        builtFrom "CompiledTemplate" ["pattern", "param_names"],
        needs "split_template" ["template"], needs "is_param_segment" ["segment"],
        needs "compile_template" ["template"]],
      uses := [("errors", ["RegistrationError"])],
      borrows := ["dataclass", "re"] },
    { name := "server", isPackage := true, hasSource := false },
    { name := "server.dev", own := [needs "run_dev_server" ["app", "host", "port"]],
      borrows := ["annotations"] },
    { name := "server.errors",
      own := [value "logger" "Logger", needs "handle_http_error" ["exc", "request"],
        needs "handle_internal_error" ["exc", "request"]],
      uses := [("errors", ["HTTPError"]), ("http.request", ["Request"]),
        ("http.response", ["Response"])],
      borrows := ["html", "logging", "traceback"] },
    { name := "server.handler",
      own := [value "logger" "Logger", needs "dispatch" ["request", "router"],
        needs "handle_request" ["scope", "receive", "send"]],
      uses := [("_internal.asgi", ["Receive", "Scope", "Send"]), ("_internal.invoke", ["invoke"]),
        ("_internal.types", ["RequestHook"]), ("errors", ["HTTPError"]),
        ("http.request", ["Request", "RequestState"]), ("http.response", ["Response"]),
        ("routing.router", ["Router"]),
        ("server.errors", ["handle_http_error", "handle_internal_error"]),
        ("server.negotiation", ["to_response"]), ("server.sender", ["send_response"])],
      borrows := ["logging"] },
    { name := "server.negotiation", own := [needs "to_response" ["value"]],
      uses := [("http.response", ["Response"])],
      borrows := ["Any", "json_module"] },
    { name := "server.sender",
      own := [needs "_body_allowed" ["status"], needs "send_response" ["response", "send"]],
      uses := [("_internal.asgi", ["Send"]), ("http.response", ["Response"])] },
    { name := "testing", isPackage := true, own := [value "__all__" "list"],
      uses := [("testing.client", ["TestClient"])] },
    { name := "testing.client", own := [builtFrom "TestClient" ["app"]],
      uses := [("app", ["App"]), ("http.response", ["Response"])],
      borrows := ["Any", "quote", "urlencode"] }]

/-- Something that is defined in a part. -/
def defined? (part name : String) : Option Target :=
  (parts.find? (·.name == part)).bind fun p => p.own.lookup name

/-- The names of what is taken over from a part. -/
def taken (part : String) (names : List String) : Names :=
  names.filterMap fun name => (defined? part name).map (name, ·)

/-- What is taken over from elsewhere. -/
def borrowed (names : List String) : Names :=
  foreign.filter (·.1 ∈ names)

/-- Notes on names, as a table of what explains them. There is none if nothing is
explained. -/
def noted (notes : List (String × String)) : Names :=
  if notes.isEmpty then []
  else
    [(Module.notesName, .routes (notes.map fun (name, explanation) =>
      (name, .handler (.mk explanation fun _ _ => .done .null))))]

/-- The parts right below something. -/
def children (name : String) : Names :=
  parts.filterMap fun part =>
    match (Text.pieces '.' part.name).reverse with
    | [] => none
    | last :: above =>
      if ".".intercalate above.reverse = name then some (value last "module") else none

/-- What describes a module of the library. -/
def description (fullName : String) (isPackage hasSource : Bool) : Names :=
  let known (kind : String) := if hasSource then kind else Value.typeName .null
  [(Module.selfName, .value (.str fullName)), value "__doc__" (known "str"),
    value "__package__" "str",
    value "__loader__" (if hasSource then "SourceFileLoader" else "NamespaceLoader"),
    (Module.recordName, .trace "ModuleSpec"), value Module.placeName (known "str")]
    ++ (if isPackage then
        [(Module.pathName, if hasSource then .value (.list []) else .trace "_NamespacePath")]
      else [])
    ++ (if hasSource then
        [value "__cached__" "str",
          ("__builtins__", .value (.dict [(.str Module.selfName, .str "builtins")]))]
      else [])

/-- A part as a module. -/
def Part.module (part : Part) : String × Module :=
  let fullName := s!"{Catalogue.library}.{part.name}"
  (fullName,
    { names := description fullName part.isPackage part.hasSource ++ part.own
        ++ children part.name ++ borrowed part.borrows ++ noted part.notes
        ++ part.uses.flatMap fun (part, names) => taken part names })

/-- The library as a module. It takes the public names over from its parts, and
says itself what is missing. -/
def whole : String × Module :=
  (Catalogue.library,
    { names := description Catalogue.library true true
        ++ [value "__version__" "str", value "__all__" "list", needs Module.askName ["name"]]
        ++ children "" ++ Catalogue.definitions.flatMap fun (name, part) => taken part [name]
      refusal? := some (.unknownName Catalogue.library) })

/-- The modules of the library. -/
def modules : Modules :=
  whole :: parts.map Part.module

end WebRouter.CommandLine.Library
