import WebRouter.Failure

/-!
# Configuration

The settings of an application. All but one are passed on as they are given;
the size limit of the match cache is checked, here and wherever a router is made
on its own.
-/

namespace WebRouter

/-- How many paths a match cache may hold: at least one. -/
abbrev CacheLimit := { n : Nat // 0 < n }

namespace CacheLimit

/-- The limit that a value sets, which has to be a positive integer. A truth
value is none. -/
def ofValue (value : Value) : Except Failure CacheLimit :=
  let refused : Except Failure CacheLimit :=
    .error (.configuration s!"cache_limit must be a positive integer, got {value.literal}")
  match value with
  | .int i => if h : 0 < i.toNat then .ok ⟨i.toNat, h⟩ else refused
  | _ => refused

/-- The limit where none is set. -/
def default : CacheLimit :=
  ⟨1024, by decide⟩

end CacheLimit

/-- The settings of an application. -/
structure Config where
  host : Value := .str "127.0.0.1"
  port : Value := .int 8000
  debug : Value := .bool false
  cacheLimit : CacheLimit := CacheLimit.default
  logLevel : Value := .str "info"

namespace Config

/-- The settings as given, with the limit of the cache not yet checked. -/
structure Draft where
  settings : Config := {}
  cacheLimit : Value := .int CacheLimit.default.val

/-- Takes down one setting. A name that is no setting's is refused, and so is
`self`, the name under which the configuration that is being made is known. -/
def Draft.set (draft : Draft) (name : String) (value : Value) : Except Failure Draft :=
  match name with
  | "host" => .ok { draft with settings := { draft.settings with host := value } }
  | "port" => .ok { draft with settings := { draft.settings with port := value } }
  | "debug" => .ok { draft with settings := { draft.settings with debug := value } }
  | "log_level" => .ok { draft with settings := { draft.settings with logLevel := value } }
  | "cache_limit" => .ok { draft with cacheLimit := value }
  | "self" =>
    .error (.misuse "AppConfig.__init__() got multiple values for argument 'self'")
  | _ =>
    .error (.misuse s!"AppConfig.__init__() got an unexpected keyword argument '{name}'")

/-- The configuration that differs from the usual one in the named settings. -/
def ofFields (fields : List (String × Value)) : Except Failure Config := do
  let draft ← fields.foldlM (fun draft field => Draft.set draft field.1 field.2) ({} : Draft)
  let limit ← CacheLimit.ofValue draft.cacheLimit
  return { draft.settings with cacheLimit := limit }

/-- The settings by name. -/
def fields (config : Config) : List (String × Value) :=
  [("host", config.host), ("port", config.port), ("debug", config.debug),
    ("cache_limit", .int config.cacheLimit.val), ("log_level", config.logLevel)]

end Config

end WebRouter
