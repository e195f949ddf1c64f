import WebRouter.Template
import WebRouter.Text.Utf8
import WebRouter.Value.Literal

/-!
# What can go wrong

A `Failure` is the cause of a call that gave no result. The wording of every
cause is in `message`, and the kind it is reported as, where a page or a log
names it, in `kind`. What a value is may have a name of any length; some messages
hold only its first bytes.
-/

namespace WebRouter

/-- Why a route could not be registered. -/
inductive RegistrationReason where
  /-- what was registered cannot be called; `kind` is what it is -/
  | notCallable (kind : String)
  | template (defect : Template.Defect)
  /-- a reason in the caller's own words -/
  | other (text : String)
  deriving DecidableEq, Repr

/-- The reason in words. -/
def RegistrationReason.text : RegistrationReason → String
  | notCallable kind => s!"handler {Text.Quoted.text kind} is not callable"
  | template .unnamed => "unnamed parameter"
  | template (.duplicate name) => s!"duplicate parameter {Text.Quoted.text name}"
  | other text => text

/-- A route table that was refused: the first route at fault, and why. -/
structure RegistrationError where
  template : String
  reason : RegistrationReason
  deriving DecidableEq, Repr

/-- The error in words. -/
def RegistrationError.message (e : RegistrationError) : String :=
  s!"Invalid route {Text.Quoted.text e.template}: {e.reason.text}"

/-- An error that a handler raises to be answered with a status of its own. Nothing
checks its parts when it is raised; that they are an integer, a text and pairs of
texts, as they are declared to be, is an idealisation. The parts of a `Response`, in
contrast, may be any values. -/
structure HttpError where
  status : Int
  detail : String := ""
  headers : List (String × String) := []
  /-- raised as the 404 that means "nothing here" -/
  isNotFound : Bool := false
  deriving DecidableEq, Repr

/-- The 404 that means "nothing here". -/
def HttpError.notFound (detail : String) : HttpError :=
  { status := 404, detail := detail, isNotFound := true }

/-- The detail of a 404 that is raised without one. -/
def HttpError.notFoundDetail : String :=
  "Not Found"

/-- The status of the error, and its detail unless that is empty. -/
def HttpError.message (e : HttpError) : String :=
  let status := String.ofList (Number.intText e.status)
  if e.detail = "" then status else s!"{status}: {e.detail}"

/-- The cause of a call that gave no result. -/
inductive Failure where
  | registration (error : RegistrationError)
  | configuration (message : String)
  | http (error : HttpError)
  /-- a value of this kind is no answer to a request -/
  | noResponse (kind : String)
  /-- a value of this kind cannot be the key of a JSON object -/
  | jsonKey (kind : String)
  /-- an integer too long to be written out -/
  | tooManyDigits
  /-- something asked of a value that its kind has not got -/
  | missingMember (kind member : String)
  /-- a name that a part of the library does not have -/
  | unknownName (part name : String)
  /-- a name that what is described does not have -/
  | absentName (holder name : String)
  /-- a value of this kind has no order with numbers -/
  | unordered (kind : String)
  /-- a value of this kind cannot be called -/
  | uncallable (kind : String)
  /-- a value of this kind cannot be gone through item by item -/
  | uniterable (kind : String)
  /-- a text with a character that has no byte -/
  | unencodable
  /-- bytes that are not the encoding of a text -/
  | undecodable
  /-- a mapping without this key -/
  | missingKey (key : String)
  /-- a call of something, by its name, without arguments that it needs -/
  | missingArguments (callee : String) (args : List String)
  /-- a call with arguments that do not fit -/
  | misuse (message : String)
  /-- raised by code that is not the library's -/
  | raised (kind message : String)

/-- Names in a row, each in quotes, the last one after an `and`. -/
def enumeration (names : List String) : String :=
  let quoted := names.map fun name => s!"'{name}'"
  match quoted.reverse with
  | [] => ""
  | [only] => only
  | [second, first] => s!"{first} and {second}"
  | last :: rest => ", ".intercalate rest.reverse ++ s!", and {last}"

namespace Failure

/-- How many bytes of a kind's name are told where a member of it is missing. -/
def ownerLimit : Nat := 50

/-- How many bytes of a kind's name are told where a value of it does not fit. -/
def kindLimit : Nat := 100

/-- How many bytes of a kind's name are told where a value of it has not got the
use that is made of it. -/
def useLimit : Nat := 200

/-- The cause in words. -/
def message : Failure → String
  | registration e => e.message
  | configuration message => message
  | http e => e.message
  | noResponse kind =>
    s!"Cannot convert {kind} to a response. "
      ++ "Return str, bytes, dict, list, None, a (value, status) tuple, or Response."
  | jsonKey kind =>
    s!"keys must be str, int, float, bool or None, not {Text.Utf8.clip kindLimit kind}"
  | tooManyDigits =>
    s!"Exceeds the limit ({Number.maxDigits} digits) for integer string conversion; "
      ++ "use sys.set_int_max_str_digits() to increase the limit"
  | missingMember kind member =>
    s!"'{Text.Utf8.clip ownerLimit kind}' object has no attribute '{member}'"
  | unknownName part name => s!"module '{part}' has no attribute {Text.Quoted.text name}"
  | absentName holder name => s!"{holder} has no attribute '{name}'"
  | uncallable kind => s!"'{Text.Utf8.clip useLimit kind}' object is not callable"
  | uniterable kind => s!"'{Text.Utf8.clip useLimit kind}' object is not iterable"
  | unordered kind =>
    s!"'<=' not supported between instances of 'int' and '{Text.Utf8.clip kindLimit kind}'"
  | unencodable => "a character of the text has no byte"
  | undecodable => "the bytes are not the encoding of a text"
  | missingKey key => Text.Quoted.text key
  | missingArguments callee args =>
    let noun := if args.length = 1 then "argument" else "arguments"
    s!"{callee}() missing {args.length} required positional {noun}: {enumeration args}"
  | misuse message => message
  | raised _ message => message

/-- The kind a failure is reported as. -/
def kind : Failure → String
  | registration _ => "RegistrationError"
  | configuration _ => "ConfigurationError"
  | http e => if e.isNotFound then "NotFound" else "HTTPError"
  | noResponse _ | jsonKey _ | unordered _ | uncallable _ | uniterable _ => "TypeError"
  | missingArguments .. | misuse _ => "TypeError"
  | tooManyDigits => "ValueError"
  | missingMember .. | unknownName .. | absentName .. => "AttributeError"
  | unencodable => "UnicodeEncodeError"
  | undecodable => "UnicodeDecodeError"
  | missingKey _ => "KeyError"
  | raised kind _ => kind

/-- Whether a failure says that there is nothing under a name. -/
def isAbsence : Failure → Bool
  | missingMember .. | unknownName .. | absentName .. => true
  | _ => false

/-- The families of this library's own errors that a failure belongs to, the
widest first. -/
def families : Failure → List String
  | registration _ => ["JunctionError", "ConfigurationError", "RegistrationError"]
  | configuration _ => ["JunctionError", "ConfigurationError"]
  | http e =>
    if e.isNotFound then ["JunctionError", "HTTPError", "NotFound"]
    else ["JunctionError", "HTTPError"]
  | _ => []

/-- The kind of a failure as a debug page names it, this library's own errors
with the place they are defined in. -/
def fullKind (f : Failure) : String :=
  if f.families.isEmpty then f.kind else s!"junction.errors.{f.kind}"

end Failure

end WebRouter
