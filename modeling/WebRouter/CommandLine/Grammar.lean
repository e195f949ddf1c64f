import WebRouter.Text.Digit

/-!
# Reading command lines

A grammar says which options there are, each followed by a value, and which
positional arguments. Reading takes the arguments from left to right:

* the name of an option may be cut short as long as only one option begins so,
  and the value may be joined to a name with `=`;
* a joined value that is a `--` is taken off, and the option is left with no value;
* `-h` and `--help` end the reading;
* what looks like an option but is none is left over, unless it is a negative
  number or holds a space, for then it is an ordinary argument;
* after a first `--` everything is an ordinary argument. The `--` itself goes
  to a positional argument beside it and is taken off there.

All arguments are classified (`classify`) before the first one counts for
anything, so a name cut too short is refused wherever it stands.
-/

namespace WebRouter.CommandLine

/-- Why reading ended before the last argument. -/
inductive Stop where
  | help
  | misuse
  deriving DecidableEq

/-- What is done with arguments: they are taken down in a draft of type `σ`. -/
abbrev Store (α σ : Type) := α → σ → Except Stop σ

/-- A positional argument. -/
inductive Positional (σ : Type) where
  /-- one argument; there is none left of it if it was a `--` and was taken off -/
  | one (store : Store (Option String) σ)
  /-- an argument and everything after it -/
  | all (store : Store (List String) σ)

/-- The options and the positional arguments of a command. There is no value of an
option left if it was a `--` and was taken off. -/
structure Grammar (σ : Type) where
  options : List (String × Store (Option String) σ)
  positionals : List (Positional σ)

/-- What an option does. -/
inductive Action (σ : Type) where
  | help
  | take (store : Store (Option String) σ)

/-- A value that is joined to the name of an option. -/
inductive Joined where
  /-- to a name with two dashes, by `=` -/
  | long (value : String)
  /-- to a name with a single dash, with or without `=` -/
  | short (value : String)

/-- What an argument is, by its looks. -/
inductive Kind (σ : Type) where
  | ordinary
  | separator
  | option (action : Action σ) (joined : Option Joined)
  | unknownOption

/-- What stands between the options and the rest. -/
def separator : String := "--"

/-- What an argument leaves as a value: a separator is taken off. -/
def kept? (arg : String) : Option String :=
  if arg = separator then none else some arg

/-- The joined value as it was written. -/
def Joined.value : Joined → String
  | long value => value
  | short value => value

/-- How asking for help with something joined to it ends: after a single dash the
letters are read one by one, and all of them have to ask for help. -/
def Joined.help : Joined → Stop
  | long _ => .misuse
  | short value => if value ≠ "" ∧ value.toList.all (· = 'h') then .help else .misuse

namespace Grammar

variable {σ : Type}

/-- All options by their names. -/
def actions (g : Grammar σ) : List (String × Action σ) :=
  [("-h", .help), ("--help", .help)] ++ g.options.map fun option => (option.1, .take option.2)

/-- Cuts an argument at its first `=`, if it has one. -/
def cutAtEquals? (arg : String) : Option (String × String) :=
  let chars := arg.toList
  if chars.contains '=' then
    some (String.ofList (chars.takeWhile (· != '=')),
      String.ofList ((chars.dropWhile (· != '=')).drop 1))
  else none

/-- The options that an argument in long form may be short for. -/
def longCandidates (g : Grammar σ) (arg : String) : List (Action σ × Option Joined) :=
  let (name, joined) :=
    match cutAtEquals? arg with
    | some (name, value) => (name, some (Joined.long value))
    | none => (arg, none)
  (g.actions.filter fun option => name.toList.isPrefixOf option.1.toList).map fun option =>
    (option.2, joined)

/-- The options that a word with a single dash may stand for: one named by its
first letter, or a longer one that begins so. -/
def shortCandidates (g : Grammar σ) (arg : String) : List (Action σ × Option Joined) :=
  g.actions.filterMap fun option =>
    if option.1.toList = arg.toList.take 2 then
      some (option.2, some (.short (String.ofList (arg.toList.drop 2))))
    else if arg.toList.isPrefixOf option.1.toList then some (option.2, none)
    else none

/-- Whether a text is a run of digits of any script. -/
def areDigits (text : List Char) : Bool :=
  text.all fun c => (Text.digitValue? c).isSome

/-- Whether an argument is a negative number, with or without a point; a line
break may follow. -/
def isNegativeNumber (arg : String) : Bool :=
  match arg.toList with
  | '-' :: rest =>
    let number := if rest.getLast? = some '\n' then rest.dropLast else rest
    match number.dropWhile fun c => (Text.digitValue? c).isSome with
    | [] => !number.isEmpty
    | '.' :: places => !places.isEmpty && areDigits places
    | _ => false
  | _ => false

/-- What an argument is; an ambiguous one is refused. -/
def classify (g : Grammar σ) (arg : String) : Except Stop (Kind σ) :=
  match arg.toList with
  | '-' :: second :: _ =>
    match g.actions.lookup arg with
    | some action => .ok (.option action none)
    | none =>
      let named? := (cutAtEquals? arg).bind fun (name, value) =>
        (g.actions.lookup name).map fun action =>
          Kind.option action (some (if second = '-' then .long value else .short value))
      match named? with
      | some kind => .ok kind
      | none =>
        match if second = '-' then g.longCandidates arg else g.shortCandidates arg with
        | [(action, joined)] => .ok (.option action joined)
        | _ :: _ :: _ => .error .misuse
        | [] =>
          if isNegativeNumber arg || arg.toList.contains ' ' then .ok .ordinary
          else .ok .unknownOption
  | _ => .ok .ordinary

/-- An argument and what it is. -/
abbrev Marked (σ : Type) := String × Kind σ

/-- Classifies all arguments. After the first separator they are all ordinary. -/
def mark (g : Grammar σ) : List String → Except Stop (List (Marked σ))
  | [] => .ok []
  | arg :: rest =>
    if arg = separator then .ok ((arg, .separator) :: rest.map ((·, .ordinary)))
    else do return (arg, ← g.classify arg) :: (← g.mark rest)

/-- What is known after some arguments have been read: the draft, the positional
arguments that are still to come, and what is left over. -/
structure Progress (σ : Type) where
  draft : σ
  positionals : List (Positional σ)
  leftover : List String := []

/-- Reads marked arguments. -/
def consume (p : Progress σ) : List (Marked σ) → Except Stop (Progress σ)
  | [] => .ok p
  | (_, .option .help none) :: _ => .error .help
  | (_, .option .help (some joined)) :: _ => .error joined.help
  | (_, .option (.take store) (some joined)) :: rest => do
    consume { p with draft := ← store (kept? joined.value) p.draft } rest
  | (_, .option (.take store) none) :: (value, .ordinary) :: rest => do
    consume { p with draft := ← store (some value) p.draft } rest
  | (_, .option (.take _) none) :: _ => .error .misuse
  | (arg, .unknownOption) :: rest => consume { p with leftover := p.leftover ++ [arg] } rest
  | (_, .separator) :: (arg, kind) :: rest =>
    match p.positionals with
    | [] => consume { p with leftover := p.leftover ++ [separator] } ((arg, kind) :: rest)
    | .one store :: positionals => do
      consume { p with draft := ← store (some arg) p.draft, positionals } rest
    | .all store :: positionals => do
      let draft ← store (separator :: arg :: rest.map (·.1)) p.draft
      return { p with draft, positionals }
  | [(_, .separator)] => .ok { p with leftover := p.leftover ++ [separator] }
  | (arg, .ordinary) :: rest =>
    match p.positionals with
    | [] => consume { p with leftover := p.leftover ++ [arg] } rest
    | .one store :: positionals => do
      let p := { p with draft := ← store (kept? arg) p.draft, positionals }
      match rest with
      | (_, .separator) :: rest => consume p rest
      | rest => consume p rest
    | .all store :: positionals => do
      return { p with draft := ← store (arg :: rest.map (·.1)) p.draft, positionals }

/-- Reads a command line into a draft. What is left over comes back with it. -/
def read (g : Grammar σ) (draft : σ) (args : List String) : Except Stop (Progress σ) := do
  consume { draft, positionals := g.positionals } (← g.mark args)

end Grammar

end WebRouter.CommandLine
