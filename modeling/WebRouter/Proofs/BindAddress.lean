import WebRouter.CommandLine.Report
import WebRouter.Proofs.ReadingArguments

/-!
# Where a server listens

An application is served where its settings say, unless a host or a port is given. It can
be given to the application itself or on a command line, there before or behind the name
of the application, with the value joined to the option or after it, and more than once
(`BindOption`). Reading the command line option by option takes down what was given last
(`ServeLine.command_run`). The tool as a whole classifies all of its arguments before it knows
what the command is, and does not mistake the options of the command for its own
(`ServeLine.read_arguments`).

What is given counts by what it is: an empty host and the port 0 are the same as none at
all, on either way.

> `bound_as_given`: a host that is not empty and a port that is not 0 are the ones that the
> server listens on, and otherwise it listens where the settings say, host and port each by
> themselves. So what is given counts, but for the empty host and the port 0.
-/

namespace WebRouter

/-- The settings of a server for an application, if this host and this port are given. -/
structure ListensOn (app : App) (host? : Option String) (port? : Option Int)
    (settings : ServerSettings) : Prop where
  host_given : ∀ host, host? = some host → host ≠ "" → settings.host = .str host
  host_left : host? = none ∨ host? = some "" → settings.host = app.config.host
  port_given : ∀ port, port? = some port → port ≠ 0 → settings.port = .int port
  port_left : port? = none ∨ port? = some 0 → settings.port = app.config.port
  workers : settings.workers = 1
  reload : settings.reload = app.config.debug
  logLevel : settings.logLevel = app.config.logLevel

/-- A host as an argument, which is nothing if none is given. -/
def hostArgument (host? : Option String) : Value :=
  (host?.map Value.str).getD .null

/-- A port as an argument, which is nothing if none is given. -/
def portArgument (port? : Option Int) : Value :=
  (port?.map Value.int).getD .null

/-- The host that is promised: the one that is given, or else the one of the settings. -/
def App.promisedHost (app : App) (host? : Option String) : Value :=
  (host?.map Value.str).getD app.config.host

/-- The port that is promised: the one that is given, or else the one of the settings. -/
def App.promisedPort (app : App) (port? : Option Int) : Value :=
  (port?.map Value.int).getD app.config.port

section Promises

variable {app : App} {host? : Option String} {port? : Option Int} {settings : ServerSettings}

/-- Only an empty host that is given can break the promise. -/
theorem ListensOn.host_iff (h : ListensOn app host? port? settings) :
    settings.host = app.promisedHost host? ↔ (host? = some "" → app.config.host = .str "") := by
  cases host? with
  | none => exact iff_of_true (h.host_left (.inl rfl)) nofun
  | some host =>
    by_cases hempty : host = ""
    · rw [h.host_left (.inr (congrArg some hempty)), hempty]
      exact ⟨fun hkept _ => hkept, fun hkept => hkept rfl⟩
    · exact iff_of_true (h.host_given host rfl hempty)
        fun hgiven => absurd (Option.some.inj hgiven) hempty

/-- Only the port 0 if it is given can break the promise. -/
theorem ListensOn.port_iff (h : ListensOn app host? port? settings) :
    settings.port = app.promisedPort port? ↔ (port? = some 0 → app.config.port = .int 0) := by
  cases port? with
  | none => exact iff_of_true (h.port_left (.inl rfl)) nofun
  | some port =>
    by_cases hzero : port = 0
    · rw [h.port_left (.inr (congrArg some hzero)), hzero]
      exact ⟨fun hkept _ => hkept, fun hkept => hkept rfl⟩
    · exact iff_of_true (h.port_given port rfl hzero)
        fun hgiven => absurd (Option.some.inj hgiven) hzero

end Promises

theorem Value.orElse_of_truthy {a : Value} (h : a.isTruthy = true) (b : Value) :
    a.orElse b = a :=
  if_pos h

theorem Value.orElse_of_falsy {a : Value} (h : a.isTruthy = false) (b : Value) :
    a.orElse b = b :=
  if_neg (by simp [h])

theorem App.serverSettings_listensOn (app : App) (host? : Option String) (port? : Option Int) :
    ListensOn app host? port? (app.serverSettings (hostArgument host?) (portArgument port?)) where
  host_given := by
    intro host hhost hne
    have htruthy : (hostArgument host?).isTruthy = true := by
      rw [hhost]
      exact bne_iff_ne.mpr hne
    show (hostArgument host?).orElse _ = _
    rw [Value.orElse_of_truthy htruthy, hhost]
    rfl
  host_left := by
    intro hleft
    have hfalsy : (hostArgument host?).isTruthy = false := by
      rcases hleft with hhost | hhost
      · rw [hhost]
        rfl
      · rw [hhost]
        decide
    exact Value.orElse_of_falsy hfalsy _
  port_given := by
    intro port hport hne
    have htruthy : (portArgument port?).isTruthy = true := by
      rw [hport]
      exact bne_iff_ne.mpr hne
    show (portArgument port?).orElse _ = _
    rw [Value.orElse_of_truthy htruthy, hport]
    rfl
  port_left := by
    intro hleft
    have hfalsy : (portArgument port?).isTruthy = false := by
      rcases hleft with hport | hport
      · rw [hport]
        rfl
      · rw [hport]
        rfl
    exact Value.orElse_of_falsy hfalsy _
  workers := rfl
  reload := rfl
  logLevel := rfl

namespace CommandLine

/-- An option of the command that serves, as it is written: with its value joined to it, or
in front of its value. A port is given by a text that reads as a number. -/
inductive BindOption where
  | host (isJoined : Bool) (value : String)
  | port (isJoined : Bool) (text : String) (number : Int)

namespace BindOption

/-- The name of the option. -/
def name : BindOption → String
  | host .. => "--host"
  | port .. => "--port"

/-- Whether the value is joined to the name. -/
def isJoined : BindOption → Bool
  | host isJoined _ => isJoined
  | port isJoined .. => isJoined

/-- The value as it is written. -/
def value : BindOption → String
  | host _ value => value
  | port _ text _ => text

/-- The arguments that the option is written as. -/
def words (o : BindOption) : List String :=
  if o.isJoined then [joinedTo o.name o.value] else [o.name, o.value]

/-- The host that the option gives. -/
def host? : BindOption → Option String
  | host _ value => some value
  | port .. => none

/-- The port that the option gives. -/
def port? : BindOption → Option Int
  | host .. => none
  | port _ _ number => some number

/-- An option that can be written so: its value is not mistaken for an option or for a
separator, and the text of a port is the numeral of it. -/
structure Writable (o : BindOption) : Prop where
  alone : o.isJoined = false → IsOrdinary o.value
  joined : o.isJoined = true → o.value ≠ separator
  numeral : ∀ number, o.port? = some number → Number.readInt? o.value = some number

/-- What the option takes down in a draft. -/
def take (draft : Draft) : BindOption → Draft
  | host _ value => { draft with host? := some value }
  | port _ _ number => { draft with port? := some number }

end BindOption

/-- The grammar of the command that serves. -/
def serveGrammar : Grammar Draft := ⟨bindOptions, [target]⟩

/-- What is done with the value of an option. -/
def BindOption.store : BindOption → Store (Option String) Draft
  | host .. => fun host? draft => .ok { draft with host? }
  | port .. => fun text? draft =>
    match text?.map Number.readInt? with
    | none => .ok { draft with port? := none }
    | some none => .error .misuse
    | some port? => .ok { draft with port? }

theorem serveGrammar_named : serveGrammar.Named :=
  Grammar.named_of_all (by decide)

theorem grammar_named : grammar.Named :=
  Grammar.named_of_all (by decide)

theorem lookup_serveGrammar (o : BindOption) :
    serveGrammar.actions.lookup o.name = some (.take o.store) := by
  cases o <;> rfl

namespace BindOption

variable {o : BindOption}

/-- The option as its arguments are classified. -/
def marked (o : BindOption) : List (Grammar.Marked Draft) :=
  if o.isJoined then
    [(joinedTo o.name o.value, .option (.take o.store) (some (.long o.value)))]
  else [(o.name, .option (.take o.store) none), (o.value, .ordinary)]

theorem marked_words (o : BindOption) : o.marked.map Prod.fst = o.words := by
  unfold marked words
  split <;> rfl

/-- Behind a name that is no name of a separator, nothing joined makes it one. -/
theorem joinedTo_ne_separator (o : BindOption) : joinedTo o.name o.value ≠ separator := by
  intro he
  have hmem : '=' ∈ separator.toList := by
    rw [← he, toList_joinedTo]
    simp
  exact absurd hmem (by decide)

/-- The names of the options look like names. -/
theorem name_looks (o : BindOption) :
    (∃ rest, o.name.toList = '-' :: '-' :: rest)
      ∧ Grammar.isName o.name = true ∧ o.name ≠ separator := by
  cases o with
  | host =>
    show (∃ rest, "--host".toList = '-' :: '-' :: rest)
      ∧ Grammar.isName "--host" = true ∧ "--host" ≠ separator
    exact ⟨⟨"host".toList, by decide⟩, by decide, by decide⟩
  | port =>
    show (∃ rest, "--port".toList = '-' :: '-' :: rest)
      ∧ Grammar.isName "--port" = true ∧ "--port" ≠ separator
    exact ⟨⟨"port".toList, by decide⟩, by decide, by decide⟩

/-- The names of the options are not short for those of the tool as a whole. -/
theorem not_short (o : BindOption) :
    ∀ option ∈ grammar.actions, ¬ o.name.toList.isPrefixOf option.1.toList = true := by
  cases o with
  | host =>
    show ∀ option ∈ grammar.actions, ¬ "--host".toList.isPrefixOf option.1.toList = true
    decide
  | port =>
    show ∀ option ∈ grammar.actions, ¬ "--port".toList.isPrefixOf option.1.toList = true
    decide

/-- What holds of the arguments in either way of writing an option holds of all its arguments. -/
theorem forall_mem_marked {P : Grammar.Marked Draft → Prop}
    (hjoined : o.isJoined = true →
      P (joinedTo o.name o.value, .option (.take o.store) (some (.long o.value))))
    (halone : o.isJoined = false → P (o.name, .option (.take o.store) none)
      ∧ P (o.value, .ordinary)) :
    ∀ m ∈ o.marked, P m := by
  intro m hm
  unfold marked at hm
  split at hm
  · next h =>
    rw [List.mem_singleton.mp hm]
    exact hjoined h
  · next h =>
    obtain ⟨hname, hvalue⟩ := halone (by simpa using h)
    rcases List.mem_cons.mp hm with he | hm
    · rwa [he]
    · rwa [List.mem_singleton.mp hm]

/-- The command knows its options. -/
theorem classify_marked (h : o.Writable) :
    ∀ m ∈ o.marked, m.1 ≠ separator ∧ serveGrammar.classify m.1 = .ok m.2 := by
  obtain ⟨⟨rest, hname⟩, hisName, hsep⟩ := o.name_looks
  have hknown := lookup_serveGrammar o
  refine forall_mem_marked (fun _ => ?_) fun halone => ⟨?_, ?_⟩
  · exact ⟨o.joinedTo_ne_separator,
      Grammar.classify_joined serveGrammar_named hname hisName hknown o.value⟩
  · exact ⟨hsep, Grammar.classify_name hname hknown⟩
  · exact ⟨isOrdinary_ne_separator (h.alone halone),
      Grammar.classify_ordinary serveGrammar_named (h.alone halone)⟩

/-- The tool as a whole does not know the options of the command, nor is any of their names
short for its own, so it can classify them. -/
theorem exists_classify_marked (h : o.Writable) :
    ∀ m ∈ o.marked, m.1 ≠ separator ∧ ∃ kind, grammar.classify m.1 = .ok kind := by
  obtain ⟨⟨rest, hname⟩, hisName, hsep⟩ := o.name_looks
  refine forall_mem_marked (fun _ => ?_) fun halone => ⟨?_, ?_⟩
  · exact ⟨o.joinedTo_ne_separator,
      Grammar.exists_classify_joined hname hisName o.not_short grammar_named o.value⟩
  · exact ⟨hsep, Grammar.exists_classify_name hname hisName o.not_short⟩
  · exact ⟨isOrdinary_ne_separator (h.alone halone), _,
      Grammar.classify_ordinary grammar_named (h.alone halone)⟩

theorem store_value (h : o.Writable) (draft : Draft) :
    o.store (some o.value) draft = .ok (take draft o) := by
  cases o with
  | host => rfl
  | port isJoined text number =>
    show (match some (Number.readInt? text) with
      | none => _
      | some none => _
      | some port? => _) = _
    rw [show Number.readInt? text = some number from h.numeral number rfl]
    rfl

/-- An option is read on its own. -/
theorem consume_marked (h : o.Writable) (p : Grammar.Progress Draft)
    (rest : List (Grammar.Marked Draft)) :
    Grammar.consume p (o.marked ++ rest) =
      Grammar.consume { p with draft := take p.draft o } rest := by
  unfold marked
  split
  · next hjoined =>
    show (do
      let draft ← o.store (kept? o.value) p.draft
      Grammar.consume { p with draft } rest) = _
    rw [show kept? o.value = some o.value from if_neg (h.joined hjoined), store_value h]
    rfl
  · show (do
      let draft ← o.store (some o.value) p.draft
      Grammar.consume { p with draft } rest) = _
    rw [store_value h]
    rfl

/-- Options are read one after the other. -/
theorem consume_all {os : List BindOption} (h : ∀ o ∈ os, o.Writable)
    (p : Grammar.Progress Draft) (rest : List (Grammar.Marked Draft)) :
    Grammar.consume p (os.flatMap marked ++ rest) =
      Grammar.consume { p with draft := os.foldl take p.draft } rest := by
  induction os generalizing p with
  | nil => rfl
  | cons o os ih =>
    obtain ⟨ho, hos⟩ := List.forall_mem_cons.mp h
    rw [List.flatMap_cons, List.append_assoc, consume_marked ho, ih hos]
    rfl

/-- The name of the application is none of the options' concern. -/
theorem foldl_take_target (os : List BindOption) (draft : Draft) (target? : Option String) :
    os.foldl take { draft with target? } = { os.foldl take draft with target? } := by
  induction os generalizing draft with
  | nil => rfl
  | cons o os ih =>
    have ho : take { draft with target? } o = { take draft o with target? } := by
      cases o <;> rfl
    rw [List.foldl_cons, ho, ih, List.foldl_cons]

theorem foldl_take_host? (os : List BindOption) :
    (os.foldl take {}).host? = Ordered.last? host? os := by
  have hstep : ∀ o ∈ os, ∀ draft, (take draft o).host? = o.host?.or draft.host? := by
    intro o _ draft
    cases o <;> rfl
  rw [Ordered.foldl_of_replaced hstep, Option.or_none]

theorem foldl_take_port? (os : List BindOption) :
    (os.foldl take {}).port? = Ordered.last? port? os := by
  have hstep : ∀ o ∈ os, ∀ draft, (take draft o).port? = o.port?.or draft.port? := by
    intro o _ draft
    cases o <;> rfl
  rw [Ordered.foldl_of_replaced hstep, Option.or_none]

end BindOption

/-! ## The command line -/

/-- The first argument of an option is no separator. -/
theorem flatMap_marked_ne_separator (os : List BindOption) (arg : String)
    (rest : List (Grammar.Marked Draft)) :
    os.flatMap BindOption.marked ≠ (arg, .separator) :: rest := by
  cases os with
  | nil =>
    intro he
    cases he
  | cons o os =>
    rw [List.flatMap_cons, BindOption.marked]
    split
    · intro he
      cases he
    · intro he
      cases he

/-- The name of the application is read, and the options behind it. -/
theorem consume_target {word : String} (hword : IsOrdinary word) {draft : Draft}
    {after : List BindOption} (hafter : ∀ o ∈ after, o.Writable) :
    Grammar.consume ⟨draft, [target], []⟩ ((word, .ordinary) :: after.flatMap BindOption.marked) =
      .ok ⟨after.foldl BindOption.take { draft with target? := some word }, [], []⟩ := by
  have hkept : kept? word = some word := if_neg (isOrdinary_ne_separator hword)
  have hrest := BindOption.consume_all hafter
    ⟨{ draft with target? := some word }, [], []⟩ []
  rw [List.append_nil] at hrest
  rw [Grammar.consume]
  dsimp only [target]
  rw [hkept]
  dsimp only [Bind.bind, Except.bind]
  split
  · next arg rest he => exact absurd he (flatMap_marked_ne_separator after arg rest)
  · exact hrest

/-- The name of a level. -/
def LogLevel.name : LogLevel → String
  | debug => "debug"
  | info => "info"
  | warning => "warning"
  | error => "error"

theorem isOrdinary_levelName (level : LogLevel) : IsOrdinary level.name := by
  left
  intro c rest he
  cases level <;> cases he

/-- A command line that serves an application. How much is logged may be said in front. -/
structure ServeLine where
  level? : Option LogLevel
  before : List BindOption
  target : String
  after : List BindOption

namespace ServeLine

/-- The options of a command line, in the order in which they are written. -/
def options (line : ServeLine) : List BindOption :=
  line.before ++ line.after

/-- The arguments behind the name of the command. -/
def serveWords (line : ServeLine) : List String :=
  line.before.flatMap BindOption.words ++ line.target :: line.after.flatMap BindOption.words

/-- The command line can be written so. -/
structure Writable (line : ServeLine) : Prop where
  target : IsOrdinary line.target
  options : ∀ o ∈ line.options, o.Writable

/-- The arguments behind the name of the command, as they are classified. -/
def marked (line : ServeLine) : List (Grammar.Marked Draft) :=
  line.before.flatMap BindOption.marked
    ++ (line.target, .ordinary) :: line.after.flatMap BindOption.marked

theorem marked_words (line : ServeLine) : line.marked.map Prod.fst = line.serveWords := by
  have hall : ∀ os : List BindOption,
      (os.flatMap BindOption.marked).map Prod.fst = os.flatMap BindOption.words := by
    intro os
    have hwords : (fun o => (BindOption.marked o).map Prod.fst) = BindOption.words :=
      funext BindOption.marked_words
    rw [List.map_flatMap, hwords]
  rw [marked, List.map_append, List.map_cons, hall, hall]
  rfl

/-- What holds of the arguments of every option and of the target holds of all arguments. -/
theorem forall_mem_marked {line : ServeLine} {P : Grammar.Marked Draft → Prop}
    (hoptions : ∀ o ∈ line.options, ∀ m ∈ o.marked, P m) (htarget : P (line.target, .ordinary)) :
    ∀ m ∈ line.marked, P m := by
  intro m hm
  rcases List.mem_append.mp hm with hm | hm
  · obtain ⟨o, ho, hm⟩ := List.mem_flatMap.mp hm
    exact hoptions o (List.mem_append_left _ ho) m hm
  rcases List.mem_cons.mp hm with he | hm
  · rwa [he]
  · obtain ⟨o, ho, hm⟩ := List.mem_flatMap.mp hm
    exact hoptions o (List.mem_append_right _ ho) m hm

theorem classify_marked {line : ServeLine} (h : line.Writable) :
    ∀ m ∈ line.marked, m.1 ≠ separator ∧ serveGrammar.classify m.1 = .ok m.2 :=
  forall_mem_marked (fun o ho => BindOption.classify_marked (h.options o ho))
    ⟨isOrdinary_ne_separator h.target, Grammar.classify_ordinary serveGrammar_named h.target⟩

/-- **The host and the port that are given last are taken down.** -/
theorem command_run {line : ServeLine} (h : line.Writable) :
    command "run" line.serveWords =
      .ok (.serve line.target (Ordered.last? BindOption.host? line.options)
        (Ordered.last? BindOption.port? line.options), []) := by
  have hread : serveGrammar.read {} line.serveWords =
      .ok ⟨{ line.options.foldl BindOption.take {} with target? := some line.target },
        [], []⟩ := by
    rw [Grammar.read, ← line.marked_words, Grammar.mark_of_classify (classify_marked h)]
    show Grammar.consume ⟨{}, [CommandLine.target], []⟩ line.marked = _
    rw [marked, BindOption.consume_all (fun o ho => h.options o (List.mem_append_left _ ho)),
      consume_target h.target (fun o ho => h.options o (List.mem_append_right _ ho)),
      BindOption.foldl_take_target, options, List.foldl_append]
  rw [command, ← serveGrammar, readCommand, hread]
  show Except.ok (Command.serve line.target (line.options.foldl BindOption.take {}).host?
    (line.options.foldl BindOption.take {}).port?, []) = _
  rw [BindOption.foldl_take_host?, BindOption.foldl_take_port?]

/-! ## The tool as a whole -/

/-- How much is logged, as it is said in front of the command. -/
def levelWords : Option LogLevel → List String
  | none => []
  | some level => ["--log-level", level.name]

/-- The arguments of the tool. -/
def arguments (line : ServeLine) : List String :=
  levelWords line.level? ++ "run" :: line.serveWords

theorem exists_mark_serveWords {line : ServeLine} (h : line.Writable) :
    ∃ marked, marked.map Prod.fst = line.serveWords
      ∧ grammar.mark line.serveWords = .ok marked := by
  refine Grammar.exists_mark ?_
  rw [← line.marked_words, List.forall_mem_map]
  exact forall_mem_marked (fun o ho => BindOption.exists_classify_marked (h.options o ho))
    ⟨isOrdinary_ne_separator h.target, _, Grammar.classify_ordinary grammar_named h.target⟩

/-- Behind what is said about the log, the command takes all there is. -/
theorem read_command {words : List String} {marked : List (Grammar.Marked Arguments)}
    (hwords : marked.map Prod.fst = words) (hmark : grammar.mark words = .ok marked)
    {asked : Command} (hasked : command "run" words = .ok (asked, [])) (level? : Option LogLevel) :
    Arguments.read (levelWords level? ++ "run" :: words) =
      .ok { level? := some (level?.getD .warning), command? := some asked } := by
  have hrun : grammar.mark ("run" :: words) = .ok (("run", .ordinary) :: marked) :=
    Grammar.mark_cons (by decide) rfl hmark
  have htake : ∀ draft : Arguments,
      Grammar.consume ⟨draft, grammar.positionals, []⟩ (("run", .ordinary) :: marked) =
        .ok ⟨{ draft with command? := some asked, leftover := [] }, [], []⟩ := by
    intro draft
    rw [Grammar.consume]
    dsimp only [grammar]
    rw [hwords, hasked]
    rfl
  cases level? with
  | none =>
    have hread : grammar.read {} ("run" :: words) =
        .ok ⟨{ command? := some asked }, [], []⟩ := by
      rw [Grammar.read, hrun]
      exact htake {}
    rw [levelWords, List.nil_append, Arguments.read, hread]
    rfl
  | some level =>
    have hname : grammar.mark (level.name :: "run" :: words) =
        .ok ((level.name, .ordinary) :: ("run", .ordinary) :: marked) :=
      Grammar.mark_cons (isOrdinary_ne_separator (isOrdinary_levelName level))
        (Grammar.classify_ordinary grammar_named (isOrdinary_levelName level)) hrun
    have hmarked := @Grammar.mark_cons _ grammar "--log-level" _ _ _ (by decide) rfl hname
    have hread : grammar.read {} ("--log-level" :: level.name :: "run" :: words) =
        .ok ⟨{ level? := some level, command? := some asked }, [], []⟩ := by
      rw [Grammar.read, hmarked]
      cases level <;> exact htake { level? := some _ }
    rw [levelWords, List.cons_append, List.cons_append, List.nil_append, Arguments.read, hread]
    rfl

/-- What the tool reads. -/
theorem read_arguments {line : ServeLine} (h : line.Writable) :
    Arguments.read line.arguments =
      .ok {
        level? := some (line.level?.getD .warning)
        command? := some (.serve line.target (Ordered.last? BindOption.host? line.options)
          (Ordered.last? BindOption.port? line.options)) } := by
  obtain ⟨marked, hwords, hmark⟩ := exists_mark_serveWords h
  exact read_command hwords hmark (command_run h) line.level?

/-- The server is told the host and the port that are given last. -/
theorem perform_arguments {line : ServeLine} (h : line.Writable) {modules : Modules} {app : App}
    (hfound : (resolveTarget modules line.target).result = .ok app) :
    (perform modules line.arguments).started =
        [app.serverSettings (hostArgument (Ordered.last? BindOption.host? line.options))
          (portArgument (Ordered.last? BindOption.port? line.options))]
      ∧ (perform modules line.arguments).ending = .exit 0 := by
  have hperform : perform modules line.arguments =
      (Command.serve line.target (Ordered.last? BindOption.host? line.options)
        (Ordered.last? BindOption.port? line.options)).execute modules
          (line.level?.getD .warning) := by
    rw [perform, read_arguments h]
  rw [hperform, Command.execute]
  dsimp only [Command.target]
  rw [hfound]
  exact ⟨rfl, rfl⟩

end ServeLine

/-! ## What can be written -/

/-- Every host that is no separator can be given, joined to its option. -/
theorem BindOption.writable_host {value : String} (h : value ≠ separator) :
    (host true value).Writable where
  alone := nofun
  joined := fun _ => h
  numeral := nofun

/-- Every port can be given by its numeral, joined to its option or behind it. -/
theorem BindOption.writable_port (isJoined : Bool) {number : Int}
    (h : (Number.natText number.natAbs).length ≤ Number.maxDigits) :
    (port isJoined (String.ofList (Number.intText number)) number).Writable := by
  have hordinary : IsOrdinary (String.ofList (Number.intText number)) := by
    have hnumeral := Number.isNumeral_natText number.natAbs
    obtain ⟨digit, digits, hdigits⟩ := List.exists_cons_of_ne_nil hnumeral.1
    have hall := hnumeral.2
    rw [hdigits] at hall
    unfold IsOrdinary
    rw [String.toList_ofList, Number.intText, hdigits]
    split
    · exact .inr ⟨digit, digits, rfl, hall⟩
    · left
      intro c rest he
      have hdash := hall digit List.mem_cons_self
      rw [(List.cons.inj he).1] at hdash
      exact absurd hdash (by decide)
  refine ⟨fun _ => hordinary, fun _ => isOrdinary_ne_separator hordinary, ?_⟩
  intro given hgiven
  rw [← Option.some.inj hgiven]
  exact Number.readInt?_intText h

/-- **A server listens where it is told to, unless that is the empty host or the port 0, and
where it is told nothing, it listens where the settings of the application say.** So the promise
that what is given counts is kept except in these two cases, unless the settings say the same. A
command line starts one server, which is told what its options say, of which the last counts. -/
theorem bound_as_given (app : App) (host? : Option String) (port? : Option Int) :
    let settings := app.serverSettings (hostArgument host?) (portArgument port?)
    ListensOn app host? port? settings
      ∧ (settings.host = app.promisedHost host? ↔
          (host? = some "" → app.config.host = .str ""))
      ∧ (settings.port = app.promisedPort port? ↔
          (port? = some 0 → app.config.port = .int 0))
      ∧ ∀ (modules : Modules) (line : ServeLine), line.Writable →
          (resolveTarget modules line.target).result = .ok app →
          Ordered.last? BindOption.host? line.options = host? →
          Ordered.last? BindOption.port? line.options = port? →
            (perform modules line.arguments).started = [settings]
              ∧ (perform modules line.arguments).ending = .exit 0 := by
  intro settings
  have hlistens := App.serverSettings_listensOn app host? port?
  refine ⟨hlistens, hlistens.host_iff, hlistens.port_iff, ?_⟩
  intro modules line hline hfound hhost hport
  have hperform := ServeLine.perform_arguments hline hfound
  rwa [hhost, hport] at hperform

/-- The host is given in front of the application and once more behind it, the port not. -/
theorem bound_to_last_host :
    let modules : Modules := [("site", .ofNames "site" [("app", .app {})])]
    let args := ["--log-level", "info", "run", "--host=::1", "site", "--host", "localhost"]
    ∃ settings, (perform modules args).started = [settings]
      ∧ settings.host = .str "localhost" ∧ settings.port = .int 8000 := by
  intro modules args
  let line : ServeLine :=
    { level? := some .info, before := [.host true "::1"], target := "site"
      after := [.host false "localhost"] }
  have hsite : IsOrdinary "site" := by
    left
    intro c rest he
    cases he
  have hlocalhost : IsOrdinary "localhost" := by
    left
    intro c rest he
    cases he
  have hline : line.Writable := by
    refine ⟨hsite, fun o ho => ?_⟩
    rcases List.mem_cons.mp ho with he | ho
    · rw [he]
      exact BindOption.writable_host (by decide)
    · rw [List.mem_singleton.mp ho]
      exact ⟨fun _ => hlocalhost, nofun, nofun⟩
  have hfound : (resolveTarget modules "site").result = .ok {} := by
    rfl
  obtain ⟨hlistens, -, -, hserve⟩ := bound_as_given {} (some "localhost") none
  obtain ⟨hstarted, -⟩ := hserve modules line hline hfound rfl rfl
  exact ⟨_, hstarted, hlistens.host_given "localhost" rfl (by decide),
    hlistens.port_left (.inl rfl)⟩

/-- The empty host and the port 0 do not win, neither where the application is run nor on a
command line. -/
theorem not_always_bound_as_given :
    (¬ ∀ (app : App) (host : String) (port : Int),
      (app.serverSettings (.str host) (.int port)).host = .str host
        ∧ (app.serverSettings (.str host) (.int port)).port = .int port)
    ∧ (perform [("site", .ofNames "site" [("app", .app {})])]
        ["run", "site", "--host", "", "--port", "0"]).started
      = [{ host := .str "127.0.0.1", port := .int 8000, reload := .bool false,
           logLevel := .str "info" }] := by
  refine ⟨fun h => ?_, rfl⟩
  have hhost : Value.str "127.0.0.1" = Value.str "" := (h {} "" 0).1
  exact absurd (Value.str.inj hhost) (by decide)

end CommandLine

end WebRouter
