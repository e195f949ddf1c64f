import WebRouter.CommandLine.Report
import WebRouter.Proofs.JsonText
import WebRouter.Proofs.QueryJson
import WebRouter.Proofs.ReadingBack

/-!
# A report tells how a request is answered

The tool shows how a URL is routed without calling anybody, and the client sends a request for
a URL through the whole server. They find out what answers a path each in their own way, from
one router. `Tells` says what a report has to say of the calls that a request makes:

> `tells_showMatch`: the report on a URL tells of the calls that dispatching a request for it
> makes, whatever the router has cached.

All that a report says can be read back from its lines, since the parameters are told apart by
their JSON. So whoever reads it knows whose handler is called, with which parameters and which
query, or that there is none:

> `report_iff_exchange`: a template with parameters is shown exactly if the handler of that
> template is called with them, the fallback is shown exactly if its handler is called, the
> tool exits with 1 exactly if no handler is called and the built-in page is the answer, and a
> query is shown exactly if it is the query that the called handler sees.
-/

namespace WebRouter

namespace CommandLine

/-! ## The lines of a report -/

/-- The line that shows a template. -/
def routeLine (template : String) : String :=
  s!"route:  {template}"

/-- The line that shows parameters. -/
def paramsLine (text : String) : String :=
  s!"params: {text}"

/-- The line that shows a query. -/
def queryLine (text : String) : String :=
  s!"query:  {text}"

/-- The line that is shown if nothing answers. -/
def missLine (path : String) : String :=
  s!"No route matches {Text.Quoted.text path}"

theorem routeLine_inj {template other : String} :
    routeLine template = routeLine other ↔ template = other :=
  String.append_right_inj _

theorem paramsLine_inj {text other : String} : paramsLine text = paramsLine other ↔ text = other :=
  String.append_right_inj _

theorem queryLine_inj {text other : String} : queryLine text = queryLine other ↔ text = other :=
  String.append_right_inj _

/-- Lines that begin differently are different. -/
theorem line_ne {start other : String} {c d : Char} (hc : start.toList.head? = some c)
    (hd : other.toList.head? = some d) (hne : c ≠ d) (rest more : String) :
    start ++ rest ≠ other ++ more := by
  intro h
  have hhead := congrArg (fun line : String => line.toList.head?) h
  simp [hc, hd, hne] at hhead

theorem queryLine_ne_routeLine (text template : String) : queryLine text ≠ routeLine template :=
  line_ne (by decide) (by decide) (by decide : 'q' ≠ 'r') _ _

theorem queryLine_ne_paramsLine (text other : String) : queryLine text ≠ paramsLine other :=
  line_ne (by decide) (by decide) (by decide : 'q' ≠ 'p') _ _

theorem queryLine_ne_missLine (text path : String) : queryLine text ≠ missLine path :=
  line_ne (by decide) (by decide) (by decide : 'q' ≠ 'N') _ _

theorem missLine_ne_routeLine (path template : String) : missLine path ≠ routeLine template :=
  line_ne (by decide) (by decide) (by decide : 'N' ≠ 'r') _ _

/-! ## What a report says -/

/-- The report shows a template and parameters, which are none if there is no line for them. -/
inductive Report.Shows (report : Report) (template : String) : List (String × String) → Prop
  | bound {params : List (String × String)} {text query : String}
      (htext : Json.write (Json.textMapping params) = .ok text)
      (h : report.output = [routeLine template, paramsLine text, query]) :
      Shows report template params
  | bare {query : String} (h : report.output = [routeLine template, query]) :
      Shows report template []

/-- The calls of handlers that a report tells of, if `routes` are the routes in force. -/
inductive Tells (routes : List (Route Handler)) (report : Report) :
    List (Route Handler × RequestState) → Prop
  | matched {route : Route Handler} {state : RequestState} {params query : String}
      (hroute : route ∈ routes) (hkey : route.template ≠ Router.Table.fallbackKey)
      (hparams : Json.write (Json.textMapping state.params) = .ok params)
      (hquery : Json.write (Query.toValue state.query) = .ok query)
      (houtput : report.output = [routeLine route.template, paramsLine params, queryLine query])
      (hending : report.ending = .exit 0) : Tells routes report [(route, state)]
  | fallback {route : Route Handler} {state : RequestState} {query : String}
      (hroute : route ∈ routes) (hkey : route.template = Router.Table.fallbackKey)
      (hparams : state.params = [])
      (hquery : Json.write (Query.toValue state.query) = .ok query)
      (houtput : report.output = [routeLine route.template, queryLine query])
      (hending : report.ending = .exit 0) : Tells routes report [(route, state)]
  | nothing {path : String} (houtput : report.output = [missLine path])
      (hending : report.ending = .exit 1) : Tells routes report []

section Reading

variable {routes : List (Route Handler)} {report : Report}
  {calls : List (Route Handler × RequestState)}

theorem Tells.shows_iff (h : Tells routes report calls) (template : String)
    (params : List (String × String)) :
    report.Shows template params ↔
      ∃ call ∈ calls, call.1 ∈ routes ∧ call.1.template = template ∧ call.2.params = params := by
  cases h with
  | @matched route state text query hroute hkey hparams hquery houtput hending =>
    constructor
    · intro hshows
      cases hshows with
      | bound htext hlines =>
        rw [houtput] at hlines
        obtain ⟨hline, hlines⟩ := List.cons.inj hlines
        obtain ⟨hline', -⟩ := List.cons.inj hlines
        rw [paramsLine_inj] at hline'
        rw [hline', ← htext] at hparams
        exact ⟨_, List.mem_singleton.mpr rfl, hroute, routeLine_inj.mp hline,
          Json.write_textMapping_inj hparams⟩
      | bare hlines =>
        -- there is one line too few
        rw [houtput] at hlines
        simp at hlines
    · intro hcalled
      obtain ⟨call, hcall, -, htemplate, hstate⟩ := hcalled
      rw [List.mem_singleton.mp hcall] at htemplate hstate
      rw [← htemplate, ← hstate]
      exact .bound hparams houtput
  | @fallback route state query hroute hkey hparams hquery houtput hending =>
    constructor
    · intro hshows
      cases hshows with
      | bound htext hlines =>
        -- there is one line too many
        rw [houtput] at hlines
        simp at hlines
      | bare hlines =>
        rw [houtput] at hlines
        exact ⟨_, List.mem_singleton.mpr rfl, hroute, routeLine_inj.mp (List.cons.inj hlines).1,
          hparams⟩
    · intro hcalled
      obtain ⟨call, hcall, -, htemplate, hstate⟩ := hcalled
      rw [List.mem_singleton.mp hcall] at htemplate hstate
      rw [← htemplate, ← hstate, hparams]
      exact .bare houtput
  | nothing houtput hending =>
    refine iff_of_false (fun hshows => ?_) fun ⟨call, hcall, _⟩ => List.not_mem_nil hcall
    cases hshows with
    | bound htext hlines =>
      rw [houtput] at hlines
      simp at hlines
    | bare hlines =>
      rw [houtput] at hlines
      simp at hlines

theorem Tells.fallback_iff (h : Tells routes report calls) :
    report.output.head? = some (routeLine Router.Table.fallbackKey) ↔
      ∃ call ∈ calls, call.1 ∈ routes ∧ call.1.template = Router.Table.fallbackKey := by
  cases h with
  | @matched route state text query hroute hkey hparams hquery houtput hending =>
    rw [houtput]
    simp [routeLine_inj, hkey]
  | fallback hroute hkey hparams hquery houtput hending =>
    rw [houtput]
    simp [hroute, hkey]
  | @nothing path houtput hending =>
    rw [houtput]
    simp [missLine_ne_routeLine]

theorem Tells.exit_iff (h : Tells routes report calls) : report.ending = .exit 1 ↔ calls = [] := by
  cases h with
  | matched _ _ _ _ _ hending =>
    rw [hending]
    simp
  | fallback _ _ _ _ _ hending =>
    rw [hending]
    simp
  | nothing _ hending =>
    rw [hending]
    simp

theorem Tells.query_iff (h : Tells routes report calls) (text : String) :
    queryLine text ∈ report.output ↔
      ∃ call ∈ calls, Json.write (Query.toValue call.2.query) = .ok text := by
  cases h with
  | matched hroute hkey hparams hquery houtput hending =>
    rw [houtput]
    simp only [List.mem_cons, List.not_mem_nil, or_false, queryLine_ne_routeLine,
      queryLine_ne_paramsLine, queryLine_inj, false_or, exists_eq_left, hquery, Except.ok.injEq]
    exact eq_comm
  | fallback hroute hkey hparams hquery houtput hending =>
    rw [houtput]
    simp only [List.mem_cons, List.not_mem_nil, or_false, queryLine_ne_routeLine, queryLine_inj,
      false_or, exists_eq_left, hquery, Except.ok.injEq]
    exact eq_comm
  | nothing houtput hending =>
    rw [houtput]
    simp [queryLine_ne_missLine]

end Reading

/-! ## Reports and requests -/

section Showing

variable {app : App} {url query : String}

theorem showMatch_matched {found : RouteMatch Handler} {params : String}
    (hselected : (app.select (Text.cut '?' url).1).result = .ok (.matched found))
    (hparams : Json.write (Json.textMapping found.params) = .ok params)
    (hquery : Json.write (Query.toValue (Query.parse (Text.cut '?' url).2)) = .ok query) :
    (showMatch app url).1
      = { output := [routeLine found.route.template, paramsLine params, queryLine query] } := by
  have hlines : matchLines found = .ok [routeLine found.route.template, paramsLine params] := by
    show (Json.write (Json.textMapping found.params) >>= _) = _
    rw [hparams]
    rfl
  unfold showMatch
  dsimp only
  rw [hselected]
  dsimp only [bind, Except.bind]
  rw [hlines]
  dsimp only
  rw [showMatch.withQuery, hquery]
  rfl

theorem showMatch_fallback {route : Route Handler}
    (hselected : (app.select (Text.cut '?' url).1).result = .ok (.fallback route))
    (hquery : Json.write (Query.toValue (Query.parse (Text.cut '?' url).2)) = .ok query) :
    (showMatch app url).1 = { output := [routeLine route.template, queryLine query] } := by
  unfold showMatch
  dsimp only
  rw [hselected]
  dsimp only [bind, Except.bind]
  rw [showMatch.withQuery, hquery]
  rfl

theorem showMatch_nothing
    (hselected : (app.select (Text.cut '?' url).1).result = .ok .nothing) :
    (showMatch app url).1 = { output := [missLine (Text.cut '?' url).1], ending := .exit 1 } := by
  unfold showMatch
  dsimp only
  rw [hselected]
  rfl

end Showing

/-- The report on a URL tells of the calls that answering a request for it makes. -/
theorem tells_showMatch {app : App} (hreached : app.router.Reached)
    (hhook : app.router.hook = LogHook.listening) (url : String) :
    Tells app.router.routes (showMatch app url).1
      (app.dispatch (Client.plainRequest "GET" url)).calls := by
  have hanswers := App.dispatch_answers hreached hhook (Client.plainRequest "GET" url)
  generalize (app.dispatch (Client.plainRequest "GET" url)).response = response at hanswers
  generalize (app.dispatch (Client.plainRequest "GET" url)).calls = calls at hanswers ⊢
  -- whatever is cached, both select what the table in force says
  have hselected : (app.select (Text.cut '?' url).1).result
      = .ok (app.router.snapshot.table.select (Text.cut '?' url).1) :=
    hreached.select hhook _
  obtain ⟨query, hquery⟩ := Query.exists_write_parse (Text.cut '?' url).2
  rw [Router.Table.select] at hselected
  cases hanswers with
  | @matched found _ hfound h =>
    have hmem : found.route ∈ app.router.routes := Router.Table.Wins.mem ⟨found.params, hfound⟩
    have hkey : found.route.template ≠ Router.Table.fallbackKey := by
      obtain ⟨-, -, -, -, hkey, -⟩ := hfound
      exact hkey
    have hscan : app.router.snapshot.table.scan? (Text.cut '?' url).1 = some found :=
      Router.Table.scan?_eq_iff.mpr hfound
    rw [hscan] at hselected
    have hparams := Json.write_textMapping found.params
    rw [showMatch_matched hselected hparams hquery]
    refine .matched hmem hkey hparams ?_ rfl rfl
    dsimp only [Client.plainRequest]
    exact hquery
  | @fallback route _ hnone hroute h =>
    have hmem : route ∈ app.router.routes := List.mem_of_find?_eq_some hroute
    have hkey : route.template = Router.Table.fallbackKey := by
      simpa using List.find?_some hroute
    have hscan : app.router.snapshot.table.scan? (Text.cut '?' url).1 = none :=
      Router.Table.scan?_eq_iff.mpr hnone
    rw [hscan, hroute] at hselected
    rw [showMatch_fallback hselected hquery]
    refine .fallback hmem hkey rfl ?_ rfl rfl
    dsimp only [Client.plainRequest]
    exact hquery
  | nothing hnone hroute =>
    have hscan : app.router.snapshot.table.scan? (Text.cut '?' url).1 = none :=
      Router.Table.scan?_eq_iff.mpr hnone
    rw [hscan, hroute] at hselected
    rw [showMatch_nothing hselected]
    exact .nothing rfl rfl

/-- The built-in page as the client reads it. -/
def pageRead : Response :=
  Response.notFound.asRead (Text.Utf8.encode Response.notFoundPage.toList)

/-- If nobody is called for a request, the client reads the built-in page. -/
theorem exchange_of_no_calls {app : App} (hreached : app.router.Reached)
    (hhook : app.router.hook = LogHook.listening) {url : String} (hurl : Text.Latin1.Fits url)
    (hcalls : (app.dispatch (Client.plainRequest "GET" url)).calls = []) :
    (Client.get app url [] []).result = .ok pageRead := by
  have hanswers := App.dispatch_answers hreached hhook (Client.plainRequest "GET" url)
  rw [hcalls] at hanswers
  have hresponse : (app.dispatch (Client.plainRequest "GET" url)).response = .notFound := by
    generalize (app.dispatch (Client.plainRequest "GET" url)).response = response at hanswers ⊢
    cases hanswers
    rfl
  have hsendable : Response.notFound.Sendable := (Response.wellMade_page _ 404).sendable
  obtain ⟨body, hbody, hresult⟩ := Client.request_of_sendable app
    (Client.requestOf_of_fits "GET" hurl) hresponse (Response.unframed_of_no_headers rfl)
    hsendable
  obtain ⟨-, hbytes⟩ := Client.body_of_isInteger hbody (.int 404)
  have hpage : body = Text.Utf8.encode Response.notFoundPage.toList :=
    (Except.ok.inj ((hbytes (by decide)).symm.trans rfl))
  rw [hpage] at hresult
  exact hresult

/-- What the tool reports on a URL is what the report of the application says. -/
theorem execute_resolve {modules : Modules} {target : String} {app : App}
    (hresolved : (resolveTarget modules target).result = .ok app) (level : LogLevel)
    (url : String) :
    (Command.execute modules level (.resolve target (some url))).output
        = (showMatch app url).1.output
      ∧ (Command.execute modules level (.resolve target (some url))).ending
        = (showMatch app url).1.ending := by
  unfold Command.execute Command.target
  dsimp only
  rw [hresolved]
  exact ⟨rfl, rfl⟩

theorem Tells.congr {routes : List (Route Handler)} {report other : Report}
    {calls : List (Route Handler × RequestState)} (h : Tells routes report calls)
    (houtput : other.output = report.output) (hending : other.ending = report.ending) :
    Tells routes other calls := by
  cases h with
  | matched hroute hkey hparams hquery hlines hexit =>
    exact .matched hroute hkey hparams hquery (houtput.trans hlines) (hending.trans hexit)
  | fallback hroute hkey hparams hquery hlines hexit =>
    exact .fallback hroute hkey hparams hquery (houtput.trans hlines) (hending.trans hexit)
  | nothing hlines hexit => exact .nothing (houtput.trans hlines) (hending.trans hexit)

/-- **The tool reports on a URL what a request for it does.** For an application that is used by
one caller at a time, whatever it was used for before: the tool shows a template and parameters
exactly if the request calls the handler registered under that template with these parameters,
and the fallback exactly if it calls that; it exits with 1 exactly if the request calls nobody
and is answered with the built-in page; and the query that it shows is the JSON of the one that
the called handler sees. -/
theorem report_iff_exchange {modules : Modules} {target : String} {app : App}
    (hresolved : (resolveTarget modules target).result = .ok app)
    (hreached : app.router.Reached) (hhook : app.router.hook = LogHook.listening)
    (level : LogLevel) {url : String} (hurl : Text.Latin1.Fits url) :
    let report := Command.execute modules level (.resolve target (some url))
    let exchange := Client.get app url [] []
    (∀ template params, report.Shows template params ↔
        ∃ call ∈ exchange.calls, call.1 ∈ app.router.routes ∧ call.1.template = template
          ∧ call.2.params = params)
      ∧ (report.output.head? = some (routeLine Router.Table.fallbackKey) ↔
        ∃ call ∈ exchange.calls, call.1 ∈ app.router.routes
          ∧ call.1.template = Router.Table.fallbackKey)
      ∧ (report.ending = .exit 1 ↔ exchange.calls = [] ∧ exchange.result = .ok pageRead)
      ∧ (∀ text, queryLine text ∈ report.output ↔
        ∃ call ∈ exchange.calls, Json.write (Query.toValue call.2.query) = .ok text) := by
  intro report exchange
  have hcalls : exchange.calls = (app.dispatch (Client.plainRequest "GET" url)).calls :=
    (Client.request_dispatches app (Client.requestOf_of_fits "GET" hurl)).2
  obtain ⟨houtput, hending⟩ := execute_resolve hresolved level url
  have htells : Tells app.router.routes report exchange.calls := by
    rw [hcalls]
    exact (tells_showMatch hreached hhook url).congr houtput hending
  refine ⟨htells.shows_iff, htells.fallback_iff, htells.exit_iff.trans ?_, htells.query_iff⟩
  constructor
  · intro hnone
    exact ⟨hnone, exchange_of_no_calls hreached hhook hurl (hcalls.symm.trans hnone)⟩
  · intro h
    exact h.1

/-- A module in which the teapot is the application. -/
def teaModules : Modules :=
  [("tea", { names := [("app", .app App.teapot)] })]

theorem resolveTarget_tea : (resolveTarget teaModules "tea").result = .ok App.teapot := by
  rfl

/-- A URL that the teapot answers. -/
def teaUrl : String := "/tea/7?sugar=é"

theorem calls_tea :
    (Client.get App.teapot teaUrl [] []).calls
      = [(App.teapotRoute,
          ⟨(Client.plainRequest "GET" teaUrl).path,
            Query.parse (Client.plainRequest "GET" teaUrl).query, [("id", "7")], []⟩)] := by
  have hmade := Client.requestOf_of_fits "GET" (show Text.Latin1.Fits teaUrl by decide +kernel)
  have hpath : (Client.plainRequest "GET" teaUrl).path = "/tea/7" := by decide +kernel
  have hfound : App.teapot.router.snapshot.table.Resolves (Client.plainRequest "GET" teaUrl).path
      (some ⟨App.teapotRoute, [("id", "7")]⟩) := by
    rw [hpath]
    exact Router.Table.scan?_eq_iff.mp (by rfl)
  have hanswers := (App.dispatch_answers App.teapot_reached rfl _).unique
    (.matched hfound ⟨_, .pause (.fail _), .http App.teapotError⟩)
  exact (Client.request_dispatches App.teapot hmade).2.trans hanswers.1

/-- The tool shows the teapot's template, and it does not say that nothing answers. -/
theorem report_iff_exchange_teapot :
    let report := Command.execute teaModules .warning (.resolve "tea" (some teaUrl))
    report.Shows "/tea/:id" [("id", "7")] ∧ report.ending ≠ .exit 1 := by
  obtain ⟨hshows, -, hexit, -⟩ :=
    report_iff_exchange resolveTarget_tea App.teapot_reached rfl .warning
      (show Text.Latin1.Fits teaUrl by decide +kernel)
  have hmem : App.teapotRoute ∈ App.teapot.router.routes := List.mem_singleton.mpr rfl
  rw [calls_tea] at hshows hexit
  constructor
  · exact (hshows _ _).mpr ⟨_, List.mem_singleton.mpr rfl, hmem, rfl, rfl⟩
  · intro h
    cases (hexit.mp h).1

end CommandLine

end WebRouter
