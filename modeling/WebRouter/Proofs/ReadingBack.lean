import WebRouter.App.Client
import WebRouter.Proofs.Framing
import WebRouter.Proofs.Serving

/-!
# The client reads what was written

A response goes out as messages, and the client makes a response of the messages that come
out. The second is the first as far as bytes can tell: the body comes back as its bytes, or as
none where the status forbids a body, and the names of the headers come back in lower case
(`Response.asRead`). Everything else is read as it was written, provided that no header of the
response's own is taken for one of the two that are added (`Response.Unframed`).

> `Client.request_reads_response`: a response that can be sent is read as what it is, and each
> of its headers is found in it under the same names; of a response that cannot be sent
> nothing is sent, and the request ends with the failure to encode it.

A name is looked up in lower case, so that lowering a name once more that was sent in lower case
must change nothing: this is where `Text.lower_lower` comes in.
-/

namespace WebRouter

open Text.Latin1 (decode bytesOf Fits decode_bytesOf)

/-! ## Statuses that forbid a body -/

/-- A whole number; truth values are the numbers 0 and 1. -/
inductive Value.IsInteger : Value → Int → Prop
  | int (i : Int) : IsInteger (.int i) i
  | bool (b : Bool) : IsInteger (.bool b) b.toNat

/-- The statuses that forbid a body. -/
def Message.Bodiless (status : Int) : Prop :=
  (100 ≤ status ∧ status < 200) ∨ status = 204 ∨ status = 304

instance (status : Int) : Decidable (Message.Bodiless status) :=
  inferInstanceAs (Decidable (_ ∨ _))

theorem Message.bodyAllowed_of_isInteger {status : Value} {i : Int} (h : status.IsInteger i) :
    Message.bodyAllowed status = .ok (!decide (Message.Bodiless i)) := by
  cases h with
  | int =>
    have hbodiless : decide (Message.Bodiless i)
        = ((decide (100 ≤ i) && !decide (200 ≤ i)) || decide (i = 204) || decide (i = 304)) := by
      rw [Bool.eq_iff_iff, decide_eq_true_iff]
      simp [Message.Bodiless, or_assoc]
    rw [hbodiless]
    rfl
  | bool b =>
    cases b with
    | false => rfl
    | true => rfl

/-! ## What can be read of a response -/

namespace Response

/-- A header with its name in lower case. -/
def lowerName (header : Value × Value) : Value × Value :=
  match header.1 with
  | .str name => (.str (Text.lower name), header.2)
  | _ => header

/-- What can be read of a response that goes out with a body. -/
def asRead (response : Response) (body : Bytes) : Response :=
  { response with body := .bytes body, headers := response.headers.map lowerName }

/-- A response without a header that would be taken for one of those that are added. -/
structure Unframed (response : Response) : Prop where
  contentType : ¬ response.Brings Message.contentTypeName
  contentLength : ¬ response.Brings Message.contentLengthName

theorem unframed_of_no_headers {response : Response} (h : response.headers = []) :
    response.Unframed := by
  have hnot : ∀ name, ¬ response.Brings name := by
    intro name hbrings
    obtain ⟨header, hmem, -⟩ := hbrings
    rw [h] at hmem
    exact List.not_mem_nil hmem
  exact ⟨hnot _, hnot _⟩

/-- A header that goes out under its name in lower case has it under the same names as before. -/
theorem isNamed_lowerName {given : String} (h : Fits (Text.lower given)) (value : Value)
    (name : String) :
    isNamed (lowerName (.str given, value)) name = isNamed (.str given, value) name := by
  show (Text.lower (Text.lower given) == Text.lower name) = (Text.lower given == Text.lower name)
  rw [Text.lower_lower h]

theorem find?_lowerName {headers : List (Value × Value)} (h : SendableHeaders headers)
    (name : String) :
    ((headers.map lowerName).find? (isNamed · name)).map (·.2)
      = (headers.find? (isNamed · name)).map (·.2) := by
  induction headers with
  | nil => rfl
  | cons header rest ih =>
    obtain ⟨⟨given, value, hheader, hname, -⟩, hrest⟩ := List.forall_mem_cons.mp h
    have hsame := isNamed_lowerName hname (.str value) name
    rw [hheader, List.map_cons, List.find?_cons, List.find?_cons, hsame]
    split
    · rfl
    · exact ih hrest

/-- Whatever is looked up in a response that can be sent is found in what is read of it. -/
theorem header?_asRead {response : Response} (h : response.Sendable) (body : Bytes)
    (name : String) : (response.asRead body).header? name = response.header? name :=
  find?_lowerName h.headers name

end Response

/-! ## Reading the messages of a response -/

namespace Client

open Message (contentTypeName contentLengthName allHeaders lengthText)

/-- A header as the client reads it. -/
def readHeader (header : Bytes × Bytes) : String × String :=
  (decode header.1, decode header.2)

section Reading

variable {response : Response} {contentType : String} {own : List (Bytes × Bytes)} {body : Bytes}

/-- A response's own headers are read with their names in lower case. -/
theorem readHeader_own {headers : List (Value × Value)}
    (h : List.Forall₂ HeaderBytes headers own) :
    (own.map readHeader).map (fun header => (Value.str header.1, Value.str header.2))
      = headers.map Response.lowerName := by
  induction h with
  | nil => rfl
  | cons hfirst hrest ih =>
    rw [List.map_cons, List.map_cons, List.map_cons, ih]
    cases hfirst with
    | mk hname hvalue =>
      rw [readHeader, decode_bytesOf hname, decode_bytesOf hvalue]
      rfl

/-- No header is read under a name that none of them has. -/
theorem readHeader_ne {name : String} (hlower : Text.lower name = name)
    {headers : List (Value × Value)} (h : List.Forall₂ HeaderBytes headers own)
    (hnone : ∀ header ∈ headers, ¬ Response.isNamed header name = true) :
    ∀ header ∈ own.map readHeader, header.1 ≠ name := by
  induction h with
  | nil => exact fun header hheader => absurd hheader List.not_mem_nil
  | cons hfirst hrest ih =>
    obtain ⟨hnamed, hmore⟩ := List.forall_mem_cons.mp hnone
    refine List.forall_mem_cons.mpr ⟨?_, ih hmore⟩
    intro hread
    cases hfirst with
    | @mk given value hgiven hvalue =>
      have hlowered : Text.lower given = name := (decode_bytesOf hgiven).symm.trans hread
      apply hnamed
      show (Text.lower given == Text.lower name) = true
      rw [hlowered, hlower, beq_self_eq_true]

theorem readHeader_unframed (hown : response.Unframed)
    (h : List.Forall₂ HeaderBytes response.headers own) :
    ∀ header ∈ own.map readHeader, header.1 ≠ contentTypeName ∧ header.1 ≠ contentLengthName := by
  intro header hheader
  constructor
  · exact readHeader_ne Message.lower_contentTypeName h
      (fun header hmem hnamed => hown.contentType ⟨header, hmem, hnamed⟩) header hheader
  · exact readHeader_ne Message.lower_contentLengthName h
      (fun header hmem hnamed => hown.contentLength ⟨header, hmem, hnamed⟩) header hheader

/-- The headers that a response goes out with, as the client reads them. -/
theorem readHeader_allHeaders (hfits : Fits contentType) :
    (allHeaders contentType own body).map readHeader
      = (contentTypeName, contentType) :: own.map readHeader
        ++ [(contentLengthName, decode (lengthText body))] := by
  rw [allHeaders, List.map_append, List.map_cons, List.map_singleton, readHeader, readHeader,
    decode_bytesOf hfits, decode_bytesOf Message.fits_contentTypeName,
    decode_bytesOf Message.fits_contentLengthName]

/-- What the client takes the start of a response for, given the headers as it reads them. -/
theorem receive_eq (before : Response) (status : Value) (headers : List (Bytes × Bytes)) :
    receive before (.responseStart status headers)
      = { before with
          status
          contentType :=
            match (headers.map readHeader).reverse.lookup contentTypeName with
            | some contentType => .str contentType
            | none => ({} : Response).contentType
          headers := ((headers.map readHeader).filter fun header =>
            header.1 != contentTypeName && header.1 != contentLengthName).map
              fun header => (.str header.1, .str header.2) } :=
  rfl

/-- The start of a response is read as its status, its content type and its own headers. -/
theorem receive_start (h : response.Carries contentType own body) (hown : response.Unframed)
    (before : Response) :
    receive before (.responseStart response.status (allHeaders contentType own body))
      = { response with
          body := before.body, headers := response.headers.map Response.lowerName } := by
  have hne := readHeader_unframed hown h.headers
  -- looked up from the end, the content type is only found in front, where it was added
  have hnone : (own.map readHeader).reverse.lookup contentTypeName = none :=
    List.lookup_eq_none_iff.mpr fun header hheader =>
      bne_iff_ne.mpr (hne header (List.mem_reverse.mp hheader)).1.symm
  have hkept : (own.map readHeader).filter
      (fun header => header.1 != contentTypeName && header.1 != contentLengthName)
        = own.map readHeader := by
    refine List.filter_eq_self.mpr fun header hheader => ?_
    simpa using hne header hheader
  have hlength : (contentTypeName == contentLengthName) = false :=
    beq_false_of_ne Message.contentTypeName_ne
  rw [receive_eq, readHeader_allHeaders h.fits]
  simp [List.lookup_append, List.lookup_cons, hnone, hlength, hkept, readHeader_own h.headers,
    h.typed]

/-- The messages of a response are read as what can be read of it. -/
theorem readBack_messages (h : response.Carries contentType own body) (hown : response.Unframed) :
    readBack (response.messages contentType own body) = response.asRead body := by
  have hstart := receive_start h hown { body := .bytes [] }
  show receive (receive { body := .bytes [] } (.responseStart response.status
    (allHeaders contentType own body))) (.responseBody body) = _
  rw [hstart]
  rfl

end Reading

/-! ## Requests that the client makes -/

/-- The request that an application receives from the client. -/
def requestOf (method url : String) (headers : List (String × String)) : Except Failure Request :=
  scopeOf method url headers >>= Request.ofScope

section Requests

variable {method url : String} {headers : List (String × String)} {made : Request}

theorem kind_of_scopeOf {scope : Scope} (h : scopeOf method url headers = .ok scope) :
    scope.kind? = some "http" := by
  unfold scopeOf at h
  obtain ⟨sent, -, h⟩ := bind_eq_ok_iff.mp h
  obtain ⟨path, -, h⟩ := bind_eq_ok_iff.mp h
  obtain ⟨query, -, h⟩ := bind_eq_ok_iff.mp h
  cases h
  rfl

/-- The request for a URL, without headers. -/
def plainRequest (method url : String) : Request :=
  { method := Text.upper method
    path := (Text.cut '?' url).1
    query := (Text.cut '?' url).2
    client? := some ("127.0.0.1", 0) }

/-- A URL whose characters have bytes arrives in two parts, as it was given. -/
theorem requestOf_of_fits (method : String) (h : Fits url) :
    requestOf method url [] = .ok (plainRequest method url) := by
  obtain ⟨hpath, hquery⟩ := Text.Latin1.fits_cut h '?'
  have hpath := Message.bytesOfText_eq_ok_iff.mpr ⟨hpath, rfl⟩
  have hsent := Message.bytesOfText_eq_ok_iff.mpr ⟨hquery, rfl⟩
  have hscope : scopeOf method url [] = .ok
      { kind? := some "http"
        method? := some (Text.upper method)
        path? := some (Text.cut '?' url).1
        query := .bytes (bytesOf (Text.cut '?' url).2)
        client? := some ("127.0.0.1", 0) } := by
    unfold scopeOf
    dsimp only
    rw [hpath, hsent]
    rfl
  have harrives : RawQuery.toText (.bytes (bytesOf (Text.cut '?' url).2)) = (Text.cut '?' url).2 :=
    decode_bytesOf hquery
  refine bind_eq_ok_iff.mpr ⟨_, hscope, ?_⟩
  show Except.ok (Request.mk _ _ (RawQuery.toText _) _ _) = _
  rw [harrives]
  rfl

/-- The client hands its request to the application and reads back what was sent. -/
theorem request_eq_handle (app : App) (hmade : requestOf method url headers = .ok made) :
    ∃ scope, Request.ofScope scope = .ok made
      ∧ request app method url headers
        = { result := (app.handle scope).result.map fun _ => readBack (app.handle scope).sent
            events := (app.handle scope).events
            app := (app.handle scope).app } := by
  obtain ⟨scope, hscope, hrequest⟩ := bind_eq_ok_iff.mp hmade
  -- a scope of the client is one of a request, so nothing is ever received
  have hserved : app.serve scope ⟨[], .raised "RuntimeError" "nothing is received"⟩
      = app.handle scope := by
    rw [App.serve, kind_of_scopeOf hscope]
    rfl
  refine ⟨scope, hrequest, ?_⟩
  rw [request, hscope, ← hserved]
  rfl

/-- A request of the client is answered by what its messages add up to, or it fails as sending
does, and then nothing is sent. -/
theorem request_cases (app : App) (hmade : requestOf method url headers = .ok made) :
    let outcome := request app method url headers
    (∃ messages, Message.ofResponse (app.dispatch made).response = .ok messages
        ∧ outcome.result = .ok (readBack messages) ∧ outcome.sent = messages)
      ∨ ∃ failure, Message.ofResponse (app.dispatch made).response = .error failure
        ∧ outcome.result = .error failure ∧ outcome.sent = [] := by
  intro outcome
  obtain ⟨scope, hrequest, houtcome⟩ := request_eq_handle app hmade
  have hread : outcome.result
      = (app.handle scope).result.map fun _ => readBack (app.handle scope).sent :=
    congrArg App.Outcome.result houtcome
  have hevents : outcome.events = (app.handle scope).events := congrArg App.Outcome.events houtcome
  have hmessages : outcome.sent = (app.handle scope).sent :=
    congrArg (List.filterMap Event.sent?) hevents
  rw [hread, hmessages]
  rcases app.handle_cases hrequest with
    ⟨messages, hmessages, hresult, hsent⟩ | ⟨failure, hfailed, hresult, hsent⟩
  · rw [hresult, hsent]
    exact Or.inl ⟨messages, hmessages, rfl, rfl⟩
  · rw [hresult, hsent]
    exact Or.inr ⟨failure, hfailed, rfl, rfl⟩

/-- What the client reads is the application's answer to its request, and the handlers that are
called are those that answer it. -/
theorem request_dispatches (app : App) (hmade : requestOf method url headers = .ok made) :
    (request app method url headers).result
        = (Message.ofResponse (app.dispatch made).response).map readBack
      ∧ (request app method url headers).calls = (app.dispatch made).calls := by
  constructor
  · rcases request_cases app hmade with
      ⟨messages, hmessages, hresult, -⟩ | ⟨failure, hfailed, hresult, -⟩
    · rw [hmessages, hresult]
      rfl
    · rw [hfailed, hresult]
      rfl
  · obtain ⟨scope, hrequest, houtcome⟩ := request_eq_handle app hmade
    rw [← app.calls_handle hrequest, houtcome]
    rfl

/-- The body that goes out with a status that is a whole number. -/
theorem body_of_isInteger {response : Response} {body : Bytes} (h : response.BodyBytes body)
    {status : Int} (hstatus : response.status.IsInteger status) :
    (Message.Bodiless status → body = [])
      ∧ (¬ Message.Bodiless status → response.bodyBytes = .ok body) := by
  have hallowed := Message.bodyAllowed_of_isInteger hstatus
  by_cases hbodiless : Message.Bodiless status
  · refine ⟨fun _ => ?_, fun hbody => absurd hbodiless hbody⟩
    rw [decide_eq_true hbodiless] at hallowed
    cases h with
    | forbidden => rfl
    | text h => cases h.symm.trans hallowed
    | bytes h => cases h.symm.trans hallowed
  · refine ⟨fun hbody => absurd hbody hbodiless, fun _ => ?_⟩
    rw [decide_eq_false hbodiless] at hallowed
    cases h with
    | forbidden h => cases h.symm.trans hallowed
    | text _ hbody => rw [Response.bodyBytes, hbody]
    | bytes _ hbody => rw [Response.bodyBytes, hbody]

/-- A response that can be sent is read as what can be read of it. -/
theorem request_of_sendable (app : App) (hmade : requestOf method url headers = .ok made)
    {response : Response} (hresponse : (app.dispatch made).response = response)
    (hown : response.Unframed) (hsendable : response.Sendable) :
    ∃ body, response.BodyBytes body
      ∧ (request app method url headers).result = .ok (response.asRead body) := by
  rcases request_cases app hmade with ⟨messages, hmessages, hresult, -⟩ | ⟨failure, hfailed, -⟩
  · rw [hresponse] at hmessages
    obtain ⟨contentType, own, body, hcarries, hshape⟩ := Message.ofResponse_eq_ok_iff.mp hmessages
    refine ⟨body, hcarries.body, ?_⟩
    rw [hresult, hshape, readBack_messages hcarries hown]
  · obtain ⟨contentType, own, body, hcarries⟩ := Response.sendable_iff.mp hsendable
    have hmessages := Message.ofResponse_eq_ok_iff.mpr ⟨contentType, own, body, hcarries, rfl⟩
    rw [hresponse, hmessages] at hfailed
    cases hfailed

/-- Nothing is sent of a response that cannot be sent. -/
theorem request_of_not_sendable (app : App) (hmade : requestOf method url headers = .ok made)
    {response : Response} (hresponse : (app.dispatch made).response = response)
    (hcannot : ¬ response.Sendable) :
    (request app method url headers).sent = []
      ∧ ∃ failure, Message.ofResponse response = .error failure
        ∧ (request app method url headers).result = .error failure := by
  rcases request_cases app hmade with ⟨messages, hmessages, -⟩ | ⟨failure, hfailed, hresult, hsent⟩
  · rw [hresponse] at hmessages
    obtain ⟨contentType, own, body, hcarries, -⟩ := Message.ofResponse_eq_ok_iff.mp hmessages
    exact absurd (Response.sendable_iff.mpr ⟨contentType, own, body, hcarries⟩) hcannot
  · rw [hresponse] at hfailed
    exact ⟨hsent, failure, hfailed, hresult⟩

/-- **The client reads what was written.** Of a response that cannot be encoded nothing is
sent, and the request ends with the failure to encode it. Any other response comes back with
its status, its content type and its headers, in order and with their names in lower case, and
with the bytes of its body, or none where the status forbids a body; whatever header is looked
up in it is the one that the response has. -/
theorem request_reads_response (app : App) (hmade : requestOf method url headers = .ok made)
    {response : Response} (hresponse : (app.dispatch made).response = response)
    {status : Int} (hstatus : response.status.IsInteger status) (hown : response.Unframed) :
    let outcome := request app method url headers
    (¬ response.Sendable → outcome.sent = [] ∧
        ∃ failure, Message.ofResponse response = .error failure
          ∧ outcome.result = .error failure)
      ∧ (response.Sendable → ∃ body, outcome.result = .ok (response.asRead body)
        ∧ (Message.Bodiless status → body = [])
        ∧ (¬ Message.Bodiless status → response.bodyBytes = .ok body)
        ∧ ∀ name, (response.asRead body).header? name = response.header? name) := by
  intro outcome
  constructor
  · intro hcannot
    exact request_of_not_sendable app hmade hresponse hcannot
  · intro hsendable
    obtain ⟨body, hbody, hresult⟩ := request_of_sendable app hmade hresponse hown hsendable
    obtain ⟨hnone, hbytes⟩ := body_of_isInteger hbody hstatus
    exact ⟨body, hresult, hnone, hbytes, Response.header?_asRead hsendable body⟩

end Requests

/-! ## One handler that returns a response -/

/-- A route whose handler returns a response. -/
def loneRoute (response : Response) : Route Handler :=
  ⟨"/x", [.literal "", .literal "x"], .mk "lone" fun _ _ => .done response.toValue, 1⟩

/-- An application with that route. -/
def lone (response : Response) : App :=
  { router := { memory := Router.Memory.initial.install [loneRoute response] } }

theorem dispatch_lone {response : Response} (hreached : (lone response).router.Reached) :
    ((lone response).dispatch (plainRequest "GET" "/x")).response = response := by
  have hpath : (plainRequest "GET" "/x").path = "/x" := by decide +kernel
  have hfound : (lone response).router.snapshot.table.Resolves (plainRequest "GET" "/x").path
      (some ⟨loneRoute response, []⟩) := by
    rw [hpath]
    exact Router.Table.scan?_eq_iff.mp (by rfl)
  exact ((App.dispatch_answers hreached rfl _).unique
    (.matched hfound ⟨_, .done _, .converted rfl⟩)).2

theorem requestOf_lone : requestOf "GET" "/x" [] = .ok (plainRequest "GET" "/x") :=
  requestOf_of_fits "GET" (by decide +kernel)

/-- A response with a header whose name is in capitals, one of them the Kelvin sign. -/
def warm : Response :=
  { body := .str "日", headers := [(.str "X-\u212AELVIN", .str "300 °K")] }

theorem lower_warm : Text.lower "X-\u212AELVIN" = "x-kelvin" := by
  decide +kernel

theorem unframed_warm : warm.Unframed := by
  -- the names that are added are their own lower case, so `lower_warm` tells them apart
  have hnot : ∀ name, Text.lower name = name → "x-kelvin" ≠ name → ¬ warm.Brings name := by
    intro name hlower hne h
    obtain ⟨header, hmem, hnamed⟩ := h
    rw [List.mem_singleton.mp hmem] at hnamed
    have hsame : (Text.lower "X-\u212AELVIN" == Text.lower name) = true := hnamed
    rw [lower_warm, hlower, beq_iff_eq] at hsame
    exact hne hsame
  exact ⟨hnot _ Message.lower_contentTypeName (by decide),
    hnot _ Message.lower_contentLengthName (by decide)⟩

theorem sendable_warm : warm.Sendable where
  contentType := ⟨_, rfl, by decide⟩
  headers header hmem := by
    have hfits : Fits (Text.lower "X-\u212AELVIN") := by
      rw [lower_warm]
      decide
    rw [List.mem_singleton.mp hmem]
    exact ⟨_, _, rfl, hfits, by decide⟩
  status := .int 200
  body _ := Or.inl ⟨_, rfl⟩

/-- What is read of it. -/
def warmRead : Response :=
  { body := .bytes (Text.Utf8.encode ['日']), headers := [(.str "x-kelvin", .str "300 °K")] }

/-- The sign is read as the small letter that it stands for. -/
theorem request_reads_response_warm :
    (request (lone warm) "GET" "/x" []).result = .ok warmRead
      ∧ ∀ name, warmRead.header? name = warm.header? name := by
  have hreached : (lone warm).router.Reached :=
    ⟨[.begin (.register [("/x", .handler (loneRoute warm).handler)]), .step 0], by rfl⟩
  obtain ⟨-, hread⟩ := request_reads_response (lone warm) requestOf_lone (dispatch_lone hreached)
    (.int 200) unframed_warm
  obtain ⟨body, hresult, -, hbytes, hheader⟩ := hread sendable_warm
  have hbody : body = Text.Utf8.encode ['日'] :=
    Except.ok.inj ((hbytes (by decide)).symm.trans rfl)
  have hread : warm.asRead body = warmRead := by
    rw [hbody, warmRead, ← lower_warm]
    rfl
  rw [← hread]
  exact ⟨hresult, hheader⟩

/-- A response without a body, with a status that forbids one. -/
def silent : Response :=
  { body := .null, status := .int 204 }

theorem sendable_silent : silent.Sendable where
  contentType := ⟨_, rfl, by decide⟩
  headers header hmem := absurd hmem List.not_mem_nil
  status := .int 204
  body hallowed := by cases hallowed

/-- A body that cannot be encoded is no failure where the status forbids one: nobody tries. -/
theorem not_all_unencodable_fail :
    ¬ ∀ (app : App) (method url : String) (made : Request) (response : Response) (status : Int),
        requestOf method url [] = .ok made → (app.dispatch made).response = response →
          response.status.IsInteger status → response.Unframed →
            (∀ body, response.bodyBytes ≠ .ok body) →
              ∃ failure, (request app method url []).result = .error failure := by
  intro hall
  have hreached : (lone silent).router.Reached :=
    ⟨[.begin (.register [("/x", .handler (loneRoute silent).handler)]), .step 0], by rfl⟩
  have hunframed : silent.Unframed := Response.unframed_of_no_headers rfl
  obtain ⟨failure, hfailed⟩ := hall (lone silent) "GET" "/x" _ silent 204 requestOf_lone
    (dispatch_lone hreached) (.int 204) hunframed (fun body hbody => by cases hbody)
  obtain ⟨body, -, hresult⟩ := request_of_sendable (lone silent) requestOf_lone
    (dispatch_lone hreached) hunframed sendable_silent
  rw [hresult] at hfailed
  cases hfailed

end Client

end WebRouter
