import Mathlib.Data.List.Forall2
import WebRouter.Http.Message
import WebRouter.Proofs.Dispatching

/-!
# What goes out for a response

A response can be made of anything, and whether it can be sent comes out when it is
sent. `Response.Carries` says what goes out for it, and `Response.Sendable`, without any
bytes, whether something does.

> `Message.ofResponse_eq_ok_iff`: a response goes out as two messages, one with its status
> and headers and one with its body, or not at all.

What a handler returns or raises is well made if the headers in it are texts each of whose
characters has a byte, and the responses in it are made as they are declared; then the
response to it can be sent (`Answered.wellMade`).
-/

namespace WebRouter

/-! ## Texts as bytes -/

namespace Text.Latin1

/-- A text each of whose characters has a byte. -/
def Fits (text : String) : Prop :=
  ∀ c ∈ text.toList, c.toNat < 256

instance (text : String) : Decidable (Fits text) :=
  List.decidableBAll (fun c : Char => c.toNat < 256) text.toList

theorem mapM_byteOf? {text : List Char} {bytes : Bytes} :
    text.mapM byteOf? = some bytes ↔
      (∀ c ∈ text, c.toNat < 256) ∧ bytes = text.map fun c => UInt8.ofNat c.toNat := by
  induction text generalizing bytes with
  | nil => simp [eq_comm]
  | cons c rest ih =>
    rw [List.mapM_cons, List.forall_mem_cons, List.map_cons]
    by_cases hc : c.toNat < 256
    · have hbyte : byteOf? c = some (UInt8.ofNat c.toNat) := if_pos hc
      rw [hbyte]
      cases hrest : rest.mapM byteOf? with
      | none =>
        refine iff_of_false (fun h => by cases h) fun h => ?_
        have hnone := ih.mpr ⟨h.1.2, rfl⟩
        rw [hrest] at hnone
        cases hnone
      | some more =>
        obtain ⟨hfits, hmore⟩ := ih.mp hrest
        rw [← hmore]
        refine ⟨fun h => ⟨⟨hc, hfits⟩, ?_⟩, fun h => by rw [h.2]; rfl⟩
        cases h
        rfl
    · have hbyte : byteOf? c = none := if_neg hc
      rw [hbyte]
      exact iff_of_false (fun h => by cases h) fun h => hc h.1.1

theorem encode?_eq_some_iff {text : String} {bytes : Bytes} :
    encode? text = some bytes ↔ Fits text ∧ bytes = bytesOf text :=
  mapM_byteOf?

end Text.Latin1

/-! ## What a response goes out as -/

/-- The bytes of one of a response's own headers. -/
inductive HeaderBytes : Value × Value → Bytes × Bytes → Prop
  | mk {name value : String} (hname : Text.Latin1.Fits (Text.lower name))
      (hvalue : Text.Latin1.Fits value) :
      HeaderBytes (.str name, .str value)
        (Text.Latin1.bytesOf (Text.lower name), Text.Latin1.bytesOf value)

/-- The bytes sent for the body of a response. -/
inductive Response.BodyBytes (response : Response) : Bytes → Prop
  | forbidden (h : Message.bodyAllowed response.status = .ok false) : BodyBytes response []
  | text {s : String} (h : Message.bodyAllowed response.status = .ok true)
      (hbody : response.body = .str s) : BodyBytes response (Text.Utf8.encode s.toList)
  | bytes {bs : Bytes} (h : Message.bodyAllowed response.status = .ok true)
      (hbody : response.body = .bytes bs) : BodyBytes response bs

/-- What goes out for a response: the bytes of its content type, of its own headers and of
its body. -/
structure Response.Carries (response : Response) (contentType : String)
    (own : List (Bytes × Bytes)) (body : Bytes) : Prop where
  typed : response.contentType = .str contentType
  fits : Text.Latin1.Fits contentType
  headers : List.Forall₂ HeaderBytes response.headers own
  body : response.BodyBytes body

/-- The two messages that a response goes out as. -/
def Response.messages (response : Response) (contentType : String) (own : List (Bytes × Bytes))
    (body : Bytes) : List Message :=
  [.responseStart response.status
      ((Text.Latin1.bytesOf Message.contentTypeName, Text.Latin1.bytesOf contentType) :: own
        ++ [(Text.Latin1.bytesOf Message.contentLengthName,
          Text.Latin1.bytesOf (String.ofList (Number.natText body.length)))]),
    .responseBody body]

/-- A number that can be compared with others. -/
inductive Value.IsNumber : Value → Prop
  | bool (b : Bool) : IsNumber (.bool b)
  | int (i : Int) : IsNumber (.int i)
  | float (x : Number.Binary64) : IsNumber (.float x)

/-- Headers that can be sent. -/
def SendableHeaders (headers : List (Value × Value)) : Prop :=
  ∀ header ∈ headers, ∃ name value : String, header = (.str name, .str value)
    ∧ Text.Latin1.Fits (Text.lower name) ∧ Text.Latin1.Fits value

/-- A response that can be sent: its content type and its headers can be encoded, and its
body is a text or bytes unless its status forbids one. -/
structure Response.Sendable (response : Response) : Prop where
  contentType : ∃ text, response.contentType = .str text ∧ Text.Latin1.Fits text
  headers : SendableHeaders response.headers
  status : response.status.IsNumber
  body : Message.bodyAllowed response.status = .ok true →
    (∃ text, response.body = .str text) ∨ ∃ bytes, response.body = .bytes bytes

/-! ## Results that are put together -/

section Pipelines

variable {ε α β : Type}

theorem bind_eq_ok_iff {x : Except ε α} {f : α → Except ε β} {b : β} :
    (x >>= f) = .ok b ↔ ∃ a, x = .ok a ∧ f a = .ok b := by
  cases x with
  | error e => exact iff_of_false (fun h => by cases h) fun ⟨a, h, _⟩ => by cases h
  | ok a => exact ⟨fun h => ⟨a, rfl, h⟩, fun ⟨a', h, hf⟩ => by cases h; exact hf⟩

theorem map_eq_ok_iff {x : Except ε α} {f : α → β} {b : β} :
    x.map f = .ok b ↔ ∃ a, x = .ok a ∧ f a = b := by
  cases x with
  | error e => exact iff_of_false (fun h => by cases h) fun ⟨a, h, _⟩ => by cases h
  | ok a => simp [Except.map]

theorem mapM_eq_ok_iff {f : α → Except ε β} {as : List α} {bs : List β} :
    as.mapM f = .ok bs ↔ List.Forall₂ (fun a b => f a = .ok b) as bs := by
  induction as generalizing bs with
  | nil =>
    rw [List.forall₂_nil_left_iff]
    exact ⟨fun h => by cases h; rfl, fun h => by rw [h]; rfl⟩
  | cons a rest ih =>
    rw [List.mapM_cons, bind_eq_ok_iff, List.forall₂_cons_left_iff]
    constructor
    · rintro ⟨b, hb, hrest⟩
      obtain ⟨more, hmore, hbs⟩ := bind_eq_ok_iff.mp hrest
      cases hbs
      exact ⟨b, more, hb, ih.mp hmore, rfl⟩
    · rintro ⟨b, more, hb, hmore, rfl⟩
      exact ⟨b, hb, bind_eq_ok_iff.mpr ⟨more, ih.mpr hmore, rfl⟩⟩

end Pipelines

namespace Message

theorem bytesOfText_eq_ok_iff {text : String} {bytes : Bytes} :
    bytesOfText text = .ok bytes ↔ Text.Latin1.Fits text ∧ bytes = Text.Latin1.bytesOf text := by
  rw [← Text.Latin1.encode?_eq_some_iff, bytesOfText]
  cases Text.Latin1.encode? text with
  | none => exact iff_of_false (fun h => by cases h) fun h => by cases h
  | some given => simp

theorem bytesOfValue_eq_ok_iff {value : Value} {bytes : Bytes} :
    bytesOfValue value = .ok bytes ↔ ∃ text, value = .str text ∧ Text.Latin1.Fits text
      ∧ bytes = Text.Latin1.bytesOf text := by
  by_cases htext : ∃ text, value = .str text
  · obtain ⟨text, rfl⟩ := htext
    rw [bytesOfValue, bytesOfText_eq_ok_iff]
    simp
  · have hfails : ¬ bytesOfValue value = .ok bytes := by
      intro h
      unfold bytesOfValue at h
      split at h
      · next s => exact htext ⟨s, rfl⟩
      · cases h
    exact iff_of_false hfails fun ⟨text, h, _⟩ => htext ⟨text, h⟩

theorem bytesOfName_eq_ok_iff {value : Value} {bytes : Bytes} :
    bytesOfName value = .ok bytes ↔ ∃ text, value = .str text
      ∧ Text.Latin1.Fits (Text.lower text) ∧ bytes = Text.Latin1.bytesOf (Text.lower text) := by
  by_cases htext : ∃ text, value = .str text
  · obtain ⟨text, rfl⟩ := htext
    rw [bytesOfName, bytesOfText_eq_ok_iff]
    simp
  · have hfails : ¬ bytesOfName value = .ok bytes := by
      intro h
      unfold bytesOfName at h
      split at h
      · next s => exact htext ⟨s, rfl⟩
      · cases h
      · cases h
    exact iff_of_false hfails fun ⟨text, h, _⟩ => htext ⟨text, h⟩

/-- A header goes out as bytes exactly if its name and its value are texts that fit. -/
theorem bytesOfHeader_eq_ok_iff {header : Value × Value} {bytes : Bytes × Bytes} :
    (do return (← bytesOfName header.1, ← bytesOfValue header.2)) = Except.ok bytes ↔
      HeaderBytes header bytes := by
  obtain ⟨name, value⟩ := header
  rw [bind_eq_ok_iff]
  constructor
  · rintro ⟨nameBytes, hencoded, hrest⟩
    obtain ⟨valueBytes, hvalueEncoded, hbytes⟩ := bind_eq_ok_iff.mp hrest
    obtain ⟨nameText, hnameText, hnameFits, hnameBytes⟩ := bytesOfName_eq_ok_iff.mp hencoded
    obtain ⟨valueText, hvalueText, hvalueFits, hvalueBytes⟩ :=
      bytesOfValue_eq_ok_iff.mp hvalueEncoded
    have hname : name = .str nameText := hnameText
    have hvalue : value = .str valueText := hvalueText
    have hbytes : (nameBytes, valueBytes) = bytes := Except.ok.inj hbytes
    rw [← hbytes, hname, hvalue, hnameBytes, hvalueBytes]
    exact .mk hnameFits hvalueFits
  · intro h
    cases h with
    | mk hname hvalue =>
      exact ⟨_, bytesOfName_eq_ok_iff.mpr ⟨_, rfl, hname, rfl⟩,
        bind_eq_ok_iff.mpr ⟨_, bytesOfValue_eq_ok_iff.mpr ⟨_, rfl, hvalue, rfl⟩, rfl⟩⟩

theorem headersOf_eq_ok_iff {response : Response} {headers : List (Bytes × Bytes)} :
    headersOf response = .ok headers ↔ ∃ contentType own,
      response.contentType = .str contentType ∧ Text.Latin1.Fits contentType
        ∧ List.Forall₂ HeaderBytes response.headers own
        ∧ headers
          = (Text.Latin1.bytesOf contentTypeName, Text.Latin1.bytesOf contentType) :: own := by
  rw [headersOf, bind_eq_ok_iff]
  constructor
  · rintro ⟨typeBytes, htype, hrest⟩
    obtain ⟨own, hown, hheaders⟩ := bind_eq_ok_iff.mp hrest
    obtain ⟨contentType, hcontent, hfits, rfl⟩ := bytesOfValue_eq_ok_iff.mp htype
    exact ⟨contentType, own, hcontent, hfits,
      (mapM_eq_ok_iff.mp hown).imp fun _ _ h => bytesOfHeader_eq_ok_iff.mp h,
      (Except.ok.inj hheaders).symm⟩
  · rintro ⟨contentType, own, hcontent, hfits, hown, rfl⟩
    refine ⟨_, bytesOfValue_eq_ok_iff.mpr ⟨contentType, hcontent, hfits, rfl⟩,
      bind_eq_ok_iff.mpr ⟨own, mapM_eq_ok_iff.mpr ?_, rfl⟩⟩
    exact hown.imp fun _ _ h => bytesOfHeader_eq_ok_iff.mpr h

theorem bodyOf_eq_ok_iff {response : Response} {body : Bytes} :
    bodyOf response = .ok body ↔ response.BodyBytes body := by
  rw [bodyOf, bind_eq_ok_iff]
  constructor
  · rintro ⟨allowed, hallowed, hbody⟩
    cases allowed with
    | false => cases hbody; exact .forbidden hallowed
    | true =>
      have hbody : response.bodyBytes = .ok body := hbody
      unfold Response.bodyBytes at hbody
      split at hbody
      · next bs hbytes => cases hbody; exact .bytes hallowed hbytes
      · next s htext => cases hbody; exact .text hallowed htext
      · cases hbody
  · intro h
    cases h with
    | forbidden h => exact ⟨false, h, rfl⟩
    | text h hbody =>
      refine ⟨true, h, ?_⟩
      show response.bodyBytes = _
      rw [Response.bodyBytes, hbody]
    | bytes h hbody =>
      refine ⟨true, h, ?_⟩
      show response.bodyBytes = _
      rw [Response.bodyBytes, hbody]

/-- The messages that a response goes out as, if it goes out. -/
theorem ofResponse_eq_ok_iff {response : Response} {messages : List Message} :
    ofResponse response = .ok messages ↔ ∃ contentType own body,
      response.Carries contentType own body
        ∧ messages = response.messages contentType own body := by
  rw [ofResponse, bind_eq_ok_iff]
  constructor
  · rintro ⟨headers, hheaders, hrest⟩
    obtain ⟨body, hbody, hmessages⟩ := bind_eq_ok_iff.mp hrest
    obtain ⟨contentType, own, hcontent, hfits, hown, rfl⟩ := headersOf_eq_ok_iff.mp hheaders
    exact ⟨contentType, own, body, ⟨hcontent, hfits, hown, bodyOf_eq_ok_iff.mp hbody⟩,
      (Except.ok.inj hmessages).symm⟩
  · rintro ⟨contentType, own, body, ⟨hcontent, hfits, hown, hbody⟩, rfl⟩
    exact ⟨_, headersOf_eq_ok_iff.mpr ⟨contentType, own, hcontent, hfits, hown, rfl⟩,
      bind_eq_ok_iff.mpr ⟨body, bodyOf_eq_ok_iff.mpr hbody, rfl⟩⟩

end Message

/-! ## Which responses can be sent -/

/-- A status is compared with others exactly if it is a number. -/
theorem Message.exists_bodyAllowed_iff {status : Value} :
    (∃ allowed, Message.bodyAllowed status = .ok allowed) ↔ status.IsNumber := by
  constructor
  · rintro ⟨allowed, h⟩
    obtain ⟨least, hleast, -⟩ := bind_eq_ok_iff.mp h
    unfold Message.isAtLeast at hleast
    split at hleast
    · exact .bool _
    · exact .int _
    · exact .float _
    · cases hleast
  · intro h
    cases h with
    | bool b => exact ⟨_, rfl⟩
    | int i => exact ⟨_, rfl⟩
    | float x => exact ⟨_, rfl⟩

theorem sendableHeaders_iff {headers : List (Value × Value)} :
    SendableHeaders headers ↔ ∃ own, List.Forall₂ HeaderBytes headers own := by
  induction headers with
  | nil => exact iff_of_true (fun _ h => (List.not_mem_nil h).elim) ⟨[], .nil⟩
  | cons header rest ih =>
    unfold SendableHeaders
    rw [List.forall_mem_cons]
    constructor
    · rintro ⟨⟨name, value, rfl, hname, hvalue⟩, hrest⟩
      obtain ⟨own, hown⟩ := ih.mp hrest
      exact ⟨_, .cons (.mk hname hvalue) hown⟩
    · rintro ⟨own, hown⟩
      cases hown with
      | cons hfirst hrest =>
        cases hfirst with
        | mk hname hvalue => exact ⟨⟨_, _, rfl, hname, hvalue⟩, ih.mpr ⟨_, hrest⟩⟩

theorem Response.sendable_iff {response : Response} :
    response.Sendable ↔ ∃ contentType own body, response.Carries contentType own body := by
  constructor
  · rintro ⟨⟨contentType, hcontent, hfits⟩, hheaders, hstatus, hbody⟩
    obtain ⟨own, hown⟩ := sendableHeaders_iff.mp hheaders
    obtain ⟨allowed, hallowed⟩ := Message.exists_bodyAllowed_iff.mpr hstatus
    cases allowed with
    | false => exact ⟨contentType, own, [], hcontent, hfits, hown, .forbidden hallowed⟩
    | true =>
      rcases hbody hallowed with ⟨s, hs⟩ | ⟨bs, hbs⟩
      · exact ⟨contentType, own, _, hcontent, hfits, hown, .text hallowed hs⟩
      · exact ⟨contentType, own, bs, hcontent, hfits, hown, .bytes hallowed hbs⟩
  · rintro ⟨contentType, own, body, hcontent, hfits, hown, hbody⟩
    refine ⟨⟨contentType, hcontent, hfits⟩, sendableHeaders_iff.mpr ⟨own, hown⟩, ?_, ?_⟩
    · cases hbody with
      | forbidden h => exact Message.exists_bodyAllowed_iff.mp ⟨_, h⟩
      | text h _ => exact Message.exists_bodyAllowed_iff.mp ⟨_, h⟩
      | bytes h _ => exact Message.exists_bodyAllowed_iff.mp ⟨_, h⟩
    · intro hallowed
      cases hbody with
      | forbidden h => cases h.symm.trans hallowed
      | text _ hs => exact Or.inl ⟨_, hs⟩
      | bytes _ hbs => exact Or.inr ⟨_, hbs⟩

/-! ## Responses that are made as they are declared -/

/-- A response each of whose parts is what it is declared as, with headers that can be
sent. -/
structure Response.WellMade (response : Response) : Prop where
  contentType : ∃ text, response.contentType = .str text ∧ Text.Latin1.Fits text
  headers : SendableHeaders response.headers
  status : response.status.IsNumber
  body : (∃ text, response.body = .str text) ∨ ∃ bytes, response.body = .bytes bytes

theorem Response.WellMade.sendable {response : Response} (h : response.WellMade) :
    response.Sendable :=
  ⟨h.contentType, h.headers, h.status, fun _ => h.body⟩

/-- A returned value that brings no header along that cannot be sent, and no response that
is not made as it is declared. -/
inductive Value.WellMade : Value → Prop
  | plain {value : Value} (htuple : ∀ items, value ≠ .tuple items)
      (hresponse : ∀ body status contentType headers,
        value ≠ .response body status contentType headers) : WellMade value
  | response {response : Response} (h : response.WellMade) : WellMade response.toValue
  | status {inner status : Value} (h : WellMade inner) (hstatus : status.IsNumber) :
      WellMade (.tuple [inner, status])
  | headers {inner status : Value} {headers : List (Value × Value)} (h : WellMade inner)
      (hstatus : status.IsNumber) (hheaders : SendableHeaders headers) :
      WellMade (.tuple [inner, status, .dict headers])

/-- What a handler returns or raises, if it brings nothing along that cannot be sent. -/
inductive WellMadeResult : Except Failure Value → Prop
  | returned {value : Value} (h : value.WellMade) : WellMadeResult (.ok value)
  | http {error : HttpError} (h : ∀ header ∈ error.headers,
      Text.Latin1.Fits (Text.lower header.1) ∧ Text.Latin1.Fits header.2) :
      WellMadeResult (.error (.http error))
  | failed {failure : Failure} (h : ∀ error, failure ≠ .http error) :
      WellMadeResult (.error failure)

/-- A response without headers of its own. -/
theorem Response.wellMade_bare {body status : Value} {contentType : String}
    (hfits : Text.Latin1.Fits contentType) (hstatus : status.IsNumber)
    (hbody : (∃ text, body = .str text) ∨ ∃ bytes, body = .bytes bytes) :
    ({ body, status, contentType := .str contentType } : Response).WellMade :=
  ⟨⟨contentType, rfl, hfits⟩, fun _ h => (List.not_mem_nil h).elim, hstatus, hbody⟩

theorem Response.wellMade_page (text : String) (status : Int) :
    ({ body := .str text, status := .int status } : Response).WellMade :=
  wellMade_bare (by decide +kernel) (.int status) (Or.inl ⟨text, rfl⟩)

theorem Response.WellMade.withStatus {response : Response} (h : response.WellMade)
    {status : Value} (hstatus : status.IsNumber) : (response.withStatus status).WellMade :=
  ⟨h.contentType, h.headers, hstatus, h.body⟩

theorem Response.WellMade.withHeaders {response : Response} (h : response.WellMade)
    {headers : List (Value × Value)} (hheaders : SendableHeaders headers) :
    (response.withHeaders headers).WellMade := by
  rw [Response.withHeaders_eq]
  refine ⟨h.contentType, fun header hheader => ?_, h.status, h.body⟩
  rcases List.mem_append.mp hheader with hold | hnew
  · exact h.headers header hold
  · exact hheaders header hnew

namespace Reply

theorem wellMade_of_json {value : Value} {response : Response} (h : json value = .ok response) :
    response.WellMade := by
  obtain ⟨text, -, rfl⟩ := map_eq_ok_iff.mp h
  exact Response.wellMade_bare (by decide +kernel) (.int 200) (Or.inl ⟨text, rfl⟩)

/-- What is well made becomes a well made response, if it becomes one. -/
theorem wellMade_of_ofValue {value : Value} {response : Response} (hvalue : value.WellMade)
    (h : ofValue value = .ok response) : response.WellMade := by
  induction hvalue generalizing response with
  | @plain value htuple hresponse =>
    unfold ofValue at h
    split at h
    · exact absurd rfl (hresponse _ _ _ _)
    · cases h
      exact Response.wellMade_page "" 204
    · cases h
      exact Response.wellMade_page _ 200
    · cases h
      exact Response.wellMade_bare (by decide +kernel) (.int 200) (Or.inr ⟨_, rfl⟩)
    · exact wellMade_of_json h
    · exact wellMade_of_json h
    · exact absurd rfl (htuple _)
    · exact absurd rfl (htuple _)
    · exact absurd rfl (htuple _)
    · exact absurd rfl (htuple _)
    · cases h
  | response hmade => cases h; exact hmade
  | status hinner hstatus ih =>
    cases hstatus with
    | bool b =>
      obtain ⟨inner, hgiven, rfl⟩ := map_eq_ok_iff.mp h
      exact (ih hgiven).withStatus (.bool b)
    | int i =>
      obtain ⟨inner, hgiven, rfl⟩ := map_eq_ok_iff.mp h
      exact (ih hgiven).withStatus (.int i)
    | float x => cases h
  | headers hinner hstatus hheaders ih =>
    cases hstatus with
    | bool b =>
      obtain ⟨inner, hgiven, rfl⟩ := map_eq_ok_iff.mp h
      exact ((ih hgiven).withStatus (.bool b)).withHeaders hheaders
    | int i =>
      obtain ⟨inner, hgiven, rfl⟩ := map_eq_ok_iff.mp h
      exact ((ih hgiven).withStatus (.int i)).withHeaders hheaders
    | float x => cases h

end Reply

/-- A handler's result that is well made is answered with a well made response. -/
theorem Answered.wellMade {debug : Bool} {result : Except Failure Value} {response : Response}
    (h : Answered debug result response) (hresult : WellMadeResult result) :
    response.WellMade := by
  cases h with
  | converted h =>
    cases hresult with
    | returned hvalue => exact Reply.wellMade_of_ofValue hvalue h
  | http error =>
    cases hresult with
    | http hfits =>
      have hpage := Response.wellMade_page error.shown error.status
      refine ⟨hpage.contentType, fun header hheader => ?_, hpage.status, hpage.body⟩
      obtain ⟨⟨name, value⟩, hmem, rfl⟩ := List.mem_map.mp hheader
      obtain ⟨hname, hvalue⟩ := hfits (name, value) hmem
      exact ⟨name, value, rfl, hname, hvalue⟩
    | failed hne => exact absurd rfl (hne error)
  | rejected _ => exact Response.wellMade_page _ 500
  | failed _ => exact Response.wellMade_page _ 500

end WebRouter
