import WebRouter.Proofs.Latin1RoundTrip
import WebRouter.Proofs.LowerCase

/-!
# The headers that frame a body

Two headers tell a receiver what to make of a body: its content type and its length. Sending
adds one of each, the type in front of the response's own headers and the length behind them,
and looks at no name of these. So what is added is always there, and it is alone only if the
response does not bring a header of that name along itself (`Response.Brings`), in whatever
case the name was given.

> `Message.framing_of_ofResponse`: the first content type sent is that of the response and the
> last length sent is that of the body; either is the only one exactly if the response brings
> none.
-/

namespace WebRouter

/-- A response with a header of its own of that name, whatever the case of the name. -/
def Response.Brings (response : Response) (name : String) : Prop :=
  ∃ header ∈ response.headers, Response.isNamed header name = true

namespace Message

open Text.Latin1 (bytesOf Fits)

/-- The values of the headers of a name, in order. -/
def valuesOf (name : String) (headers : List (Bytes × Bytes)) : List Bytes :=
  (headers.filter (·.1 == bytesOf name)).map (·.2)

/-- The length of a body as a header tells it. -/
def lengthText (body : Bytes) : Bytes :=
  bytesOf (String.ofList (Number.natText body.length))

/-! ## Headers of a name -/

theorem valuesOf_append (name : String) (first last : List (Bytes × Bytes)) :
    valuesOf name (first ++ last) = valuesOf name first ++ valuesOf name last := by
  rw [valuesOf, List.filter_append, List.map_append]
  rfl

theorem valuesOf_self (name : String) (value : Bytes) :
    valuesOf name [(bytesOf name, value)] = [value] := by
  simp [valuesOf]

theorem valuesOf_of_ne {name other : String} (h : bytesOf other ≠ bytesOf name) (value : Bytes) :
    valuesOf name [(bytesOf other, value)] = [] := by
  simp [valuesOf, h]

section Own

variable {name : String}

/-- A header goes out under a name, given in lower case, exactly if it has that name. -/
theorem sent_name_iff (hlower : Text.lower name = name) (hfits : Fits name)
    {header : Value × Value} {sent : Bytes × Bytes} (h : HeaderBytes header sent) :
    sent.1 = bytesOf name ↔ Response.isNamed header name = true := by
  cases h with
  | @mk given value hgiven hvalue =>
    rw [Text.Latin1.bytesOf_eq_iff hgiven hfits, Response.isNamed, hlower, beq_iff_eq]

/-- Nothing goes out under a name exactly if no header has it. -/
theorem valuesOf_eq_nil_iff (hlower : Text.lower name = name) (hfits : Fits name)
    {headers : List (Value × Value)} {own : List (Bytes × Bytes)}
    (h : List.Forall₂ HeaderBytes headers own) :
    valuesOf name own = [] ↔ ∀ header ∈ headers, ¬ Response.isNamed header name = true := by
  induction h with
  | nil => simp [valuesOf]
  | @cons header sent headers own hfirst hrest ih =>
    have hname := sent_name_iff hlower hfits hfirst
    rw [List.forall_mem_cons, ← ih, ← hname]
    -- both sides fail at a header of that name, and pass over any other
    by_cases hsent : sent.1 = bytesOf name
    · simp [valuesOf, hsent]
    · simp [valuesOf, hsent]

end Own

/-! ## What is sent for a body -/

theorem lower_contentTypeName : Text.lower contentTypeName = contentTypeName :=
  Text.lower_of_ascii (by decide)

theorem lower_contentLengthName : Text.lower contentLengthName = contentLengthName :=
  Text.lower_of_ascii (by decide)

theorem fits_contentTypeName : Fits contentTypeName := by
  decide

theorem fits_contentLengthName : Fits contentLengthName := by
  decide

theorem contentTypeName_ne : contentTypeName ≠ contentLengthName := by
  decide

theorem bytesOf_contentTypeName_ne : bytesOf contentTypeName ≠ bytesOf contentLengthName := by
  intro h
  exact contentTypeName_ne ((Text.Latin1.bytesOf_eq_iff fits_contentTypeName
    fits_contentLengthName).mp h)

section Framing

variable {response : Response} {contentType : String} {own : List (Bytes × Bytes)} {body : Bytes}
  {messages : List Message}

/-- The headers that a response goes out with. -/
def allHeaders (contentType : String) (own : List (Bytes × Bytes)) (body : Bytes) :
    List (Bytes × Bytes) :=
  (bytesOf contentTypeName, bytesOf contentType) :: own
    ++ [(bytesOf contentLengthName, lengthText body)]

theorem contentTypes_allHeaders (contentType : String) (own : List (Bytes × Bytes))
    (body : Bytes) :
    valuesOf contentTypeName (allHeaders contentType own body)
      = bytesOf contentType :: valuesOf contentTypeName own := by
  rw [allHeaders, ← List.singleton_append, valuesOf_append, valuesOf_append, valuesOf_self,
    valuesOf_of_ne bytesOf_contentTypeName_ne.symm, List.append_nil, List.singleton_append]

theorem contentLengths_allHeaders (contentType : String) (own : List (Bytes × Bytes))
    (body : Bytes) :
    valuesOf contentLengthName (allHeaders contentType own body)
      = valuesOf contentLengthName own ++ [lengthText body] := by
  rw [allHeaders, ← List.singleton_append, valuesOf_append, valuesOf_append, valuesOf_self,
    valuesOf_of_ne bytesOf_contentTypeName_ne, List.nil_append]

/-- The content type added in front is the only one if the response brings none. -/
theorem contentTypes_iff (h : response.Carries contentType own body) :
    valuesOf contentTypeName (allHeaders contentType own body) = [bytesOf contentType]
      ↔ ¬ response.Brings contentTypeName := by
  have hnone := valuesOf_eq_nil_iff lower_contentTypeName fits_contentTypeName h.headers
  rw [contentTypes_allHeaders, List.cons_eq_cons, and_iff_right rfl, hnone]
  simp [Response.Brings]

/-- The length added behind is the only one if the response brings none. -/
theorem contentLengths_iff (h : response.Carries contentType own body) :
    valuesOf contentLengthName (allHeaders contentType own body) = [lengthText body]
      ↔ ¬ response.Brings contentLengthName := by
  have hnone := valuesOf_eq_nil_iff lower_contentLengthName fits_contentLengthName h.headers
  rw [contentLengths_allHeaders, List.append_left_eq_self, hnone]
  simp [Response.Brings]

/-- **A body is framed unambiguously unless its response interferes.** Whatever goes out for a
response goes out as a start and a body. In the start the first content type is that of the
response and the last length is the number of bytes in the body; the one is the only content
type, and the other the only length, exactly if the response brings none along. -/
theorem framing_of_ofResponse (h : Message.ofResponse response = .ok messages) :
    ∃ headers body, messages = [.responseStart response.status headers, .responseBody body]
      ∧ (∃ contentType, response.contentType = .str contentType
        ∧ (valuesOf contentTypeName headers).head? = some (bytesOf contentType)
        ∧ (valuesOf contentTypeName headers = [bytesOf contentType]
          ↔ ¬ response.Brings contentTypeName))
      ∧ (valuesOf contentLengthName headers).getLast? = some (lengthText body)
      ∧ (valuesOf contentLengthName headers = [lengthText body]
        ↔ ¬ response.Brings contentLengthName) := by
  obtain ⟨contentType, own, body, hcarries, hmessages⟩ := Message.ofResponse_eq_ok_iff.mp h
  refine ⟨allHeaders contentType own body, body, hmessages,
    ⟨contentType, hcarries.typed, ?_, contentTypes_iff hcarries⟩, ?_,
    contentLengths_iff hcarries⟩
  · rw [contentTypes_allHeaders, List.head?_cons]
  · rw [contentLengths_allHeaders, List.getLast?_concat]

end Framing

/-- A response whose own headers contradict the two that are added. -/
def contrary : Response :=
  { body := .str "ok"
    headers := [(.str contentTypeName, .str "text/plain"), (.str contentLengthName, .str "999")] }

/-- What goes out for it besides. -/
def contraryOwn : List (Bytes × Bytes) :=
  [(bytesOf contentTypeName, bytesOf "text/plain"), (bytesOf contentLengthName, bytesOf "999")]

theorem carries_contrary :
    contrary.Carries "text/html; charset=utf-8" contraryOwn (Text.Utf8.encode "ok".toList) where
  typed := rfl
  fits := by decide
  headers := by
    have htype : HeaderBytes (.str contentTypeName, .str "text/plain")
        (bytesOf (Text.lower contentTypeName), bytesOf "text/plain") :=
      .mk (by rw [lower_contentTypeName]; decide) (by decide)
    have hlength : HeaderBytes (.str contentLengthName, .str "999")
        (bytesOf (Text.lower contentLengthName), bytesOf "999") :=
      .mk (by rw [lower_contentLengthName]; decide) (by decide)
    rw [lower_contentTypeName] at htype
    rw [lower_contentLengthName] at hlength
    exact .cons htype (.cons hlength .nil)
  body := .text rfl rfl

theorem brings_contrary :
    contrary.Brings contentTypeName ∧ contrary.Brings contentLengthName := by
  constructor
  · exact ⟨_, List.mem_cons_self, beq_self_eq_true _⟩
  · exact ⟨_, List.mem_cons_of_mem _ List.mem_cons_self, beq_self_eq_true _⟩

/-- The contrary response goes out with its own type and length besides those added. -/
theorem framing_of_ofResponse_contrary :
    ∃ messages, Message.ofResponse contrary = .ok messages
      ∧ ∃ headers body, messages = [.responseStart (.int 200) headers, .responseBody body]
        ∧ (valuesOf contentLengthName headers).getLast? = some (lengthText body)
        ∧ valuesOf contentLengthName headers ≠ [lengthText body] := by
  have hmessages := Message.ofResponse_eq_ok_iff.mpr ⟨_, _, _, carries_contrary, rfl⟩
  obtain ⟨headers, body, hshape, -, hlast, honly⟩ := framing_of_ofResponse hmessages
  exact ⟨_, hmessages, headers, body, hshape, hlast,
    fun he => honly.mp he brings_contrary.2⟩

/-- What a response brings along is sent as well, so that a body can go out with two lengths,
or with two types. -/
theorem not_framed_once :
    (¬ ∀ (response : Response) (messages : List Message),
        Message.ofResponse response = .ok messages →
          ∃ status headers body, messages = [.responseStart status headers, .responseBody body]
            ∧ valuesOf contentLengthName headers = [lengthText body])
      ∧ ¬ ∀ (response : Response) (messages : List Message),
          Message.ofResponse response = .ok messages →
            ∃ status headers body contentType,
              messages = [.responseStart status headers, .responseBody body]
                ∧ valuesOf contentTypeName headers = [contentType] := by
  have hmessages := Message.ofResponse_eq_ok_iff.mpr ⟨_, _, _, carries_contrary, rfl⟩
  constructor
  · intro hall
    obtain ⟨status, headers, body, hshape, hlengths⟩ := hall _ _ hmessages
    cases hshape
    exact (contentLengths_iff carries_contrary).mp hlengths brings_contrary.2
  · intro hall
    obtain ⟨status, headers, body, contentType, hshape, htypes⟩ := hall _ _ hmessages
    cases hshape
    -- the header that is added would have to be all there is
    have htwo := contentTypes_allHeaders "text/html; charset=utf-8" contraryOwn
      (Text.Utf8.encode "ok".toList)
    have hone : (valuesOf contentTypeName contraryOwn).length = 0 := by
      have := congrArg List.length (htwo.symm.trans htypes)
      simpa using this
    exact absurd hone (by decide +kernel)

end Message

end WebRouter
