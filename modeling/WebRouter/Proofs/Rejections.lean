import WebRouter.Http.Reply

/-!
# Why a value stands for no response

A handler may return a value that stands for no response: one of an unfit kind, or a
mapping or a list that has no spelling as JSON. These are the only ways in which making
a response of a value can fail (`Reply.isRejection_of_ofValue`), so no value can pass for
an error that a handler raises to be answered (`Failure.IsRejection.ne_http`).
-/

namespace WebRouter

/-- A failure that a value can be the cause of. -/
inductive Failure.IsRejection : Failure → Prop
  | noResponse (kind : String) : IsRejection (.noResponse kind)
  | jsonKey (kind : String) : IsRejection (.jsonKey kind)
  | tooManyDigits : IsRejection .tooManyDigits

theorem Failure.IsRejection.ne_http {failure : Failure} (h : failure.IsRejection)
    (error : HttpError) : failure ≠ .http error := by
  intro he
  rw [he] at h
  cases h

section Pipelines

variable {α β : Type} {failure : Failure}

theorem Failure.of_map {x : Except Failure α} {f : α → β} (h : x.map f = .error failure) :
    x = .error failure := by
  cases x with
  | ok a => cases h
  | error e => cases h; rfl

/-- A failure comes from the first part or, after that has given its result, from the
second. -/
theorem Failure.of_bind {x : Except Failure α} {f : α → Except Failure β}
    (h : (x >>= f) = .error failure) :
    x = .error failure ∨ ∃ a, x = .ok a ∧ f a = .error failure := by
  cases x with
  | ok a => exact Or.inr ⟨a, rfl, h⟩
  | error e => cases h; exact Or.inl rfl

end Pipelines

namespace Json

variable {failure : Failure}

theorem isRejection_of_integer {i : Int} (h : integer i = .error failure) :
    failure.IsRejection := by
  rw [integer] at h
  split at h
  · cases h
  · cases h; exact .tooManyDigits

theorem isRejection_of_key {value : Value} (h : key value = .error failure) :
    failure.IsRejection := by
  unfold key at h
  split at h
  · cases h
  · cases h
  · cases h
  · exact isRejection_of_integer (Failure.of_map h)
  · cases h
  · cases h; exact .jsonKey _

mutual

/-- What JSON refuses is a number with too many digits or a key, however deep inside. -/
theorem isRejection_of_write (value : Value) (h : write value = .error failure) :
    failure.IsRejection := by
  cases value with
  | null => cases h
  | bool b => cases h
  | int i => exact isRejection_of_integer h
  | float x => cases h
  | str s => cases h
  | bytes bs => cases h
  | list items =>
    rcases Failure.of_bind h with hitems | ⟨texts, -, hdone⟩
    · exact isRejection_of_writeItems items hitems
    · cases hdone
  | tuple items =>
    rcases Failure.of_bind h with hitems | ⟨texts, -, hdone⟩
    · exact isRejection_of_writeItems items hitems
    · cases hdone
  | dict entries =>
    rcases Failure.of_bind h with hentries | ⟨texts, -, hdone⟩
    · exact isRejection_of_writeEntries entries hentries
    · cases hdone
  | response body status contentType headers => cases h
  | object kind => cases h

theorem isRejection_of_writeItems (items : List Value) (h : writeItems items = .error failure) :
    failure.IsRejection := by
  cases items with
  | nil => cases h
  | cons value rest =>
    rcases Failure.of_bind h with hvalue | ⟨text, -, hmore⟩
    · exact isRejection_of_write value hvalue
    · rcases Failure.of_bind hmore with hrest | ⟨texts, -, hdone⟩
      · exact isRejection_of_writeItems rest hrest
      · cases hdone

theorem isRejection_of_writeEntries (entries : List (Value × Value))
    (h : writeEntries entries = .error failure) : failure.IsRejection := by
  cases entries with
  | nil => cases h
  | cons entry rest =>
    obtain ⟨name, value⟩ := entry
    rcases Failure.of_bind h with hname | ⟨text, -, hmore⟩
    · exact isRejection_of_key hname
    · rcases Failure.of_bind hmore with hvalue | ⟨text', -, hmore⟩
      · exact isRejection_of_write value hvalue
      · rcases Failure.of_bind hmore with hrest | ⟨texts, -, hdone⟩
        · exact isRejection_of_writeEntries rest hrest
        · cases hdone

end

end Json

/-- A value that stands for no response is of an unfit kind, or cannot be spelt as JSON. -/
theorem Reply.isRejection_of_ofValue {value : Value} {failure : Failure}
    (h : ofValue value = .error failure) : failure.IsRejection := by
  fun_induction ofValue value with
  | case1 body status contentType headers => cases h
  | case2 => cases h
  | case3 s => cases h
  | case4 bs => cases h
  | case5 entries => exact Json.isRejection_of_write _ (Failure.of_map h)
  | case6 items => exact Json.isRejection_of_write _ (Failure.of_map h)
  | case7 inner i ih => exact ih (Failure.of_map h)
  | case8 inner b ih => exact ih (Failure.of_map h)
  | case9 inner i headers ih => exact ih (Failure.of_map h)
  | case10 inner b headers ih => exact ih (Failure.of_map h)
  | case11 v => cases h; exact .noResponse _

end WebRouter
