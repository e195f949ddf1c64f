import WebRouter.Http.State

/-!
# Looking names up after a chain of calls

A request's state is added to by making another one of it, with more parameters or with
more values, in any order and any number of times. Where a name is found does not depend
on how the two kinds of calls were mixed: each kind adds to a mapping of its own, and the
mappings are asked in a fixed order (`get?_step`). So the history of the calls says what a
name stands for (`RequestState.expected?`): what the last call that gave it as a parameter
gave, or else the last that gave it as a value, or else the query.

Values are handed over by name, and one name cannot be handed over: the one that the
state itself goes by. A call that tries is refused, and changes nothing.

> `get?_of_calls`: what is found after any calls is what the history of those that were
> not refused says, path and query are the first state's, and calls that come later change
> no state that has been made.
-/

namespace WebRouter

/-- What is found in a mapping over which another one has been stored is what stands in
that one, or else what stood there. -/
theorem Ordered.find?_update {κ α : Type} [BEq κ] [LawfulBEq κ] (key : κ)
    (base incoming : List (κ × α)) :
    find? key (update base incoming) = (find? key (ofList incoming)).or (find? key base) := by
  unfold ofList
  induction incoming generalizing base with
  | nil => rfl
  | cons pair rest ih =>
    have hcons : ∀ entries, update entries (pair :: rest)
        = update (put pair.1 pair.2 entries) rest := fun _ => rfl
    rw [hcons, hcons, ih, ih (put pair.1 pair.2 [])]
    by_cases hkey : key = pair.1
    · rw [hkey, find?_put_self, find?_put_self, Option.or_assoc, Option.some_or]
    · rw [find?_put_of_ne hkey, find?_put_of_ne hkey, Option.or_assoc]
      rfl

namespace RequestState

/-- A call that makes a new state of one. -/
inductive Call where
  /-- with more parameters -/
  | params (entries : List (String × String))
  /-- with more values, which are handed over by name -/
  | values (entries : List (String × Value))

/-- Values with names as a mapping. -/
def named (entries : List (String × Value)) : List (Value × Value) :=
  entries.map fun entry => (.str entry.1, entry.2)

/-- The state that a call makes. -/
def make (state : RequestState) : Call → Except Failure RequestState
  | .params entries => .ok (state.withParams entries)
  | .values entries => state.withValues (named entries)

/-- The state that there is after a call: if it is refused, the one that there was. -/
def after (state : RequestState) (call : Call) : RequestState :=
  match state.make call with
  | .ok made => made
  | .error _ => state

/-- The state that there is after calls. -/
def afterAll (state : RequestState) (calls : List Call) : RequestState :=
  calls.foldl after state

/-- The states that there are during calls, the first one included. -/
def chain (state : RequestState) : List Call → List RequestState
  | [] => [state]
  | call :: rest => state :: chain (state.after call) rest

namespace Call

/-- Whether a call gives a value the state's own name. -/
def takesReserved : Call → Bool
  | params _ => false
  | values entries => Ordered.contains reservedName entries

/-- The parameter that a call gives a name. -/
def param? (name : String) : Call → Option String
  | params entries => Ordered.find? name (Ordered.ofList entries)
  | values _ => none

/-- The value that a call gives a name. -/
def value? (name : String) : Call → Option Value
  | params _ => none
  | values entries => Ordered.find? name (Ordered.ofList entries)

/-- The calls that are not refused. -/
def accepted (calls : List Call) : List Call :=
  calls.filter fun call => !call.takesReserved

end Call

/-- What a name stands for after calls: the parameter that it was given last, or else the
value that it was given last, or else what the query has at its top. -/
def expected? (state : RequestState) (calls : List Call) (name : String) : Option Value :=
  let param? := (Ordered.last? (·.param? name) calls).or (Ordered.find? name state.params)
  let value? := (Ordered.last? (·.value? name) calls).or (Ordered.find? name state.extras)
  let queried? := (Ordered.find? name state.query).map Query.valueOfTree
  (param?.map .str).or (value?.or queried?)

/-! ## One call -/

/-- Values with names are taken as they are by whatever takes each of them so. -/
theorem mapM_named {take : Value × Value → Except Failure (String × Value)}
    (htake : ∀ name value, take (.str name, value) = .ok (name, value))
    (entries : List (String × Value)) : (named entries).mapM take = .ok entries := by
  induction entries with
  | nil => rfl
  | cons entry rest ih =>
    have hrest : (rest.map fun entry : String × Value => (Value.str entry.1, entry.2)).mapM take
        = .ok rest := ih
    rw [named, List.map_cons, List.mapM_cons, htake, hrest]
    rfl

/-- What is said of the name that no value can be given. -/
def reservedFailure : Failure :=
  .misuse s!"RequestState.with_values() got multiple values for argument '{reservedName}'"

/-- A call gives values under names, unless one of them is the reserved one. -/
theorem make_values (state : RequestState) (entries : List (String × Value)) :
    state.make (.values entries)
      = if Ordered.contains reservedName entries then .error reservedFailure
        else .ok (state.withExtras entries) := by
  rw [make, withValues, additions, mapM_named fun _ _ => rfl]
  by_cases h : Ordered.contains reservedName entries = true
  · rw [if_pos h]
    show Except.map _ (if _ then _ else _) = _
    rw [if_pos h]
    rfl
  · rw [if_neg h]
    show Except.map _ (if _ then _ else _) = _
    rw [if_neg h]
    rfl

/-- A call is refused exactly if it gives a value the reserved name. -/
theorem make_eq_error_iff (state : RequestState) (call : Call) (failure : Failure) :
    state.make call = .error failure ↔ call.takesReserved = true ∧ failure = reservedFailure := by
  cases call with
  | params entries =>
    refine iff_of_false (fun h => by cases h) fun h => ?_
    exact absurd h.1 Bool.false_ne_true
  | values entries =>
    rw [make_values, Call.takesReserved]
    by_cases h : Ordered.contains reservedName entries = true
    · rw [if_pos h, Except.error.injEq]
      exact ⟨fun he => ⟨h, he.symm⟩, fun he => he.2.symm⟩
    · rw [if_neg h]
      exact iff_of_false (fun he => by cases he) fun he => h he.1

/-- A refused call changes nothing. -/
theorem after_of_takesReserved {call : Call} (h : call.takesReserved = true)
    (state : RequestState) : state.after call = state := by
  rw [after, (make_eq_error_iff state call _).mpr ⟨h, rfl⟩]

/-- A call of parameters changes the parameters, and a call of values the values. -/
theorem after_eq {call : Call} (h : call.takesReserved = false) (state : RequestState) :
    state.after call =
      match call with
      | .params entries => { state with params := Ordered.update state.params entries }
      | .values entries => { state with extras := Ordered.update state.extras entries } := by
  cases call with
  | params entries => rfl
  | values entries =>
    have hnot : ¬ Ordered.contains reservedName entries = true := by
      rw [Call.takesReserved] at h
      simp [h]
    rw [after, make_values, if_neg hnot]
    rfl

theorem path_after (state : RequestState) (call : Call) : (state.after call).path = state.path := by
  cases h : call.takesReserved with
  | true => rw [after_of_takesReserved h]
  | false => rw [after_eq h]; cases call <;> rfl

theorem query_after (state : RequestState) (call : Call) :
    (state.after call).query = state.query := by
  cases h : call.takesReserved with
  | true => rw [after_of_takesReserved h]
  | false => rw [after_eq h]; cases call <;> rfl

/-- A name stands for the parameter that a call gives it, if it is not refused, or else for
the one that it stood for. -/
theorem find?_params_after {call : Call} (h : call.takesReserved = false) (state : RequestState)
    (name : String) :
    Ordered.find? name (state.after call).params
      = (call.param? name).or (Ordered.find? name state.params) := by
  rw [after_eq h]
  cases call with
  | params entries => exact Ordered.find?_update name state.params entries
  | values entries => rfl

theorem find?_extras_after {call : Call} (h : call.takesReserved = false) (state : RequestState)
    (name : String) :
    Ordered.find? name (state.after call).extras
      = (call.value? name).or (Ordered.find? name state.extras) := by
  rw [after_eq h]
  cases call with
  | params entries => rfl
  | values entries => exact Ordered.find?_update name state.extras entries

/-! ## Any number of calls -/

/-- What no call changes is the same after any number of them. -/
theorem afterAll_of_kept {β : Type} {part : RequestState → β}
    (hkept : ∀ state call, part (after state call) = part state) (calls : List Call)
    (state : RequestState) : part (state.afterAll calls) = part state := by
  induction calls generalizing state with
  | nil => rfl
  | cons call rest ih => exact (ih (state.after call)).trans (hkept state call)

/-- Only the calls that are not refused make a difference. -/
theorem afterAll_accepted (calls : List Call) (state : RequestState) :
    state.afterAll (Call.accepted calls) = state.afterAll calls := by
  induction calls generalizing state with
  | nil => rfl
  | cons call rest ih =>
    cases h : call.takesReserved with
    | true =>
      have hskip : Call.accepted (call :: rest) = Call.accepted rest :=
        List.filter_cons_of_neg (by simp [h])
      rw [hskip, ih, afterAll, afterAll, List.foldl_cons, after_of_takesReserved h]
    | false =>
      have hkeep : Call.accepted (call :: rest) = call :: Call.accepted rest :=
        List.filter_cons_of_pos (by simp [h])
      rw [hkeep]
      exact ih (state.after call)

theorem not_takesReserved_of_mem_accepted {calls : List Call} {call : Call}
    (h : call ∈ Call.accepted calls) : call.takesReserved = false := by
  have haccepted := (List.mem_filter.mp h).2
  simpa using haccepted

/-- A name is looked up in three mappings, one after the other. -/
theorem get?_eq (state : RequestState) (name : String) :
    state.get? name
      = ((Ordered.find? name state.params).map Value.str).or
          ((Ordered.find? name state.extras).or
            ((Ordered.find? name state.query).map Query.valueOfTree)) := by
  rw [get?]
  cases Ordered.find? name state.params with
  | some value => rfl
  | none =>
    cases Ordered.find? name state.extras with
    | some value => rfl
    | none => rfl

/-- After calls a name stands for what their history says. -/
theorem get?_afterAll (state : RequestState) (calls : List Call) (name : String) :
    (state.afterAll calls).get? name = state.expected? (Call.accepted calls) name := by
  have hparams : Ordered.find? name (state.afterAll (Call.accepted calls)).params
      = (Ordered.last? (·.param? name) (Call.accepted calls)).or
          (Ordered.find? name state.params) :=
    @Ordered.foldl_of_replaced _ _ _ after (·.param? name) (Ordered.find? name ·.params) _
      (fun _ hcall s => find?_params_after (not_takesReserved_of_mem_accepted hcall) s name) state
  have hextras : Ordered.find? name (state.afterAll (Call.accepted calls)).extras
      = (Ordered.last? (·.value? name) (Call.accepted calls)).or
          (Ordered.find? name state.extras) :=
    @Ordered.foldl_of_replaced _ _ _ after (·.value? name) (Ordered.find? name ·.extras) _
      (fun _ hcall s => find?_extras_after (not_takesReserved_of_mem_accepted hcall) s name) state
  have hquery := afterAll_of_kept query_after (Call.accepted calls) state
  rw [← afterAll_accepted, get?_eq, hparams, hextras, hquery, expected?, Option.or_assoc]

/-- The states that have been made are not changed by the calls that follow. -/
theorem chain_isPrefix (state : RequestState) (calls later : List Call) :
    state.chain calls <+: state.chain (calls ++ later) := by
  induction calls generalizing state with
  | nil =>
    have hfirst : ∃ others, state.chain later = state :: others := by
      cases later with
      | nil => exact ⟨_, rfl⟩
      | cons call rest => exact ⟨_, rfl⟩
    obtain ⟨others, hothers⟩ := hfirst
    exact ⟨others, by rw [List.nil_append, hothers]; rfl⟩
  | cons call rest ih => exact List.cons_prefix_cons.mpr ⟨rfl, ih (state.after call)⟩

theorem getElem?_chain (state : RequestState) (calls : List Call) {k : Nat}
    (hk : k ≤ calls.length) :
    (state.chain calls)[k]? = some (state.afterAll (calls.take k)) := by
  induction calls generalizing state k with
  | nil =>
    have hzero : k = 0 := by simpa using hk
    rw [hzero]
    rfl
  | cons call rest ih =>
    cases k with
    | zero => rfl
    | succ k => exact ih (state.after call) (Nat.le_of_succ_le_succ hk)

/-- **A name stands for what the history of the calls says.** Only a value for the reserved name
is refused, and that changes nothing. After any calls, in whatever order, a name stands for the
parameter that it was given last, or else for the value that it was given last, or else for what
the query has at its top, or else for the default; path and query are the first state's. Of the
states on the way each is what the calls up to it made, and it is still that after more calls. -/
theorem get?_of_calls (state : RequestState) (calls later : List Call) :
    (∀ call failure, state.make call = .error failure ↔
        call.takesReserved = true ∧ failure = reservedFailure)
      ∧ (∀ name default, ((state.afterAll calls).get? name).getD default
          = (state.expected? (Call.accepted calls) name).getD default)
      ∧ (state.afterAll calls).path = state.path
      ∧ (state.afterAll calls).query = state.query
      ∧ (∀ k, k ≤ calls.length →
          (state.chain calls)[k]? = some (state.afterAll (calls.take k)))
      ∧ state.chain calls <+: state.chain (calls ++ later) := by
  refine ⟨make_eq_error_iff state, ?_, afterAll_of_kept path_after calls state,
    afterAll_of_kept query_after calls state, fun k hk => getElem?_chain state calls hk,
    chain_isPrefix state calls later⟩
  intro name default
  rw [get?_afterAll]

/-- Names that are given as parameters, as values and by the query, in turns, and a call that
is refused. -/
theorem get?_of_calls_in_turns :
    let state : RequestState :=
      { path := "/"
        query := [("id", .leaf (.int 9)), ("page", .leaf (.int 2)), ("tag", .leaf (.str "x"))] }
    let calls : List Call :=
      [.params [("id", "1")], .values [("page", .null), ("id", .bool false)],
        .values [("page", .int 7), ("self", .str "ada")], .params [("id", "2"), ("id", "3")]]
    let asked := fun name => ((state.afterAll calls).get? name).getD (.str "nothing")
    calls.map Call.takesReserved = [false, false, true, false]
      ∧ ["id", "page", "tag", "self"].map asked
        = [.str "3", .null, .str "x", .str "nothing"]
      ∧ (state.chain calls)[1]? = some (state.afterAll [.params [("id", "1")]]) := by
  intro state calls asked
  obtain ⟨-, hget, -, -, hchain, -⟩ := get?_of_calls state calls []
  have hasked : asked = fun name =>
      (state.expected? (Call.accepted calls) name).getD (.str "nothing") :=
    funext fun name => hget name _
  refine ⟨by decide, ?_, hchain 1 (by decide)⟩
  rw [hasked]
  rfl

/-- A value for the reserved name is refused, so what the caller gave is not found. -/
theorem not_every_name_given :
    let state : RequestState := { path := "/" }
    let call : Call := .values [("self", .str "ada")]
    state.make call = .error reservedFailure
      ∧ ¬ ∀ (calls : List Call) (name : String) (default : Value),
        ((state.afterAll calls).get? name).getD default
          = (state.expected? calls name).getD default := by
  intro state call
  refine ⟨(make_eq_error_iff state call _).mpr ⟨by decide, rfl⟩, fun h => ?_⟩
  have hself : Value.null = Value.str "ada" := h [call] "self" .null
  cases hself

end RequestState

end WebRouter
