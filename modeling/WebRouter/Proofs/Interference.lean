import WebRouter.Proofs.Hooks

/-!
# A cache write ends within its interference

Bringing an entry into the cache is a loop: a compare-and-set is tried, and where it fails
the memory is read again. Nothing in the loop itself gets smaller; what ends it is that
others stop writing. `World.history` has every move of a run with the world it was made
in, and from it are read off the attempts of one call (`World.attempts`, the outcomes of
its compare-and-sets), the writes of all other calls that take effect
(`World.interference`) and how often the call was taken further (`World.furthered`).

The bounds are a matter of charging. A call is overtaken while the snapshot that it has read
last is in the cell no longer (`Phase.overtaken`). Only a write of another call can overtake
it, and an attempt fails only if it has been overtaken, which the next reading makes good.
So every failed attempt is paid for by a write of its own (`World.attempts_charged`). What
is left of a call (`Phase.left`) gets less whenever the call is taken further and more only
by such a write (`World.furthered_charged`). Both hold of every call on a router.

> `World.write_ends_within_interference`: a cache write makes at most one attempt more than
> others have written since its snapshot was read, ends whenever they write finitely often,
> and gives up without an attempt once it sees another table.
-/

namespace WebRouter.Router

variable {η : Type}

/-! ## Attempts -/

/-- The outcome of the compare-and-set that a call makes in its next step, if it makes one. -/
def Task.attempt? (limit : Nat) (m : Memory η) : Task η → Option Bool
  | swapCleared seen => some (m.swap seen seen.value.withoutCache).1
  | swap w => some (m.swap w.seen (w.seen.value.withEntry w.path w.route limit)).1
  | _ => none

/-- The snapshot that a call goes by: the one that its next compare-and-set expects. -/
def Task.seen? : Task η → Option (Stamped (Snapshot η))
  | swapCleared seen => some seen
  | offer w => some w.seen
  | swap w => some w.seen
  | _ => none

/-- The snapshot that a call goes by, if it has not ended. -/
def Phase.seen? : Phase η → Option (Stamped (Snapshot η))
  | running t => t.seen?
  | logging t => t.seen?
  | ended _ => none

/-- One if the snapshot that a call goes by is in the cell no longer, and else zero. -/
def Phase.overtaken (m : Memory η) (phase : Phase η) : Nat :=
  match phase.seen? with
  | some seen => if m.read.stamp = seen.stamp then 0 else 1
  | none => 0

/-- Whether a call writes in its next step: it sets a table, or its compare-and-set succeeds. -/
def Task.writes (limit : Nat) (m : Memory η) (t : Task η) : Bool :=
  (t.sets? m).isSome || t.attempt? limit m == some true

section Step

variable {limit : Nat} {m : Memory η} {t u : Task η}

theorem Phase.overtaken_le_one (m : Memory η) (phase : Phase η) : phase.overtaken m ≤ 1 := by
  unfold overtaken
  split
  · split
    · exact Nat.zero_le 1
    · exact Nat.le_refl 1
  · exact Nat.zero_le 1

theorem Phase.overtaken_of_none {phase : Phase η} (h : phase.seen? = none) :
    phase.overtaken m = 0 := by
  unfold overtaken
  rw [h]

/-- A call that has just read the memory is not overtaken. -/
theorem Phase.overtaken_of_current {phase : Phase η} (h : phase.seen? = some m.read) :
    phase.overtaken m = 0 := by
  unfold overtaken
  rw [h]
  exact if_pos rfl

theorem Phase.overtaken_of_stale {phase : Phase η} {seen : Stamped (Snapshot η)}
    (h : phase.seen? = some seen) (hne : m.read.stamp ≠ seen.stamp) : phase.overtaken m = 1 := by
  unfold overtaken
  rw [h]
  exact if_neg hne

theorem Phase.overtaken_of_read {n : Memory η} (h : n.read = m.read) (phase : Phase η) :
    phase.overtaken n = phase.overtaken m := by
  unfold overtaken
  rw [h]

/-- What becomes of an attempt. It succeeds if the snapshot that the call goes by is still in the
cell, and then a new object is put there and the call ends; otherwise the call has been
overtaken, and goes on with no snapshot. -/
theorem Task.step_of_attempt {succeeded : Bool} (h : t.attempt? limit m = some succeeded) :
    (succeeded = true ∧ (t.step limit m).2.read.stamp = m.fresh
        ∧ ∃ answer, (t.step limit m).1 = .finish (.ok answer))
      ∨ (succeeded = false ∧ t.sets? m = none ∧ (t.step limit m).2.read = m.read
        ∧ (Phase.running t).overtaken m = 1
        ∧ ∃ u, (t.step limit m).1 = .run u ∧ u.seen? = none) := by
  cases t with
  | swapCleared seen =>
    obtain rfl := Option.some.inj h
    rw [Task.step]
    rcases m.swap_cases seen seen.value.withoutCache with ⟨-, hsw⟩ | ⟨hne, hsw⟩
    · rw [hsw]
      exact Or.inl ⟨rfl, rfl, _, rfl⟩
    · rw [hsw]
      exact Or.inr ⟨rfl, rfl, rfl, Phase.overtaken_of_stale rfl hne, _, rfl, rfl⟩
  | swap w =>
    obtain rfl := Option.some.inj h
    rw [Task.step]
    rcases m.swap_cases w.seen (w.seen.value.withEntry w.path w.route limit) with
      ⟨-, hsw⟩ | ⟨hne, hsw⟩
    · rw [hsw]
      exact Or.inl ⟨rfl, rfl, _, rfl⟩
    · rw [hsw]
      exact Or.inr ⟨rfl, rfl, rfl, Phase.overtaken_of_stale rfl hne, _, rfl, rfl⟩
  | register entries => cases h
  | registered => cases h
  | clear => cases h
  | find path => cases h
  | offer w => cases h
  | reread w => cases h

/-- A step that writes puts a new object into the cell, and any other step leaves the cell as
it is. -/
theorem Task.writes_cases (limit : Nat) (m : Memory η) (t : Task η) :
    (t.writes limit m = true ∧ (t.step limit m).2.read.stamp = m.fresh)
      ∨ (t.writes limit m = false ∧ (t.step limit m).2.read = m.read) := by
  cases hattempt : t.attempt? limit m with
  | some succeeded =>
    rw [writes, hattempt]
    rcases step_of_attempt hattempt with ⟨rfl, hstamp, -⟩ | ⟨rfl, hsets, hread, -⟩
    · exact Or.inl ⟨Bool.or_true _, hstamp⟩
    · rw [hsets]
      exact Or.inr ⟨rfl, hread⟩
  | none =>
    cases t with
    | register entries =>
      rw [writes, sets?, Task.step]
      cases Route.compileAll m.fresh (Ordered.ofList entries) with
      | error e => exact Or.inr ⟨rfl, rfl⟩
      | ok routes => exact Or.inl ⟨rfl, rfl⟩
    | find path =>
      refine Or.inr ⟨rfl, ?_⟩
      rw [Task.step]
      split <;> rfl
    | registered => exact Or.inr ⟨rfl, rfl⟩
    | clear => exact Or.inr ⟨rfl, rfl⟩
    | offer w => exact Or.inr ⟨rfl, rfl⟩
    | reread w => exact Or.inr ⟨rfl, rfl⟩
    | swapCleared seen => cases hattempt
    | swap w => cases hattempt

/-- A step writes exactly if the object in the cell is another one after it. -/
theorem Task.writes_iff (hm : m.read.stamp < m.fresh) :
    t.writes limit m = true ↔ (t.step limit m).2.read.stamp ≠ m.read.stamp := by
  rcases t.writes_cases limit m with ⟨hw, hstamp⟩ | ⟨hw, hread⟩
  · rw [hw, hstamp]
    exact iff_of_true rfl (Nat.ne_of_gt hm)
  · rw [hw, hread]
    exact iff_of_false Bool.false_ne_true fun hne => hne rfl

/-- A call is overtaken only by a step that writes. -/
theorem Phase.overtaken_beside (limit : Nat) (m : Memory η) (t : Task η) (phase : Phase η) :
    phase.overtaken (t.step limit m).2 ≤ phase.overtaken m + (t.writes limit m).toNat := by
  rcases t.writes_cases limit m with ⟨hw, -⟩ | ⟨hw, hread⟩
  · rw [hw]
    exact Nat.le_trans (phase.overtaken_le_one _) (Nat.le_add_left 1 _)
  · rw [phase.overtaken_of_read hread]
    exact Nat.le_add_right _ _

/-- A call that has failed in its attempt had been overtaken, and goes on from there as one
that is not; no other step of its own overtakes it. -/
theorem Task.step_charged (limit : Nat) (m : Memory η) (t : Task η) :
    (Phase.after (t.step limit m).1).overtaken (t.step limit m).2
        + (t.attempt? limit m).toList.count false
      ≤ (Phase.running t).overtaken m := by
  cases hattempt : t.attempt? limit m with
  | some succeeded =>
    rcases step_of_attempt hattempt with
      ⟨rfl, -, answer, hstep⟩ | ⟨rfl, -, -, hovertaken, u, hstep, hu⟩
    · rw [hstep]
      exact Nat.zero_le _
    · have hnone : (Phase.running u).overtaken (t.step limit m).2 = 0 :=
        Phase.overtaken_of_none hu
      rw [hstep, hovertaken, Phase.after, hnone]
      exact Nat.le_refl 1
  | none =>
    -- a snapshot is only ever taken on from the call or from the memory as it is
    refine Nat.le_trans (Nat.le_of_eq (Nat.add_zero _)) ?_
    cases t with
    | register entries =>
      rw [Task.step]
      cases Route.compileAll m.fresh (Ordered.ofList entries) with
      | error e => exact Nat.le_refl 0
      | ok routes => exact Nat.le_refl 0
    | registered => exact Nat.le_refl 0
    | clear => exact Nat.le_of_eq (Phase.overtaken_of_current rfl)
    | find path =>
      rw [Task.step]
      split
      · exact Nat.le_refl 0
      · exact Nat.le_refl 0
      · exact Nat.le_of_eq (Phase.overtaken_of_current rfl)
    | offer w =>
      rw [Task.step, Write.consider]
      split
      · exact Nat.zero_le _
      · split
        · exact Nat.le_refl _
        · exact Nat.le_refl _
    | reread w => exact Nat.le_of_eq (Phase.overtaken_of_current rfl)
    | swapCleared seen => cases hattempt
    | swap w => cases hattempt

/-! ## What is left of a call -/

/-- A bound on how often a call is taken further if nobody else writes: for each step that is
left it may also wait for the log hook. -/
def Phase.left (m : Memory η) : Phase η → Nat
  | running t => 2 * t.remaining m + 1
  | logging t => 2 * t.remaining m + 2
  | ended _ => 0

/-- A step of its own leaves less of a call. -/
theorem Task.left_after_lt (limit : Nat) (m : Memory η) (t : Task η) :
    (Phase.after (t.step limit m).1).left (t.step limit m).2 < (Phase.running t).left m := by
  have hnext := Task.remaining_lt limit m t
  cases hs : (t.step limit m).1 with
  | run u =>
    have := hnext u (by rw [hs]; rfl)
    show 2 * u.remaining (t.step limit m).2 + 1 < 2 * t.remaining m + 1
    omega
  | log message u =>
    have := hnext u (by rw [hs]; rfl)
    show 2 * u.remaining (t.step limit m).2 + 2 < 2 * t.remaining m + 1
    omega
  | finish result => exact Nat.succ_pos _

/-- The steps left of a call hang on the memory only through whether it is overtaken. -/
theorem Task.remaining_le (m n : Memory η) (t : Task η) :
    t.remaining n ≤ t.remaining m + 3 * (Phase.running t).overtaken n := by
  cases t with
  | register entries => exact Nat.le_add_right _ _
  | registered => exact Nat.le_add_right _ _
  | clear => exact Nat.le_add_right _ _
  | swapCleared seen =>
    simp only [remaining, Phase.overtaken, Phase.seen?, seen?]
    split <;> split <;> omega
  | find path => exact Nat.le_add_right _ _
  | offer w =>
    simp only [remaining, Phase.overtaken, Phase.seen?, seen?]
    split <;> split <;> omega
  | swap w =>
    simp only [remaining, Phase.overtaken, Phase.seen?, seen?]
    split <;> split <;> omega
  | reread w => exact Nat.le_add_right _ _

/-- A step of another call leaves no more of a call, unless it writes. -/
theorem Phase.left_beside (limit : Nat) (m : Memory η) (t : Task η) (phase : Phase η) :
    phase.left (t.step limit m).2 ≤ phase.left m + 6 * (t.writes limit m).toNat := by
  have hremaining : ∀ u : Task η,
      u.remaining (t.step limit m).2 ≤ u.remaining m + 3 * (t.writes limit m).toNat := by
    intro u
    rcases t.writes_cases limit m with ⟨hw, -⟩ | ⟨hw, hread⟩
    · have := u.remaining_le m (t.step limit m).2
      have := (Phase.running u).overtaken_le_one (t.step limit m).2
      rw [hw, Bool.toNat_true]
      omega
    · have hsame : u.remaining (t.step limit m).2 = u.remaining m := by
        unfold Task.remaining
        rw [hread]
      omega
  cases phase with
  | running u =>
    have := hremaining u
    show 2 * u.remaining (t.step limit m).2 + 1 ≤ 2 * u.remaining m + 1 + _
    omega
  | logging u =>
    have := hremaining u
    show 2 * u.remaining (t.step limit m).2 + 2 ≤ 2 * u.remaining m + 2 + _
    omega
  | ended result => exact Nat.zero_le _

/-! ## The entry on its way -/

/-- The entry that a call is about to write. -/
def Task.write? : Task η → Option (Write η)
  | offer w => some w
  | swap w => some w
  | reread w => some w
  | _ => none

/-- The call writes a certain entry, whatever snapshot it goes by, or it has ended as one that
does. -/
def Phase.Brings (entry : Write η) : Phase η → Prop
  | running t => ∃ seen, t.write? = some { entry with seen }
  | logging t => ∃ seen, t.write? = some { entry with seen }
  | ended (.ok given) => given = entry.answer
  | ended (.error _) => True

theorem Task.step_brings {entry : Write η} (h : (Phase.running t).Brings entry) :
    (Phase.after (t.step limit m).1).Brings entry := by
  obtain ⟨seen, h⟩ := h
  cases t with
  | register entries => cases h
  | registered => cases h
  | clear => cases h
  | swapCleared seen => cases h
  | find path => cases h
  | offer w =>
    obtain rfl : w = { entry with seen } := Option.some.inj h
    rw [Task.step, Write.consider]
    split
    · rfl
    · split
      · exact ⟨seen, rfl⟩
      · exact ⟨seen, rfl⟩
  | swap w =>
    obtain rfl : w = { entry with seen } := Option.some.inj h
    rw [Task.step]
    split
    · rfl
    · exact ⟨seen, rfl⟩
  | reread w =>
    obtain rfl : w = { entry with seen } := Option.some.inj h
    exact ⟨m.read, rfl⟩

/-- A call that makes no more attempts: it has seen another table than that of its entry, or
it has ended. -/
def Phase.GivesUp : Phase η → Prop
  | running (.offer w) => w.seen.value.table.stamp ≠ w.table
  | running _ => False
  | logging _ => False
  | ended _ => True

/-- The step of a call that has seen another table is its last, and leaves the memory as it
is. -/
theorem Task.step_of_givesUp {w : Write η} (h : w.seen.value.table.stamp ≠ w.table) :
    (Task.offer w).step limit m = (.finish (.ok w.answer), m) := by
  rw [Task.step, Write.consider, if_pos h]

end Step

namespace World

/-! ## What a run says about one call -/

/-- The call that takes a step in a move, and where it takes it from. -/
def takes? (w : World η) : Move η → Option (Nat × Task η)
  | .step i =>
    match w.phase? i with
    | some (.running t) => some (i, t)
    | _ => none
  | _ => none

/-- The outcome of the compare-and-set that a call makes in a move, if it makes one. -/
def attempt? (limit : CacheLimit) (i : Nat) (w : World η) (m : Move η) : Option Bool :=
  match w.takes? m with
  | some (j, t) => if j = i then t.attempt? limit.val w.memory else none
  | none => none

/-- Whether another call writes in a move. -/
def interferes (limit : CacheLimit) (i : Nat) (w : World η) (m : Move η) : Bool :=
  match w.takes? m with
  | some (j, t) => if j = i then false else t.writes limit.val w.memory
  | none => false

/-- The call that a move takes further: it takes a step, or the log hook returns to it or
raises a failure in it. -/
def further? (w : World η) : Move η → Option Nat
  | .begin _ => none
  | .step i =>
    match w.phase? i with
    | some (.running _) => some i
    | _ => none
  | .resume i =>
    match w.phase? i with
    | some (.logging _) => some i
    | _ => none
  | .refuse i _ =>
    match w.phase? i with
    | some (.logging _) => some i
    | _ => none

/-- The moves of a run, each with the world that it is made in. -/
def history (limit : CacheLimit) (w : World η) : List (Move η) → List (World η × Move η)
  | [] => []
  | m :: rest => (w, m) :: history limit (w.move limit m) rest

/-- The outcomes of the compare-and-sets that a call makes in a run, one after the other. -/
def attempts (limit : CacheLimit) (i : Nat) (w : World η) (moves : List (Move η)) : List Bool :=
  (w.history limit moves).filterMap fun made => made.1.attempt? limit i made.2

/-- How many writes of other calls take effect in a run. -/
def interference (limit : CacheLimit) (i : Nat) (w : World η) (moves : List (Move η)) : Nat :=
  (w.history limit moves).countP fun made => made.1.interferes limit i made.2

/-- How often a run takes a call further. -/
def furthered (limit : CacheLimit) (i : Nat) (w : World η) (moves : List (Move η)) : Nat :=
  (w.history limit moves).countP fun made => made.1.further? made.2 == some i

section Counts

variable (limit : CacheLimit) (i : Nat) (w : World η) (m : Move η) (rest : List (Move η))

theorem attempts_cons : w.attempts limit i (m :: rest)
    = (w.attempt? limit i m).toList ++ (w.move limit m).attempts limit i rest := by
  unfold attempts
  rw [history, List.filterMap_cons]
  dsimp only
  cases w.attempt? limit i m <;> rfl

theorem interference_cons : w.interference limit i (m :: rest)
    = (w.interferes limit i m).toNat + (w.move limit m).interference limit i rest := by
  unfold interference
  rw [history, List.countP_cons, Nat.add_comm]
  dsimp only
  cases w.interferes limit i m <;> rfl

theorem furthered_cons : w.furthered limit i (m :: rest)
    = (w.further? m == some i).toNat + (w.move limit m).furthered limit i rest := by
  unfold furthered
  rw [history, List.countP_cons, Nat.add_comm]
  dsimp only
  cases w.further? m == some i <;> rfl

theorem history_concat (moves : List (Move η)) : w.history limit (moves ++ [m])
    = w.history limit moves ++ [(w.run limit moves, m)] := by
  induction moves generalizing w with
  | nil => rfl
  | cons first moves ih =>
    rw [List.cons_append, history, history, ih]
    rfl

end Counts

/-- What a move means for one call. -/
inductive Fares (limit : CacheLimit) (i : Nat) (w : World η) :
    Move η → Phase η → Memory η → Phase η → Prop
  /-- the call takes a step -/
  | stepped {t : Task η} (ht : w.takes? (.step i) = some (i, t)) :
      Fares limit i w (.step i) (.running t) (t.step limit.val w.memory).2
        (.after (t.step limit.val w.memory).1)
  /-- another call takes a step -/
  | passed {j : Nat} {t : Task η} {phase : Phase η} (hj : j ≠ i)
      (ht : w.takes? (.step j) = some (j, t)) :
      Fares limit i w (.step j) phase (t.step limit.val w.memory).2 phase
  /-- the log hook returns to the call -/
  | resumed {t : Task η} : Fares limit i w (.resume i) (.logging t) w.memory (.running t)
  /-- the log hook raises a failure in the call -/
  | refused {t : Task η} {failure : Failure} :
      Fares limit i w (.refuse i failure) (.logging t) w.memory (.ended (.error failure))
  /-- nothing happens, or only to the hook of another call -/
  | idle {m : Move η} {phase : Phase η} (ht : w.takes? m = none) (hf : w.further? m ≠ some i) :
      Fares limit i w m phase w.memory phase

theorem fares (limit : CacheLimit) {i : Nat} {w : World η} {phase : Phase η}
    (h : w.phase? i = some phase) (m : Move η) :
    ∃ next, (w.move limit m).phase? i = some next
      ∧ Fares limit i w m phase (w.move limit m).memory next := by
  -- a move that is not possible
  have hidle : w.move limit m = w → w.takes? m = none → w.further? m = none →
      ∃ next, (w.move limit m).phase? i = some next
        ∧ Fares limit i w m phase (w.move limit m).memory next := by
    intro hmove ht hf
    rw [hmove]
    refine ⟨phase, h, .idle ht ?_⟩
    rw [hf]
    exact (Option.some_ne_none i).symm
  -- what the log hook does to a call that waits for it
  have hhook : ∀ j t next, w.phase? j = some (.logging t) → w.move limit m = w.advance j next →
      w.takes? m = none → w.further? m = some j →
      (j = i → Fares limit i w m (.logging t) w.memory next) →
      ∃ next, (w.move limit m).phase? i = some next
        ∧ Fares limit i w m phase (w.move limit m).memory next := by
    intro j t next hj hmove ht hf hself
    rw [hmove]
    by_cases hi : j = i
    · obtain rfl : phase = .logging t := Option.some.inj (h.symm.trans (hi ▸ hj))
      exact ⟨next, hi ▸ phase?_advance_self hj next, hself hi⟩
    · refine ⟨phase, (phase?_advance_of_ne hi next).trans h, .idle ht ?_⟩
      rw [hf]
      exact fun e => hi (Option.some.inj e)
  cases m with
  | begin operation =>
    refine ⟨phase, ?_, .idle rfl (Option.some_ne_none i).symm⟩
    rw [phase?_begin_of_lt limit (lt_of_phase? h)]
    exact h
  | step j =>
    cases hj : w.phase? j with
    | none => exact hidle (by rw [move, hj]) (by rw [takes?, hj]) (by rw [further?, hj])
    | some other =>
      cases other with
      | logging t => exact hidle (by rw [move, hj]) (by rw [takes?, hj]) (by rw [further?, hj])
      | ended result => exact hidle (by rw [move, hj]) (by rw [takes?, hj]) (by rw [further?, hj])
      | running t =>
        have ht : w.takes? (.step j) = some (j, t) := by rw [takes?, hj]
        rw [move_step limit hj]
        by_cases hi : j = i
        · subst hi
          obtain rfl : phase = .running t := Option.some.inj (h.symm.trans hj)
          exact ⟨_, phase?_advance_self hj _, .stepped ht⟩
        · refine ⟨phase, ?_, .passed hi ht⟩
          rw [phase?_advance_of_ne hi]
          exact h
  | resume j =>
    cases hj : w.phase? j with
    | none => exact hidle (by rw [move, hj]) rfl (by rw [further?, hj])
    | some other =>
      cases other with
      | running t => exact hidle (by rw [move, hj]) rfl (by rw [further?, hj])
      | ended result => exact hidle (by rw [move, hj]) rfl (by rw [further?, hj])
      | logging t =>
        exact hhook j t _ hj (move_resume limit hj) rfl (by rw [further?, hj])
          fun e => e ▸ .resumed
  | refuse j failure =>
    cases hj : w.phase? j with
    | none => exact hidle (by rw [move, hj]) rfl (by rw [further?, hj])
    | some other =>
      cases other with
      | running t => exact hidle (by rw [move, hj]) rfl (by rw [further?, hj])
      | ended result => exact hidle (by rw [move, hj]) rfl (by rw [further?, hj])
      | logging t =>
        exact hhook j t _ hj (move_refuse limit hj failure) rfl (by rw [further?, hj])
          fun e => e ▸ .refused

section Fares

variable {limit : CacheLimit} {i : Nat} {w : World η} {m : Move η} {phase next : Phase η}
  {n : Memory η}

theorem attempt?_of_takes {j : Nat} {t : Task η} (h : w.takes? m = some (j, t)) :
    w.attempt? limit i m = if j = i then t.attempt? limit.val w.memory else none := by
  rw [attempt?, h]

theorem interferes_of_takes {j : Nat} {t : Task η} (h : w.takes? m = some (j, t)) :
    w.interferes limit i m = if j = i then false else t.writes limit.val w.memory := by
  rw [interferes, h]

theorem further?_of_takes {j : Nat} {t : Task η} (h : w.takes? m = some (j, t)) :
    w.further? m = some j := by
  cases m with
  | step j' =>
    rw [takes?] at h
    rw [further?]
    split at h
    · cases h
      rfl
    · cases h
  | begin operation => cases h
  | resume j' => cases h
  | refuse j' failure => cases h

theorem Fares.attempt?_eq_none (h : Fares limit i w m phase n next)
    (hphase : ∀ t, phase = .running t → t.attempt? limit.val w.memory = none) :
    w.attempt? limit i m = none := by
  cases h with
  | @stepped t ht =>
    rw [attempt?_of_takes ht, if_pos rfl]
    exact hphase t rfl
  | passed hj ht => rw [attempt?_of_takes ht, if_neg hj]
  | resumed => rfl
  | refused => rfl
  | idle ht _ => rw [attempt?, ht]

/-- Every failed attempt is charged to a write of another call. -/
theorem Fares.charged (h : Fares limit i w m phase n next) :
    next.overtaken n + (w.attempt? limit i m).toList.count false
      ≤ phase.overtaken w.memory + (w.interferes limit i m).toNat := by
  cases h with
  | @stepped t ht =>
    rw [attempt?_of_takes ht, if_pos rfl]
    exact Nat.le_trans (t.step_charged limit.val w.memory) (Nat.le_add_right _ _)
  | @passed j t phase hj ht =>
    rw [attempt?_of_takes ht, if_neg hj, interferes_of_takes ht, if_neg hj]
    exact phase.overtaken_beside limit.val w.memory t
  | resumed => exact Nat.le_add_right _ _
  | refused => exact Nat.zero_le _
  | idle ht _ =>
    rw [attempt?, ht]
    exact Nat.le_add_right _ _

/-- A call that is taken further has less left of it, and only a write of another call leaves
it more. -/
theorem Fares.left (h : Fares limit i w m phase n next) :
    next.left n + (w.further? m == some i).toNat
      ≤ phase.left w.memory + 6 * (w.interferes limit i m).toNat := by
  have hone : (w.further? m == some i).toNat ≤ 1 := Bool.toNat_le _
  cases h with
  | @stepped t ht =>
    have := t.left_after_lt limit.val w.memory
    omega
  | @passed j t phase hj ht =>
    have hother : w.further? (.step j) ≠ some i := by
      rw [further?_of_takes ht]
      exact fun e => hj (Option.some.inj e)
    rw [beq_eq_false_iff_ne.mpr hother, interferes_of_takes ht, if_neg hj]
    exact phase.left_beside limit.val w.memory t
  | @resumed t =>
    show 2 * t.remaining w.memory + 1 + _ ≤ 2 * t.remaining w.memory + 2 + _
    omega
  | @refused t =>
    show 0 + _ ≤ 2 * t.remaining w.memory + 2 + _
    omega
  | idle ht hf =>
    rw [beq_eq_false_iff_ne.mpr hf]
    exact Nat.le_add_right _ _

/-- An attempt that succeeds ends the call. -/
theorem Fares.succeeded (h : Fares limit i w m phase n next)
    (hattempt : w.attempt? limit i m = some true) : ∃ answer, next = .ended (.ok answer) := by
  cases h with
  | stepped ht =>
    rw [attempt?_of_takes ht, if_pos rfl] at hattempt
    rcases Task.step_of_attempt hattempt with ⟨-, -, answer, hstep⟩ | ⟨hfailed, -⟩
    · exact ⟨answer, congrArg Phase.after hstep⟩
    · cases hfailed
  | passed hj ht =>
    rw [attempt?_of_takes ht, if_neg hj] at hattempt
    cases hattempt
  | resumed => cases hattempt
  | refused => cases hattempt
  | idle ht _ =>
    rw [attempt?, ht] at hattempt
    cases hattempt

theorem Fares.brings (h : Fares limit i w m phase n next) {entry : Write η}
    (hphase : phase.Brings entry) : next.Brings entry := by
  cases h with
  | stepped _ => exact Task.step_brings hphase
  | passed _ _ => exact hphase
  | resumed => exact hphase
  | refused => trivial
  | idle _ _ => exact hphase

/-- A call that gives up makes no attempt, and goes on to give up. -/
theorem Fares.givesUp (h : Fares limit i w m phase n next) (hphase : phase.GivesUp) :
    w.attempt? limit i m = none ∧ next.GivesUp := by
  constructor
  · refine h.attempt?_eq_none fun t ht => ?_
    subst ht
    cases t with
    | offer _ => rfl
    | _ => cases hphase
  · cases h with
    | @stepped t _ =>
      cases t with
      | offer e =>
        rw [Task.step_of_givesUp hphase]
        trivial
      | _ => cases hphase
    | passed _ _ => exact hphase
    | resumed => cases hphase
    | refused => trivial
    | idle _ _ => exact hphase

end Fares

/-- A call that gives up makes no attempt any more. -/
theorem attempts_of_givesUp {limit : CacheLimit} {i : Nat} {w : World η} {phase : Phase η}
    (h : w.phase? i = some phase) (hphase : phase.GivesUp) (moves : List (Move η)) :
    w.attempts limit i moves = [] := by
  induction moves generalizing w phase with
  | nil => rfl
  | cons m rest ih =>
    obtain ⟨next, hnext, hfares⟩ := fares limit h m
    obtain ⟨hnone, hgives⟩ := hfares.givesUp hphase
    rw [attempts_cons, hnone, ih hnext hgives]
    rfl

/-- A call that has ended stays as it is. -/
theorem ended_run {limit : CacheLimit} {i : Nat} {w : World η}
    {result : Except Failure (Answer η)} (h : w.phase? i = some (.ended result))
    (moves : List (Move η)) : (w.run limit moves).phase? i = some (.ended result) := by
  induction moves generalizing w with
  | nil => exact h
  | cons m rest ih =>
    obtain ⟨next, hnext, hfares⟩ := fares limit h m
    refine ih ?_
    rw [hnext]
    generalize (w.move limit m).memory = memory at hfares
    cases hfares with
    | passed _ _ => rfl
    | idle _ _ => rfl

/-- A call brings the same entry to the end of a run. -/
theorem brings_run {limit : CacheLimit} {i : Nat} {w : World η} {phase : Phase η}
    (h : w.phase? i = some phase) {entry : Write η} (hphase : phase.Brings entry)
    (moves : List (Move η)) :
    ∃ last, (w.run limit moves).phase? i = some last ∧ last.Brings entry := by
  induction moves generalizing w phase with
  | nil => exact ⟨phase, h, hphase⟩
  | cons m rest ih =>
    obtain ⟨next, hnext, hfares⟩ := fares limit h m
    exact ih hnext (hfares.brings hphase)

/-- What is left of a call, and how often it has been taken further, is bounded by the writes
of others. -/
theorem furthered_charged (limit : CacheLimit) {i : Nat} {w : World η} {phase : Phase η}
    (h : w.phase? i = some phase) (moves : List (Move η)) :
    ∃ last, (w.run limit moves).phase? i = some last
      ∧ last.left (w.run limit moves).memory + w.furthered limit i moves
        ≤ phase.left w.memory + 6 * w.interference limit i moves := by
  induction moves generalizing w phase with
  | nil => exact ⟨phase, h, Nat.le_refl _⟩
  | cons m rest ih =>
    obtain ⟨next, hnext, hfares⟩ := fares limit h m
    obtain ⟨last, hlast, hrest⟩ := ih hnext
    have hfirst := hfares.left
    refine ⟨last, hlast, ?_⟩
    rw [furthered_cons, interference_cons]
    show last.left ((w.move limit m).run limit rest).memory + _ ≤ _
    omega

/-- All attempts of a call but the last one have failed, each after a write of another call
that no other attempt is charged to. An attempt that succeeds ends the call. -/
theorem attempts_charged (limit : CacheLimit) {i : Nat} {w : World η} {phase : Phase η}
    (h : w.phase? i = some phase) (moves : List (Move η)) :
    ∃ failed, failed ≤ phase.overtaken w.memory + w.interference limit i moves
      ∧ (w.attempts limit i moves = List.replicate failed false
        ∨ w.attempts limit i moves = List.replicate failed false ++ [true]
          ∧ ∃ answer, (w.run limit moves).phase? i = some (.ended (.ok answer))) := by
  induction moves generalizing w phase with
  | nil => exact ⟨0, Nat.zero_le _, Or.inl rfl⟩
  | cons m rest ih =>
    obtain ⟨next, hnext, hfares⟩ := fares limit h m
    have hfirst := hfares.charged
    rw [attempts_cons, interference_cons]
    cases hattempt : w.attempt? limit i m with
    | none =>
      obtain ⟨failed, hfailed, hrest⟩ := ih hnext
      rw [hattempt] at hfirst
      refine ⟨failed, ?_, hrest⟩
      simp only [Option.toList_none, List.count_nil] at hfirst
      omega
    | some succeeded =>
      cases succeeded with
      | false =>
        -- the call was overtaken before, and is not any more: one write is used up
        obtain ⟨failed, hfailed, hrest⟩ := ih hnext
        have hone : (some false).toList.count false = 1 := rfl
        rw [hattempt, hone] at hfirst
        refine ⟨failed + 1, by omega, ?_⟩
        rcases hrest with hfails | ⟨hsucceeds, hended⟩
        · rw [hfails]
          exact Or.inl rfl
        · rw [hsucceeds]
          exact Or.inr ⟨rfl, hended⟩
      | true =>
        -- no attempt comes after this one, whatever the rest of the run is
        obtain ⟨answer, rfl⟩ := hfares.succeeded hattempt
        rw [attempts_of_givesUp hnext trivial rest]
        exact ⟨0, Nat.zero_le _, Or.inr ⟨rfl, answer, ended_run hnext rest⟩⟩

/-! ## Schedules that never end -/

/-- The world after the first moves of a schedule. -/
def upTo (limit : CacheLimit) (w : World η) (schedule : Nat → Move η) (n : Nat) : World η :=
  w.run limit ((List.range n).map schedule)

/-- A schedule does not forget a call: as long as it has not ended, it is taken further at some
later time. -/
def Attends (limit : CacheLimit) (i : Nat) (w : World η) (schedule : Nat → Move η) : Prop :=
  ∀ n, (∀ result, (w.upTo limit schedule n).phase? i ≠ some (.ended result)) →
    ∃ later, n ≤ later ∧ (w.upTo limit schedule later).further? (schedule later) = some i

section Schedule

variable {limit : CacheLimit} {i : Nat} {w : World η} {schedule : Nat → Move η}

theorem upTo_succ (n : Nat) :
    w.upTo limit schedule (n + 1) = (w.upTo limit schedule n).move limit (schedule n) := by
  unfold upTo run
  rw [List.range_succ, List.map_append, List.foldl_append]
  rfl

theorem history_succ (n : Nat) : w.history limit ((List.range (n + 1)).map schedule)
    = w.history limit ((List.range n).map schedule)
      ++ [(w.upTo limit schedule n, schedule n)] := by
  rw [List.range_succ, List.map_append, List.map_singleton]
  exact history_concat limit w (schedule n) _

theorem history_isPrefix {n later : Nat} (h : n ≤ later) :
    w.history limit ((List.range n).map schedule)
      <+: w.history limit ((List.range later).map schedule) := by
  induction h with
  | refl => exact List.prefix_rfl
  | step _ ih =>
    rw [Nat.succ_eq_add_one, history_succ]
    exact ih.trans (List.prefix_append _ _)

theorem furthered_succ (n : Nat) : w.furthered limit i ((List.range (n + 1)).map schedule)
    = w.furthered limit i ((List.range n).map schedule)
      + ((w.upTo limit schedule n).further? (schedule n) == some i).toNat := by
  unfold furthered
  rw [history_succ, List.countP_append, List.countP_singleton]
  cases (w.upTo limit schedule n).further? (schedule n) == some i <;> rfl

theorem interference_succ (n : Nat) : w.interference limit i ((List.range (n + 1)).map schedule)
    = w.interference limit i ((List.range n).map schedule)
      + ((w.upTo limit schedule n).interferes limit i (schedule n)).toNat := by
  unfold interference
  rw [history_succ, List.countP_append, List.countP_singleton]
  cases (w.upTo limit schedule n).interferes limit i (schedule n) <;> rfl

/-- A call does not interfere with itself. -/
theorem interferes_self (limit : CacheLimit) (i : Nat) (w : World η) :
    w.interferes limit i (.step i) = false := by
  rw [interferes, takes?]
  cases w.phase? i with
  | none => rfl
  | some phase =>
    cases phase with
    | running t => exact if_pos rfl
    | logging t => rfl
    | ended result => rfl

/-- A call that has ended on a schedule stays as it is. -/
theorem ended_upTo {n later : Nat} {result : Except Failure (Answer η)} (h : n ≤ later)
    (hended : (w.upTo limit schedule n).phase? i = some (.ended result)) :
    (w.upTo limit schedule later).phase? i = some (.ended result) := by
  induction h with
  | refl => exact hended
  | step _ ih =>
    rw [Nat.succ_eq_add_one, upTo_succ]
    exact ended_run ih [schedule _]

/-- A call that never ends is taken further any number of times. -/
theorem Attends.furthered_unbounded (h : w.Attends limit i schedule)
    (hnever : ∀ n result, (w.upTo limit schedule n).phase? i ≠ some (.ended result)) (c : Nat) :
    ∃ n, c ≤ w.furthered limit i ((List.range n).map schedule) := by
  induction c with
  | zero => exact ⟨0, Nat.zero_le _⟩
  | succ c ih =>
    obtain ⟨n, hn⟩ := ih
    obtain ⟨later, hlater, hfurther⟩ := h n (hnever n)
    have hmono : w.furthered limit i ((List.range n).map schedule)
        ≤ w.furthered limit i ((List.range later).map schedule) :=
      (history_isPrefix hlater).sublist.countP_le
    refine ⟨later + 1, ?_⟩
    rw [furthered_succ, hfurther, beq_self_eq_true, Bool.toNat_true]
    omega

/-- A call ends if the writes of others do. -/
theorem Attends.ends {phase : Phase η} (hphase : w.phase? i = some phase)
    (h : w.Attends limit i schedule) {k : Nat}
    (hfinite : ∀ n, w.interference limit i ((List.range n).map schedule) ≤ k) :
    ∃ n result, (w.upTo limit schedule n).phase? i = some (.ended result) := by
  refine Classical.byContradiction fun hnever => ?_
  have hnever' : ∀ n result, (w.upTo limit schedule n).phase? i ≠ some (.ended result) :=
    fun n result hended => hnever ⟨n, result, hended⟩
  -- once more than what is left of it and what others may add to that
  obtain ⟨n, hn⟩ := h.furthered_unbounded hnever' (phase.left w.memory + 6 * k + 1)
  obtain ⟨last, -, hcharged⟩ := furthered_charged limit hphase ((List.range n).map schedule)
  have := hfinite n
  omega

end Schedule

/-! ## Cache writes -/

/-- **A cache write ends within its interference.** A call has just read the memory and is about
to write an entry for the table it has found there, be it the call of `Task.remember` or a
match; other calls take any steps in any order, those that log hooks make among them. Then the
call makes at most one attempt more than others have written since, and all but one that ends
it fail. It is taken further a bounded number of times, so that it ends on any schedule on
which it is not forgotten and others write finitely often. And once it has seen another table,
it makes no attempt any more, and its next step ends it and leaves the memory as it is. -/
theorem write_ends_within_interference (limit : CacheLimit) (w : World η) (i : Nat)
    (entry : Write η) (hcall : w.phase? i = some (.running (.offer entry)))
    (hread : entry.seen = w.memory.read)
    (htable : entry.table = w.memory.snapshot.table.stamp) :
    (∀ moves,
        let k := w.interference limit i moves
        let tried := w.attempts limit i moves
        let now := w.run limit moves
        tried.length ≤ k + 1
          ∧ (∃ failed ≤ k, tried = List.replicate failed false
            ∨ tried = List.replicate failed false ++ [true]
              ∧ now.phase? i = some (.ended (.ok entry.answer)))
          ∧ ((∀ result, now.phase? i ≠ some (.ended result)) →
              w.furthered limit i moves < 6 * k + 5)
          ∧ ∀ observed, now.phase? i = some (.running (.offer observed)) →
              observed.seen.value.table.stamp ≠ w.memory.snapshot.table.stamp →
              (now.move limit (.step i)).phase? i = some (.ended (.ok entry.answer))
                ∧ (now.move limit (.step i)).memory = now.memory
                ∧ ∀ later, now.attempts limit i later = [])
      ∧ ∀ schedule k, (∀ n, w.interference limit i ((List.range n).map schedule) ≤ k) →
          w.Attends limit i schedule →
          ∃ n result, (w.upTo limit schedule n).phase? i = some (.ended result) := by
  have hbrings : (Phase.running (.offer entry)).Brings entry := ⟨entry.seen, rfl⟩
  have hcurrent : (Phase.running (.offer entry)).overtaken w.memory = 0 :=
    Phase.overtaken_of_current (congrArg some hread)
  refine ⟨fun moves => ?_, fun schedule k hfinite hattends => hattends.ends hcall hfinite⟩
  intro k tried now
  obtain ⟨last, hlast, hlastbrings⟩ := brings_run hcall hbrings moves
  obtain ⟨failed, hfailed, htried⟩ := attempts_charged limit hcall moves
  have hcharged : failed ≤ k := by
    rw [hcurrent, Nat.zero_add] at hfailed
    exact hfailed
  refine ⟨?_, ⟨failed, hcharged, htried.imp_right ?_⟩, ?_, ?_⟩
  · have hlength : tried.length ≤ failed + 1 := by
      rcases htried with hfails | ⟨hsucceeds, -⟩
      · show (w.attempts limit i moves).length ≤ failed + 1
        rw [hfails, List.length_replicate]
        exact Nat.le_succ failed
      · show (w.attempts limit i moves).length ≤ failed + 1
        rw [hsucceeds, List.length_append, List.length_replicate]
        exact Nat.le_refl _
    omega
  · -- the entry is the same through all attempts, and so is its answer
    rintro ⟨hsucceeds, answer, hended⟩
    obtain rfl : last = .ended (.ok answer) := Option.some.inj (hlast.symm.trans hended)
    have hanswer : answer = entry.answer := hlastbrings
    exact ⟨hsucceeds, hanswer ▸ hended⟩
  · intro hrunning
    obtain ⟨last', hlast', hleft⟩ := furthered_charged limit hcall moves
    have hsome : 0 < last'.left (w.run limit moves).memory := by
      cases last' with
      | running t => exact Nat.succ_pos _
      | logging t => exact Nat.succ_pos _
      | ended result => exact absurd hlast' (hrunning result)
    have hfive : (Phase.running (.offer entry)).left w.memory = 5 := by
      rw [Phase.left, Task.remaining, hread, if_pos rfl]
    rw [hfive] at hleft
    show w.furthered limit i moves < 6 * w.interference limit i moves + 5
    omega
  · intro observed hobserved hother
    obtain rfl : last = .running (.offer observed) := Option.some.inj (hlast.symm.trans hobserved)
    obtain ⟨seen, hentry⟩ := hlastbrings
    obtain rfl : observed = { entry with seen } := Option.some.inj hentry
    have hgives : seen.value.table.stamp ≠ entry.table := by
      rw [htable]
      exact hother
    rw [move_step limit hobserved, Task.step_of_givesUp hgives]
    exact ⟨phase?_advance_self hobserved _, rfl, attempts_of_givesUp hobserved hgives⟩

/-- A cache for a single path. -/
def single : CacheLimit :=
  ⟨1, Nat.zero_lt_one⟩

/-- A table is set, a match of `/a` fills the cache, and one of `/b` has found its route. -/
def filled : World Nat :=
  after single [.begin (.register [("/:x", .handler 0)]), .step 0, .resume 0, .step 0,
    .begin (.find "/a"), .step 1, .step 1, .step 1, .begin (.find "/b"), .step 2]

/-- The match of `/b`. -/
def second : RouteMatch Nat :=
  ⟨⟨"/:x", [.literal "", .param "x"], 0, 1⟩, [("x", "b")]⟩

/-- The entry that the match of `/b` is about to write. -/
def pending : Write Nat :=
  ⟨1, "/b", second.route, filled.memory.read, .found (some second)⟩

/-- While the hook is told that the cache is full, it clears it, and then a match of `/c` is
faster. -/
def disturbed : List (Move Nat) :=
  [.step 2, .begin .clear, .step 3, .step 3, .resume 2, .step 2, .step 2, .step 2,
    .begin (.find "/c"), .step 4, .step 4, .step 4, .step 2, .step 2, .step 2, .resume 2, .step 2]

/-- While the hook is told that the cache is full, it sets another table. -/
def unseated : List (Move Nat) :=
  [.step 2, .begin (.register []), .step 3, .resume 3, .step 3, .resume 2, .step 2, .step 2]

/-- The disturbed match of `/b` on a schedule that never ends. -/
def tended (n : Nat) : Move Nat :=
  disturbed.getD n (.step 2)

theorem interference_tended (n : Nat) :
    filled.interference single 2 ((List.range n).map tended) ≤ 2 := by
  have hmoves : filled.interference single 2 ((List.range 17).map tended) = 2 := by rfl
  rcases Nat.le_total n 17 with hn | hn
  · rw [← hmoves]
    exact (history_isPrefix hn).sublist.countP_le
  · induction hn with
    | refl => exact Nat.le_of_eq hmoves
    | @step n hn ih =>
      have hpast : disturbed[n]? = none := List.getElem?_eq_none hn
      have hown : tended n = .step 2 := by
        rw [tended, List.getD_eq_getElem?_getD, hpast]
        rfl
      rw [Nat.succ_eq_add_one, interference_succ, hown, interferes_self]
      exact ih

theorem attends_tended : filled.Attends single 2 tended := by
  intro n hrunning
  rcases Nat.lt_or_ge n 17 with hn | hn
  · exact ⟨16, Nat.le_of_lt_succ hn, by rfl⟩
  · have hended : (filled.upTo single tended 17).phase? 2
        = some (.ended (.ok (.found (some second)))) := by rfl
    exact absurd (ended_upTo hn hended) (hrunning _)

/-- Two writes of others make two attempts fail and a third one necessary, with which the call
ends although the schedule goes on. Once another table is seen there is no attempt after the
one that has failed. -/
theorem write_ends_within_interference_disturbed :
    filled.phase? 2 = some (.running (.offer pending))
      ∧ pending.seen = filled.memory.read
      ∧ pending.table = filled.memory.snapshot.table.stamp
      ∧ filled.interference single 2 disturbed = 2
      ∧ filled.attempts single 2 disturbed = [false, false, true]
      ∧ (filled.attempts single 2 disturbed).length ≤ 2 + 1
      ∧ filled.attempts single 2 unseated = [false]
      ∧ ((filled.run single unseated).move single (.step 2)).memory
        = (filled.run single unseated).memory
      ∧ (∀ n, filled.interference single 2 ((List.range n).map tended) ≤ 2)
      ∧ filled.Attends single 2 tended
      ∧ ∃ n result, (filled.upTo single tended n).phase? 2 = some (.ended result) := by
  have hcall : filled.phase? 2 = some (.running (.offer pending)) := by rfl
  have hread : pending.seen = filled.memory.read := by rfl
  have htable : pending.table = filled.memory.snapshot.table.stamp := by rfl
  obtain ⟨hruns, hends⟩ := write_ends_within_interference single filled 2 pending hcall hread htable
  have hobserved : (filled.run single unseated).phase? 2 = some (.running (.offer
      { pending with seen := (filled.run single unseated).memory.read })) := by rfl
  obtain ⟨-, -, -, hgives⟩ := hruns unseated
  obtain ⟨-, hmemory, -⟩ := hgives _ hobserved (by decide)
  exact ⟨hcall, hread, htable, by rfl, by rfl, (hruns disturbed).1, by rfl, hmemory,
    interference_tended, attends_tended, hends tended 2 interference_tended attends_tended⟩

end World

end WebRouter.Router
