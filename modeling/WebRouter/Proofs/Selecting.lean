import WebRouter.Proofs.Hooks
import WebRouter.Router.Selection

/-!
# What answers a request, while others use the router

The search for what answers a path reads the memory twice, once to match and, if
nothing matched, once more for the fallback. A `Search` is such a search among the
calls of others, which may take any steps between any two of its own; the tables that
are in force while it goes on, one for each time, are `Search.inForce`. What a search
has found out is always owed to tables it has read (`Stage.Accounts`): a match to the
table of the first reading, and a fallback to that of the second, with the knowledge
that the first had no match.

One table is enough to explain both unless the second one would have matched:

> `Search.select_of_tables`: the outcome is that of one table in force during the
> search, or it is the fallback of a table that has a route for the path and came into
> force after another without one had been read.

The second case does happen (`Search.not_of_one_table`): a request can be answered by
the fallback of a table whose own routes accept it. With no calls of others a search is
`Router.select`, and one table decides (`Search.alone`).
-/

namespace WebRouter.Router

variable {η : Type}

namespace Search

/-- How far a search has come. -/
inductive Stage (η : Type) where
  | running (s : Selection η)
  /-- the log hook is at work on the search's message -/
  | logging (s : Selection η)
  | ended (result : Except Failure (Selected η))

/-- How far a search has come after a step. -/
def Stage.after : Progress (Selection η) (Selected η) → Stage η
  | .run s => running s
  | .log _ s => logging s
  | .finish result => ended result

/-- What can happen next. -/
inductive Move (η : Type) where
  /-- something happens to the calls of others -/
  | other (move : Router.Move η)
  /-- the search takes its next atomic step -/
  | step
  /-- the log hook returns to the search -/
  | resume
  /-- the log hook raises a failure in the search -/
  | refuse (failure : Failure)

end Search

/-- A search for what answers a path, among the calls of others. -/
structure Search (η : Type) where
  world : World η
  stage : Search.Stage η

namespace Search

/-- The table in force. -/
def table (s : Search η) : Table η :=
  s.world.memory.snapshot.table

/-- The search after a move. A move that is not possible changes nothing. -/
def move (limit : CacheLimit) (s : Search η) : Move η → Search η
  | .other m => { s with world := s.world.move limit m }
  | .step =>
    match s.stage with
    | .running selection =>
      let (progress, memory) := selection.step limit s.world.memory
      ⟨{ s.world with memory }, .after progress⟩
    | _ => s
  | .resume =>
    match s.stage with
    | .logging selection => { s with stage := .running selection }
    | _ => s
  | .refuse failure =>
    match s.stage with
    | .logging _ => { s with stage := .ended (.error failure) }
    | _ => s

/-- The search after moves. -/
def run (limit : CacheLimit) (s : Search η) (moves : List (Move η)) : Search η :=
  moves.foldl (move limit) s

/-- A search that begins after earlier calls. -/
def start (limit : CacheLimit) (earlier : List (Router.Move η)) (path : String) : Search η :=
  ⟨World.after limit earlier, .running (.start path)⟩

/-- The tables in force until the search has ended, at its beginning and after every move. -/
def inForce (limit : CacheLimit) (s : Search η) : List (Move η) → List (Table η)
  | [] => [s.table]
  | m :: rest =>
    match s.stage with
    | .ended _ => [s.table]
    | _ => s.table :: inForce limit (s.move limit m) rest

/-- How far a search has come while it waits for its match. -/
def Stage.ofPhase : Phase η → Stage η
  | .running t => running (.finding t)
  | .logging t => logging (.finding t)
  | .ended (.ok answer) => after (Selection.afterFind answer)
  | .ended (.error failure) => ended (.error failure)

/-- A search takes its steps as its match does, until that has an answer. -/
theorem move_step_finding (limit : CacheLimit) (w : World η) (t : Task η) :
    Search.move limit ⟨w, .running (.finding t)⟩ .step
      = ⟨{ w with memory := (t.step limit.val w.memory).2 },
          .ofPhase (.after (t.step limit.val w.memory).1)⟩ := by
  rw [Search.move]
  dsimp only
  rw [Selection.step]
  obtain ⟨progress, n⟩ := t.step limit.val w.memory
  cases progress with
  | run u => rfl
  | log message u => rfl
  | finish result =>
    cases result with
    | ok answer => rfl
    | error failure => rfl

/-! ## What a search carries with it -/

/-- What a search carries with it agrees with the memory. -/
def Stage.Fits (m : Memory η) : Stage η → Prop
  | running (.finding t) => t.Fits m
  | logging (.finding t) => t.Fits m
  | _ => True

theorem Stage.fits_change {limit : Nat} {m n : Memory η} {set? : Option (Table η)}
    (hc : Memory.Change limit m set? n) {stage : Stage η} (h : stage.Fits m) : stage.Fits n := by
  cases stage with
  | running s =>
    cases s with
    | finding t => exact hc.fits h
    | fallingBack => trivial
  | logging s =>
    cases s with
    | finding t => exact hc.fits h
    | fallingBack => trivial
  | ended result => trivial

theorem Stage.fits_ofPhase {m : Memory η} {phase : Phase η} (h : phase.Fits m) :
    (Stage.ofPhase phase).Fits m := by
  cases phase with
  | running t => exact h
  | logging t => exact h
  | ended result =>
    cases result with
    | error failure => trivial
    | ok answer =>
      show (Stage.after (Selection.afterFind answer)).Fits m
      unfold Selection.afterFind
      cases answer.match? with
      | none => trivial
      | some found => trivial

/-- What came out is what a match or a fallback of a table read on the way gives, and a
fallback is given only after a table without a match. -/
inductive Found (path : String) (past : List (Table η)) : Selected η → Prop
  | matched {table : Table η} {found : RouteMatch η} (htable : table ∈ past)
      (hfound : table.scan? path = some found) : Found path past (.matched found)
  | fellBack {first second : Table η} (hpast : [first, second].Sublist past)
      (hnone : first.scan? path = none) : Found path past (.of none second.fallback?)

/-- What a search has found out, it owes to tables that were in force: `past` are those
up to now. -/
def Stage.Accounts (path : String) (past : List (Table η)) : Stage η → Prop
  | running (.finding t) =>
    t = .find path ∨ ∃ table ∈ past, t.answer? = some (.found (table.scan? path))
  | logging (.finding t) => ∃ table ∈ past, t.answer? = some (.found (table.scan? path))
  | running .fallingBack => ∃ table ∈ past, table.scan? path = none
  | logging .fallingBack => ∃ table ∈ past, table.scan? path = none
  | ended (.ok selected) => Found path past selected
  | ended (.error _) => True

theorem Found.append {path : String} {past : List (Table η)} {selected : Selected η}
    (h : Found path past selected) (more : List (Table η)) :
    Found path (past ++ more) selected := by
  cases h with
  | matched htable hfound => exact .matched (List.mem_append_left more htable) hfound
  | fellBack hpast hnone =>
    exact .fellBack (hpast.trans (List.sublist_append_left past more)) hnone

theorem Stage.Accounts.append {path : String} {past : List (Table η)} {stage : Stage η}
    (h : stage.Accounts path past) (more : List (Table η)) :
    stage.Accounts path (past ++ more) := by
  have hmore : ∀ p : Table η → Prop,
      (∃ table ∈ past, p table) → ∃ table ∈ past ++ more, p table := by
    intro p hp
    obtain ⟨table, htable, hp⟩ := hp
    exact ⟨table, List.mem_append_left more htable, hp⟩
  cases stage with
  | running s =>
    cases s with
    | finding t => exact h.imp_right (hmore _)
    | fallingBack => exact hmore _ h
  | logging s =>
    cases s with
    | finding t => exact hmore _ h
    | fallingBack => exact hmore _ h
  | ended result =>
    cases result with
    | ok selected => exact Found.append h more
    | error failure => trivial

/-- A match that has read a table leaves the search with what that table says. -/
theorem Stage.accounts_ofPhase {path : String} {past : List (Table η)} {table : Table η}
    (htable : table ∈ past) {phase : Phase η}
    (h : phase.Promises (.found (table.scan? path))) :
    (Stage.ofPhase phase).Accounts path past := by
  cases phase with
  | running t => exact Or.inr ⟨table, htable, h⟩
  | logging t => exact ⟨table, htable, h⟩
  | ended result =>
    cases result with
    | error failure => trivial
    | ok answer =>
      have hanswer : answer = .found (table.scan? path) := h
      subst hanswer
      show (Stage.after (Selection.afterFind (.found (table.scan? path)))).Accounts path past
      cases hscan : table.scan? path with
      | none => exact ⟨table, htable, hscan⟩
      | some found => exact .matched htable hscan

/-! ## What a move preserves -/

/-- The world is sound, the search fits its memory and accounts for what it knows. -/
structure Inv (limit : CacheLimit) (path : String) (past : List (Table η)) (s : Search η) :
    Prop where
  world : s.world.Inv limit
  fits : s.stage.Fits s.world.memory
  accounts : s.stage.Accounts path past

section Move

variable {limit : CacheLimit} {path : String} {past : List (Table η)} {s : Search η}

/-- A search at rest is left as it is. -/
theorem Inv.idle (h : s.Inv limit path past) : s.Inv limit path (past ++ [s.table]) :=
  ⟨h.world, h.fits, h.accounts.append _⟩

/-- A step of the search reads the table in force, or goes on with what it has read. -/
theorem Inv.step (h : s.Inv limit path past) (hnow : s.table ∈ past) :
    (s.move limit .step).Inv limit path (past ++ [(s.move limit .step).table]) := by
  obtain ⟨world, stage⟩ := s
  cases stage with
  | logging selection => exact h.idle
  | ended result => exact h.idle
  | running selection =>
    cases selection with
    | fallingBack =>
      -- the second reading, of the table that is in force now
      obtain ⟨first, hfirst, hnone⟩ := h.accounts
      exact ⟨h.world, trivial,
        .fellBack ((List.singleton_sublist.mpr hfirst).append (List.Sublist.refl _)) hnone⟩
    | finding t =>
      have hfits : t.Fits world.memory := h.fits
      obtain ⟨hchange, hnext⟩ := Task.step_change h.world.memory hfits
      have hpromise : ∃ table ∈ past,
          (Phase.after (t.step limit.val world.memory).1).Promises
            (.found (table.scan? path)) := by
        rcases h.accounts with rfl | ⟨table, htable, hanswer⟩
        · exact ⟨_, hnow, Task.step_find_promises h.world.memory path⟩
        · exact ⟨table, htable, Task.step_promises hanswer⟩
      obtain ⟨table, htable, hpromise⟩ := hpromise
      have hphase : (Phase.after (t.step limit.val world.memory).1).Fits
          (t.step limit.val world.memory).2 := Phase.fits_after hnext
      rw [move_step_finding]
      exact ⟨h.world.change hchange, Stage.fits_ofPhase hphase,
        (Stage.accounts_ofPhase htable hpromise).append _⟩

/-- A move keeps the invariant, and the table in force after it is one more to account
with. -/
theorem Inv.move (h : s.Inv limit path past) (hnow : s.table ∈ past) (m : Move η) :
    (s.move limit m).Inv limit path (past ++ [(s.move limit m).table]) := by
  cases m with
  | step => exact h.step hnow
  | other m =>
    have hmoved := World.moved limit s.world m
    obtain ⟨set?, hchange⟩ := hmoved.change h.world
    exact ⟨hmoved.inv h.world, Stage.fits_change hchange h.fits, h.accounts.append _⟩
  | resume =>
    obtain ⟨world, stage⟩ := s
    cases stage with
    | running selection => exact h.idle
    | ended result => exact h.idle
    | logging selection =>
      cases selection with
      | finding t =>
        have hread : (Stage.running (.finding t)).Accounts path past := Or.inr h.accounts
        exact ⟨h.world, h.fits, hread.append _⟩
      | fallingBack => exact ⟨h.world, trivial, h.accounts.append _⟩
  | refuse failure =>
    obtain ⟨world, stage⟩ := s
    cases stage with
    | running selection => exact h.idle
    | ended result => exact h.idle
    | logging selection => exact ⟨h.world, trivial, trivial⟩

/-- Nothing moves a search that has ended, whatever becomes of the world. -/
theorem Inv.ended (h : s.Inv limit path past) {result : Except Failure (Selected η)}
    (hended : s.stage = .ended result) (moves : List (Move η)) :
    (s.run limit moves).Inv limit path past := by
  induction moves generalizing s with
  | nil => exact h
  | cons m rest ih =>
    obtain ⟨world, stage⟩ := s
    have hended : stage = .ended result := hended
    subst hended
    cases m with
    | other m => exact ih ⟨(World.moved limit world m).inv h.world, trivial, h.accounts⟩ rfl
    | step => exact ih h rfl
    | resume => exact ih h rfl
    | refuse failure => exact ih h rfl

/-- A run keeps the invariant. -/
theorem Inv.run {before : List (Table η)} (h : s.Inv limit path (before ++ [s.table]))
    (moves : List (Move η)) :
    (s.run limit moves).Inv limit path (before ++ s.inForce limit moves) := by
  induction moves generalizing s before with
  | nil => exact h
  | cons m rest ih =>
    have hnow : s.table ∈ before ++ [s.table] :=
      List.mem_append_right before (List.mem_singleton_self _)
    have hrest := ih (h.move hnow m)
    rw [List.append_assoc, List.singleton_append] at hrest
    rw [inForce]
    split
    · next result hended => exact h.ended hended (m :: rest)
    · exact hrest

end Move

theorem inv_start (limit : CacheLimit) (earlier : List (Router.Move η)) (path : String) :
    (start limit earlier path).Inv limit path [(start limit earlier path).table] :=
  ⟨World.inv_after limit earlier, trivial, Or.inl rfl⟩

/-! ## Which tables decide -/

/-- **A request is answered by one table, or by two that disagree about its path.** What a
search comes to is what some table that was in force meanwhile decides alone, or else one
table without a match for the path was read first, and a later one with a match has
given its fallback. -/
theorem select_of_tables (limit : CacheLimit) (earlier : List (Router.Move η)) (path : String)
    (moves : List (Move η)) {selected : Selected η}
    (h : ((start limit earlier path).run limit moves).stage = .ended (.ok selected)) :
    let tables := (start limit earlier path).inForce limit moves
    (∃ table ∈ tables, selected = table.select path)
      ∨ ∃ first second, [first, second].Sublist tables
          ∧ first.Resolves path none ∧ ¬ second.Resolves path none
          ∧ selected = .of none second.fallback? := by
  intro tables
  have hstart :
      (start limit earlier path).Inv limit path ([] ++ [(start limit earlier path).table]) :=
    inv_start limit earlier path
  have haccounts := (hstart.run moves).accounts
  rw [h] at haccounts
  cases haccounts with
  | @matched table found htable hfound =>
    exact Or.inl ⟨table, htable, by rw [Table.select, hfound]; rfl⟩
  | @fellBack first second htables hnone =>
    cases hscan : second.scan? path with
    | none =>
      have hsecond : second ∈ tables := htables.subset (List.mem_cons_of_mem _ List.mem_cons_self)
      exact Or.inl ⟨second, hsecond, by rw [Table.select, hscan]⟩
    | some found =>
      refine Or.inr ⟨first, second, htables, Table.scan?_eq_iff.mp hnone, fun hr => ?_, rfl⟩
      rw [Table.scan?_eq_iff.mpr hr] at hscan
      cases hscan

/-- A search for `/x` in an empty router, overtaken after its first reading by the
registration of a route for `/x` and a fallback. -/
def overtaken : List (Move Nat) :=
  [.step, .other (.begin (.register [("/x", .handler 1), ("404", .handler 2)])),
    .other (.step 0), .step]

/-- The fallback of the table that overtakes the search. -/
def overtaking : Route Nat :=
  ⟨"404", [.literal "404"], 2, 1⟩

/-- The table that overtakes the search. -/
def overtakingTable : Table Nat :=
  ⟨1, [⟨"/x", [.literal "", .literal "x"], 1, 1⟩, overtaking]⟩

/-- The overtaken search falls back on a table that has a route for its path. -/
theorem select_of_tables_overtaken :
    ((start ⟨1, by decide⟩ [] "/x").run ⟨1, by decide⟩ overtaken).stage
        = .ended (.ok (.fallback overtaking))
      ∧ let tables := (start ⟨1, by decide⟩ [] "/x").inForce ⟨1, by decide⟩ overtaken
        (∃ table ∈ tables, Selected.fallback overtaking = table.select "/x")
          ∨ ∃ first second, [first, second].Sublist tables
              ∧ first.Resolves "/x" none ∧ ¬ second.Resolves "/x" none
              ∧ Selected.fallback overtaking = .of none second.fallback? :=
  ⟨by rfl, select_of_tables ⟨1, by decide⟩ [] "/x" overtaken (by rfl)⟩

/-- One table is not enough: neither the empty table nor the one that overtook the
search answers `/x` with a fallback. -/
theorem not_of_one_table :
    ¬ ∀ (limit : CacheLimit) (earlier : List (Router.Move Nat)) (path : String)
        (moves : List (Move Nat)) (selected : Selected Nat),
        ((start limit earlier path).run limit moves).stage = .ended (.ok selected) →
          ∃ table ∈ (start limit earlier path).inForce limit moves,
            selected = table.select path := by
  intro h
  obtain ⟨table, htable, hselected⟩ :=
    h ⟨1, by decide⟩ [] "/x" overtaken (.fallback overtaking) (by rfl)
  have hempty : Table.select (⟨0, []⟩ : Table Nat) "/x" = .nothing := rfl
  have hmatch : ∃ found, overtakingTable.select "/x" = .matched found := ⟨_, rfl⟩
  have hforce : (start ⟨1, by decide⟩ [] "/x").inForce ⟨1, by decide⟩ overtaken
      = [⟨0, []⟩, ⟨0, []⟩, ⟨0, []⟩, overtakingTable, overtakingTable] := by rfl
  have hcases : table = ⟨0, []⟩ ∨ table = overtakingTable := by
    rw [hforce] at htable
    simpa only [List.mem_cons, List.not_mem_nil, or_false, or_self, or_self_left] using htable
  rcases hcases with rfl | rfl
  · rw [hempty] at hselected
    cases hselected
  · obtain ⟨found, hfound⟩ := hmatch
    rw [hfound] at hselected
    cases hselected

/-! ## A search alone -/

/-- A move of the search itself or of the log hook that it waits for. -/
def Move.IsOwn : Move η → Prop
  | .other _ => False
  | _ => True

/-- A match taken to its end within a search, the hook doing what it does. -/
theorem find_alone (limit : CacheLimit) (hook : LogHook) (told : List String)
    (calls : List (Call η)) (m : Memory η) (t : Task η) :
    ∃ moves : List (Move η), (∀ move ∈ moves, move.IsOwn)
      ∧ Search.run limit ⟨⟨m, calls⟩, .running (.finding t)⟩ moves
        = ⟨⟨(t.run limit.val hook told m).memory, calls⟩,
            .ofPhase (.ended (t.run limit.val hook told m).result)⟩ := by
  have hown : ∀ {first : Move η} {moves : List (Move η)}, first.IsOwn →
      (∀ move ∈ moves, move.IsOwn) → ∀ move ∈ first :: moves, move.IsOwn :=
    fun hfirst hmoves => List.forall_mem_cons.mpr ⟨hfirst, hmoves⟩
  fun_induction Task.run limit.val hook told m t with
  | case1 told m t result n hs =>
    refine ⟨[.step], List.forall_mem_singleton.mpr trivial, ?_⟩
    rw [Search.run, List.foldl_cons, move_step_finding, hs]
    rfl
  | case2 told m t u n hs ih =>
    obtain ⟨moves, hmoves, hend⟩ := ih
    refine ⟨.step :: moves, hown trivial hmoves, ?_⟩
    rw [Search.run, List.foldl_cons, move_step_finding, hs]
    exact hend
  | case3 told m t message u n hs failure hrefused =>
    refine ⟨[.step, .refuse failure], hown trivial (List.forall_mem_singleton.mpr trivial), ?_⟩
    rw [Search.run, List.foldl_cons, move_step_finding, hs]
    rfl
  | case4 told m t message u n hs hlistens outcome ih =>
    obtain ⟨moves, hmoves, hend⟩ := ih
    refine ⟨.step :: .resume :: moves, hown trivial (hown trivial hmoves), ?_⟩
    rw [Search.run, List.foldl_cons, move_step_finding, hs]
    exact hend

/-- With no moves of others a search does what a router does for one caller. -/
theorem alone (router : Router η) (calls : List (Call η)) (path : String) :
    ∃ moves : List (Move η), (∀ move ∈ moves, move.IsOwn)
      ∧ Search.run router.limit ⟨⟨router.memory, calls⟩, .running (.start path)⟩ moves
        = ⟨⟨(router.select path).router.memory, calls⟩, .ended (router.select path).result⟩ := by
  obtain ⟨moves, hmoves, hend⟩ :=
    find_alone router.limit router.hook router.told calls router.memory (.find path)
  have hselect : (router.select path).result
      = (router.find path).result.map fun found? =>
          .of found? (router.find path).router.memory.snapshot.table.fallback? := rfl
  have hmemory : (router.select path).router.memory = (router.find path).router.memory := rfl
  rw [hselect, hmemory]
  unfold Router.find Router.call
  dsimp only
  generalize (Task.find path).run router.limit.val router.hook router.told router.memory
    = outcome at hend ⊢
  obtain ⟨result, messages, memory⟩ := outcome
  cases result with
  | error failure => exact ⟨moves, hmoves, hend⟩
  | ok answer =>
    have hphase : Stage.ofPhase (.ended (.ok answer)) = .after (Selection.afterFind answer) := rfl
    rw [hphase, Selection.afterFind] at hend
    show ∃ moves : List (Move η), _ ∧ _ = (⟨⟨memory, calls⟩,
      .ended (.ok (.of answer.match? memory.snapshot.table.fallback?))⟩ : Search η)
    cases hmatch : answer.match? with
    | some found =>
      rw [hmatch] at hend
      exact ⟨moves, hmoves, hend⟩
    | none =>
      -- the second reading, of the memory that the match has left
      rw [hmatch] at hend
      have hstep : Move.IsOwn (.step : Move η) := trivial
      refine ⟨moves ++ [.step],
        List.forall_mem_append.mpr ⟨hmoves, List.forall_mem_singleton.mpr hstep⟩, ?_⟩
      rw [Search.run, List.foldl_append, List.foldl_cons, List.foldl_nil]
      exact congrArg (Search.move router.limit · .step) hend

end Search
end WebRouter.Router
