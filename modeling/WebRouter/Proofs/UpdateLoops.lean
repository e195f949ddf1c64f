import Mathlib.Logic.Function.Basic
import WebRouter.AtomicCell

/-!
# Update loops side by side

The way to update an atomic cell is a loop: the object is read, one that holds the updated
value is made from it, and a compare-and-set puts that into its place; where it fails, the
loop reads again. A `Contest` is a cell with such loops at work on it, each for an update of
its own, while others set the cell. Any list of moves is a run (`Contest.run`), so that any
number of steps of others may fall between two steps of a loop.

What a loop compares is the object and not its value. An update need not make a new object:
it may hand out one that there has been before, and so may who sets the cell. So the object
that a loop has read can be back by the time of its swap, and the swap succeed although others
have written in between. Nothing is wrong with that, since objects do not change: there is one
value to an object (`Contest.Inv`), so that the value in the cell is the one the update was
made from (`Contest.Moved.value`). The value in the cell is at any time what a replay of the
sets and successful swaps gives (`Contest.value_run`), and a loop swaps once and is finished
(`Contest.swaps_run`).

> `Contest.updates_apply_once`: when all loops are finished, the cell holds the value that was
> set last, with the updates applied that were swapped in after it, in their order; and every
> update has been swapped in once.
-/

namespace WebRouter.AtomicCell

variable {ι α : Type}

/-- An update loop between two of its steps. -/
inductive Loop (α : Type) where
  /-- about to read the cell -/
  | reading
  /-- about to make the updated object -/
  | computing (seen : Stamped α)
  /-- about to swap -/
  | swapping (seen made : Stamped α)
  | finished

/-- What a loop carries with it are objects that there have been, and the one it has made holds
the updated value of the one it has read. -/
def Loop.Fits (update : α → α) (objects : List (Stamped α)) : Loop α → Prop
  | reading => True
  | computing seen => seen ∈ objects
  | swapping seen made => seen ∈ objects ∧ made ∈ objects ∧ made.value = update seen.value
  | finished => True

theorem Loop.Fits.cons {update : α → α} {objects : List (Stamped α)} {loop : Loop α}
    (h : loop.Fits update objects) (object : Stamped α) :
    loop.Fits update (object :: objects) := by
  cases loop with
  | reading => trivial
  | computing seen => exact List.mem_cons_of_mem object h
  | swapping seen made =>
    exact ⟨List.mem_cons_of_mem object h.1, List.mem_cons_of_mem object h.2.1, h.2.2⟩
  | finished => trivial

/-- How often a loop has swapped. -/
def Loop.swaps : Loop α → Nat
  | finished => 1
  | _ => 0

/-- A cell with loops at work on it. -/
structure Contest (ι α : Type) where
  cell : AtomicCell α
  loops : ι → Loop α
  /-- the objects that there have been -/
  objects : List (Stamped α)
  /-- a stamp that none of them has -/
  fresh : Nat

/-- What can happen to a cell. -/
inductive Effect (ι α : Type) where
  | set (value : α)
  /-- the update of a loop is swapped in -/
  | update (i : ι)

/-- The value in a cell after an effect. -/
def Effect.apply (f : ι → α → α) (value : α) : Effect ι α → α
  | set new => new
  | update i => f i value

/-- The loop whose update is swapped in. -/
def Effect.update? : Effect ι α → Option ι
  | set _ => none
  | update i => some i

namespace Contest

/-- What can happen next. An object that is to be made is asked for under a stamp. -/
inductive Move (ι α : Type) where
  /-- the cell is set -/
  | set (value : α) (stamp : Nat)
  /-- a loop takes its next atomic step -/
  | step (i : ι) (stamp : Nat)

section Moves

-- equality is decided so that the moves can be run; `Classical.decEq` does so for any type
variable [DecidableEq ι] [DecidableEq α]

/-- An object that holds a value: the one that has the stamp, if that is there already and
holds the value, and otherwise a new one. -/
def object (c : Contest ι α) (value : α) (stamp : Nat) : Stamped α :=
  if ∃ there ∈ c.objects, there.stamp = stamp ∧ there.value = value then ⟨stamp, value⟩
  else ⟨c.fresh, value⟩

/-- The contest with one more object. -/
def keep (c : Contest ι α) (object : Stamped α) : Contest ι α :=
  { c with objects := object :: c.objects, fresh := c.fresh + 1 }

/-- The contest with a loop further on. -/
def advance (c : Contest ι α) (i : ι) (loop : Loop α) : Contest ι α :=
  { c with loops := Function.update c.loops i loop }

/-- The contest after a move; `f` are the updates of the loops. -/
def move (f : ι → α → α) (c : Contest ι α) : Move ι α → Contest ι α
  | .set value stamp =>
    let object := c.object value stamp
    { c.keep object with cell := c.cell.set object }
  | .step i stamp =>
    match c.loops i with
    | .reading => c.advance i (.computing c.cell.get)
    | .computing seen =>
      let made := c.object (f i seen.value) stamp
      (c.keep made).advance i (.swapping seen made)
    | .swapping seen made =>
      let (swapped, cell) := c.cell.compareAndSet seen made
      { c with cell }.advance i (if swapped then .finished else .reading)
    | .finished => c

/-- The contest after moves. -/
def run (f : ι → α → α) (c : Contest ι α) (moves : List (Move ι α)) : Contest ι α :=
  moves.foldl (move f) c

/-- A cell with a value in it, and loops that have not begun. -/
def start (initial : α) : Contest ι α where
  cell := ⟨⟨0, initial⟩⟩
  loops := fun _ => .reading
  objects := [⟨0, initial⟩]
  fresh := 1

/-- What a move does to the cell, if it does anything. -/
def effect? (c : Contest ι α) : Move ι α → Option (Effect ι α)
  | .set value _ => some (.set value)
  | .step i _ =>
    match c.loops i with
    | .swapping seen made =>
      if (c.cell.compareAndSet seen made).1 then some (.update i) else none
    | _ => none

/-- What the moves of a run do to the cell, one after the other. -/
def effects (f : ι → α → α) (c : Contest ι α) : List (Move ι α) → List (Effect ι α)
  | [] => []
  | m :: rest => (c.effect? m).toList ++ effects f (c.move f m) rest

end Moves

/-! ## One value to an object -/

/-- The objects in use are among those that there have been, and no two of these have the same
stamp. -/
structure Inv (f : ι → α → α) (c : Contest ι α) : Prop where
  current : c.cell.get ∈ c.objects
  loops : ∀ i, (c.loops i).Fits (f i) c.objects
  stamps : ∀ a ∈ c.objects, ∀ b ∈ c.objects, a.stamp = b.stamp → a = b
  fresh : ∀ a ∈ c.objects, a.stamp < c.fresh

theorem inv_start (f : ι → α → α) (initial : α) : Inv f (start initial) where
  current := List.mem_singleton_self _
  loops := fun _ => trivial
  stamps := by
    intro a ha b hb _
    rw [List.mem_singleton.mp ha, List.mem_singleton.mp hb]
  fresh := by
    intro a ha
    rw [List.mem_singleton.mp ha]
    exact Nat.zero_lt_one

theorem Inv.fits {f : ι → α → α} {c : Contest ι α} (h : Inv f c) {i : ι} {loop : Loop α}
    (hloop : c.loops i = loop) : loop.Fits (f i) c.objects :=
  hloop ▸ h.loops i

theorem Inv.set {f : ι → α → α} {c : Contest ι α} (h : Inv f c) {object : Stamped α}
    (hobject : object ∈ c.objects) : Inv f { c with cell := c.cell.set object } :=
  ⟨hobject, h.loops, h.stamps, h.fresh⟩

section Objects

variable [DecidableEq α]

theorem object_value (c : Contest ι α) (value : α) (stamp : Nat) :
    (c.object value stamp).value = value := by
  unfold object
  split <;> rfl

/-- An object that is asked for is there already, or it is a new one. -/
theorem object_cases (c : Contest ι α) (value : α) (stamp : Nat) :
    c.object value stamp ∈ c.objects ∨ (c.object value stamp).stamp = c.fresh := by
  unfold object
  split
  · next hthere =>
    obtain ⟨there, hmem, rfl, rfl⟩ := hthere
    exact Or.inl hmem
  · exact Or.inr rfl

/-- An object that is asked for is the only one with its stamp. -/
theorem Inv.eq_object {f : ι → α → α} {c : Contest ι α} (h : Inv f c) (value : α) (stamp : Nat)
    {a : Stamped α} (ha : a ∈ c.objects) (he : a.stamp = (c.object value stamp).stamp) :
    a = c.object value stamp := by
  rcases c.object_cases value stamp with hthere | hnew
  · exact h.stamps a ha _ hthere he
  · have := h.fresh a ha
    omega

theorem Inv.keep {f : ι → α → α} {c : Contest ι α} (h : Inv f c) (value : α) (stamp : Nat) :
    Inv f (c.keep (c.object value stamp)) where
  current := List.mem_cons_of_mem _ h.current
  loops := fun i => (h.loops i).cons _
  stamps := by
    -- the object that is asked for is added once more if it is there already
    intro a ha b hb he
    rcases List.mem_cons.mp ha with rfl | ha
    · rcases List.mem_cons.mp hb with rfl | hb
      · rfl
      · exact (h.eq_object value stamp hb he.symm).symm
    · rcases List.mem_cons.mp hb with rfl | hb
      · exact h.eq_object value stamp ha he
      · exact h.stamps a ha b hb he
  fresh := by
    have hobject : (c.object value stamp).stamp < c.fresh + 1 := by
      rcases c.object_cases value stamp with hthere | hnew
      · exact Nat.lt_succ_of_lt (h.fresh _ hthere)
      · omega
    intro a ha
    rcases List.mem_cons.mp ha with rfl | ha
    · exact hobject
    · exact Nat.lt_succ_of_lt (h.fresh a ha)

end Objects

section Loops

variable [DecidableEq ι]

theorem loops_advance (c : Contest ι α) (i j : ι) (loop : Loop α) :
    (c.advance i loop).loops j = if j = i then loop else c.loops j :=
  Function.update_apply c.loops i loop j

/-- A loop that has not swapped and goes on without a swap leaves all loops with as many swaps
as before. -/
theorem swaps_advance {c : Contest ι α} {i : ι} {loop : Loop α} (hold : (c.loops i).swaps = 0)
    (hnew : loop.swaps = 0) (j : ι) : ((c.advance i loop).loops j).swaps = (c.loops j).swaps := by
  rw [loops_advance]
  split
  · next hj => rw [hj, hold, hnew]
  · rfl

theorem Inv.advance {f : ι → α → α} {c : Contest ι α} (h : Inv f c) {i : ι} {loop : Loop α}
    (hloop : loop.Fits (f i) c.objects) : Inv f (c.advance i loop) where
  current := h.current
  loops := by
    intro j
    rw [loops_advance]
    split
    · next hj => exact hj ▸ hloop
    · exact h.loops j
  stamps := h.stamps
  fresh := h.fresh

end Loops

section Contest

variable [DecidableEq ι] [DecidableEq α] {f : ι → α → α} {c d : Contest ι α} {m : Move ι α}
  {effect? : Option (Effect ι α)}

/-! ## What a move does -/

/-- What a move does to a contest and to the cell, one case for each step of a loop. -/
inductive Moved (f : ι → α → α) (c : Contest ι α) :
    Move ι α → Option (Effect ι α) → Contest ι α → Prop
  | set (value : α) (stamp : Nat) :
      Moved f c (.set value stamp) (some (.set value))
        { c.keep (c.object value stamp) with cell := c.cell.set (c.object value stamp) }
  | read {i : ι} {stamp : Nat} (h : c.loops i = .reading) :
      Moved f c (.step i stamp) none (c.advance i (.computing c.cell.get))
  | computed {i : ι} {stamp : Nat} {seen : Stamped α} (h : c.loops i = .computing seen) :
      Moved f c (.step i stamp) none
        ((c.keep (c.object (f i seen.value) stamp)).advance i
          (.swapping seen (c.object (f i seen.value) stamp)))
  | swapped {i : ι} {stamp : Nat} {seen made : Stamped α} (h : c.loops i = .swapping seen made)
      (hthere : c.cell.get.stamp = seen.stamp) :
      Moved f c (.step i stamp) (some (.update i))
        ({ c with cell := c.cell.set made }.advance i .finished)
  | missed {i : ι} {stamp : Nat} {seen made : Stamped α} (h : c.loops i = .swapping seen made) :
      Moved f c (.step i stamp) none (c.advance i .reading)
  | idle {i : ι} {stamp : Nat} (h : c.loops i = .finished) : Moved f c (.step i stamp) none c

theorem moved (f : ι → α → α) (c : Contest ι α) (m : Move ι α) :
    Moved f c m (c.effect? m) (c.move f m) := by
  cases m with
  | set value stamp => exact .set value stamp
  | step i stamp =>
    rw [effect?, move]
    cases h : c.loops i with
    | reading => exact .read h
    | computing seen => exact .computed h
    | finished => exact .idle h
    | swapping seen made =>
      dsimp only
      by_cases hthere : c.cell.get.stamp = seen.stamp
      · rw [compareAndSet_of_eq hthere]
        exact .swapped h hthere
      · rw [compareAndSet_of_ne hthere]
        exact .missed h

/-- A move keeps one value to an object. -/
theorem Moved.inv (hm : Moved f c m effect? d) (h : Inv f c) : Inv f d := by
  cases hm with
  | set value stamp => exact (h.keep value stamp).set List.mem_cons_self
  | read _ => exact h.advance h.current
  | @computed i stamp seen hloop =>
    have hseen : seen ∈ c.objects := h.fits hloop
    refine (h.keep _ _).advance ⟨List.mem_cons_of_mem _ hseen, List.mem_cons_self, ?_⟩
    exact c.object_value _ _
  | @swapped i stamp seen made hloop hthere =>
    obtain ⟨-, hmade, -⟩ := h.fits hloop
    exact (h.set hmade).advance trivial
  | missed _ => exact h.advance trivial
  | idle _ => exact h

/-! ## What the cell holds -/

/-- A move does to the value in the cell what its effect says. A swap that succeeds finds the
object that its update was made from, so the update is applied to the value in the cell,
whatever has been there in between. -/
theorem Moved.value (hm : Moved f c m effect? d) (h : Inv f c) :
    d.cell.get.value = effect?.toList.foldl (Effect.apply f) c.cell.get.value := by
  cases hm with
  | set value stamp => exact c.object_value value stamp
  | read _ => rfl
  | computed _ => rfl
  | @swapped i stamp seen made hloop hthere =>
    obtain ⟨hseen, -, hmade⟩ := h.fits hloop
    -- it may have been away in between, but it is the same object
    have hsame : c.cell.get = seen := h.stamps _ h.current _ hseen hthere
    show made.value = f i c.cell.get.value
    rw [hsame]
    exact hmade
  | missed _ => rfl
  | idle _ => rfl

theorem inv_run (h : Inv f c) (moves : List (Move ι α)) : Inv f (c.run f moves) := by
  induction moves generalizing c with
  | nil => exact h
  | cons m rest ih => exact ih ((moved f c m).inv h)

/-- The value in the cell after a run is what a replay of its effects gives. -/
theorem value_run (h : Inv f c) (moves : List (Move ι α)) :
    (c.run f moves).cell.get.value
      = (c.effects f moves).foldl (Effect.apply f) c.cell.get.value := by
  induction moves generalizing c with
  | nil => rfl
  | cons m rest ih =>
    rw [effects, List.foldl_append, ← (moved f c m).value h]
    exact ih ((moved f c m).inv h)

/-! ## How often a loop swaps -/

/-- A loop has swapped once more if its update is swapped in. -/
theorem Moved.swaps (hm : Moved f c m effect? d) (i : ι) :
    (d.loops i).swaps = (c.loops i).swaps + (effect?.toList.filterMap Effect.update?).count i := by
  cases hm with
  | set value stamp => rfl
  | read hloop => exact swaps_advance (congrArg Loop.swaps hloop) rfl i
  | computed hloop => exact swaps_advance (congrArg Loop.swaps hloop) rfl i
  | missed hloop => exact swaps_advance (congrArg Loop.swaps hloop) rfl i
  | idle _ => rfl
  | @swapped j stamp seen made hloop hthere =>
    show _ = (c.loops i).swaps + [j].count i
    rw [loops_advance]
    by_cases hi : i = j
    · subst hi
      rw [if_pos rfl, hloop, List.count_singleton_self]
      rfl
    · rw [if_neg hi, List.count_singleton, if_neg (fun e => hi (beq_iff_eq.mp e).symm)]
      rfl

/-- A loop swaps once, and is finished then. -/
theorem swaps_run (f : ι → α → α) (c : Contest ι α) (moves : List (Move ι α)) (i : ι) :
    ((c.run f moves).loops i).swaps
      = (c.loops i).swaps + ((c.effects f moves).filterMap Effect.update?).count i := by
  induction moves generalizing c with
  | nil => rfl
  | cons m rest ih =>
    rw [effects, List.filterMap_append, List.count_append, ← Nat.add_assoc,
      ← (moved f c m).swaps i]
    exact ih (c.move f m)

end Contest

/-! ## The value in the end -/

/-- A replay gives the last value that is set, or else the first one, with the updates applied
that come after it. -/
theorem exists_last_set (f : ι → α → α) (first : α) (effects : List (Effect ι α)) :
    ∃ (base : α) (updates : List ι),
      (effects = updates.map .update ∧ base = first
        ∨ ∃ before, effects = before ++ .set base :: updates.map .update)
      ∧ effects.foldl (Effect.apply f) first = updates.foldl (fun value i => f i value) base := by
  induction effects generalizing first with
  | nil => exact ⟨first, [], Or.inl ⟨rfl, rfl⟩, rfl⟩
  | cons effect rest ih =>
    obtain ⟨base, updates, hrest, hvalue⟩ := ih (effect.apply f first)
    rcases hrest with ⟨rfl, rfl⟩ | ⟨before, rfl⟩
    · -- nothing is set later on, so it is this effect that counts
      cases effect with
      | set value => exact ⟨value, updates, Or.inr ⟨[], rfl⟩, hvalue⟩
      | update i => exact ⟨first, i :: updates, Or.inl ⟨rfl, rfl⟩, hvalue⟩
    · exact ⟨base, updates, Or.inr ⟨effect :: before, rfl⟩, hvalue⟩

/-- **Update loops apply every update once.** Loops for the updates `f` are at work on a cell
that holds `initial`, others set it any number of times, and the steps follow one another in
any order; every object is a new one or one that there has been before. When all loops are
finished, the cell holds the value that was set last, or else `initial`, with the updates
applied that were swapped in after it, in their order; and the update of every loop has been
swapped in exactly once. -/
theorem updates_apply_once [DecidableEq ι] [DecidableEq α] (f : ι → α → α) (initial : α)
    (moves : List (Move ι α))
    (hfinished : ∀ i, ((start initial).run f moves).loops i = .finished) :
    let effects := (start initial).effects f moves
    ∃ (base : α) (updates : List ι),
      (effects = updates.map .update ∧ base = initial
        ∨ ∃ before, effects = before ++ .set base :: updates.map .update)
      ∧ ((start initial).run f moves).cell.get.value
        = updates.foldl (fun value i => f i value) base
      ∧ ∀ i, (effects.filterMap Effect.update?).count i = 1 := by
  intro effects
  obtain ⟨base, updates, hlast, hreplay⟩ := exists_last_set f initial effects
  refine ⟨base, updates, hlast, ?_, ?_⟩
  · rw [← hreplay]
    exact value_run (inv_start f initial) moves
  · intro i
    have hswaps := swaps_run f (start initial) moves i
    rw [hfinished i] at hswaps
    exact (hswaps.trans (Nat.zero_add _)).symm

/-- Three updates of a number. -/
def reckoning : Fin 3 → Nat → Nat
  | 0 => (· + 1)
  | 1 => (· - 1)
  | 2 => (2 * ·)

/-- The first loop reads before the number is set to `5`, so its first swap fails. The third one
reads the object that is set, and it swaps when the first one has replaced that object and the
second has put it back. -/
def restored : List (Move (Fin 3) Nat) :=
  [.step 0 0, .set 5 0, .step 0 0, .step 0 0, .step 2 0, .step 2 0, .step 0 0, .step 0 0,
    .step 0 0, .step 1 0, .step 1 1, .step 1 0, .step 2 0]

/-- No update is lost, and none is applied to a number that it was not made from. -/
theorem updates_apply_once_restored :
    (∀ i, ((start 1).run reckoning restored).loops i = .finished)
      ∧ ((start 1).run reckoning (restored.take 12)).cell.get
        = ((start 1).run reckoning (restored.take 2)).cell.get
      ∧ (start 1).effects reckoning restored = [.set 5, .update 0, .update 1, .update 2]
      ∧ ((start 1).run reckoning restored).cell.get.value = 2 * (5 + 1 - 1)
      ∧ ∀ i, (((start 1).effects reckoning restored).filterMap Effect.update?).count i = 1 := by
  have hfinished : ∀ i, ((start 1).run reckoning restored).loops i = .finished := by
    intro i
    match i with
    | 0 => rfl
    | 1 => rfl
    | 2 => rfl
  obtain ⟨-, -, -, -, honce⟩ := updates_apply_once reckoning 1 restored hfinished
  exact ⟨hfinished, rfl, rfl, rfl, honce⟩

end Contest

end WebRouter.AtomicCell
