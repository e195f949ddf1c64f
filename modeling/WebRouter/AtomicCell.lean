/-!
# A cell that is replaced as a whole

An `AtomicCell` holds one immutable object. It can be read, set, and replaced on
the condition that it still holds the object that was read before
(`compareAndSet`); each of the three is a single step. Objects are told apart by
their stamps and not by what they hold: two objects of equal value are two
objects, and one that is stored a second time is the same as before.
-/

namespace WebRouter

/-- A value together with the stamp of the object that holds it. -/
structure Stamped (α : Type) where
  stamp : Nat
  value : α

/-- A cell holding one object. -/
structure AtomicCell (α : Type) where
  current : Stamped α

namespace AtomicCell

variable {α : Type}

/-- The object in the cell. -/
def get (cell : AtomicCell α) : Stamped α :=
  cell.current

/-- The cell with another object in it. -/
def set (_cell : AtomicCell α) (object : Stamped α) : AtomicCell α :=
  ⟨object⟩

/-- Replaces the object if it is still the expected one; whether it was, and the
cell afterwards. -/
def compareAndSet (cell : AtomicCell α) (expected object : Stamped α) : Bool × AtomicCell α :=
  if cell.current.stamp = expected.stamp then (true, ⟨object⟩) else (false, cell)

/-- A cell holds what was put into it. -/
theorem get_set (cell : AtomicCell α) (object : Stamped α) : (cell.set object).get = object :=
  rfl

/-- The swap happens if the cell still holds the expected object. -/
theorem compareAndSet_of_eq {cell : AtomicCell α} {expected : Stamped α}
    (h : cell.get.stamp = expected.stamp) (object : Stamped α) :
    cell.compareAndSet expected object = (true, cell.set object) := by
  unfold compareAndSet
  exact if_pos h

/-- Otherwise nothing happens. -/
theorem compareAndSet_of_ne {cell : AtomicCell α} {expected : Stamped α}
    (h : cell.get.stamp ≠ expected.stamp) (object : Stamped α) :
    cell.compareAndSet expected object = (false, cell) := by
  unfold compareAndSet
  exact if_neg h

/-- How a cell is shown, given how its value is. -/
def describe (value : α → String) (cell : AtomicCell α) : String :=
  s!"AtomicRef({value cell.current.value})"

end AtomicCell

end WebRouter
