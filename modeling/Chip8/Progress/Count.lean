import Chip8.Progress.Quantity

/-!
# What a bar counts in

A bar stands at a whole number of rounds, or at a double once its host has
started it at a fraction. `Count` is what a meter asks of either.
-/

namespace Chip8.Progress

/-- A kind of number that a bar can stand at. -/
class Count (α : Type) where
  /-- A number of rounds. -/
  ofRounds : Int → α
  /-- Whether a number of rounds has a place among the values. -/
  holds : Int → Bool
  /-- A value as a number that a bar shows. -/
  quantity : α → Quantity

instance : Count Int where
  ofRounds n := n
  holds _ := true
  quantity := .whole

instance : Count Float where
  ofRounds := Float.ofInt
  holds := fitsDouble
  quantity := .real

@[simp] theorem ofRounds_int (n : Int) : (Count.ofRounds n : Int) = n := rfl

end Chip8.Progress
