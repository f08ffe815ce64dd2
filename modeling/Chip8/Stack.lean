/-!
# The call stack

Sixteen slots that are filled from the top slot down. The pointer names the
slot that the next push takes: 15 when the stack is empty, and 255, one below
0, when it is full. The operations themselves check nothing, so a host may move
the pointer out of that range, where a push stores nothing and a pop reads the
top slot; the depth then follows the pointer modulo 256.

`contents` is the view: the pending addresses, the latest first.
-/

namespace Chip8

/-- The slots and the pointer. -/
structure Stack where
  slots : Vector UInt16 16
  pointer : UInt8
deriving DecidableEq, Repr

namespace Stack

/-- No address pending. -/
def empty : Stack := ⟨Vector.replicate 16 0, 15⟩

/-- Stores an address at the pointer, then moves the pointer down. -/
def push (s : Stack) (a : UInt16) : Stack :=
  ⟨s.slots.setIfInBounds s.pointer.toNat a, s.pointer - 1⟩

/-- The address that a pop would read: the slot above the pointer. -/
def top (s : Stack) : UInt16 := s.slots[min (s.pointer + 1).toNat 15]

/-- Moves the pointer up. The slot keeps its address. -/
def drop (s : Stack) : Stack := { s with pointer := s.pointer + 1 }

/-- The stack without its latest address, and that address. -/
def pop (s : Stack) : Stack × UInt16 := (s.drop, s.top)

/-- How many addresses are pending. -/
def depth (s : Stack) : Nat := (15 - s.pointer).toNat

/-- Whether no slot is left. -/
def isFull (s : Stack) : Bool := 16 ≤ s.depth

/-- Whether no address is pending. -/
def isEmpty (s : Stack) : Bool := s.depth = 0

/-- The pending addresses, the latest first. -/
def contents (s : Stack) : List UInt16 := s.slots.toList.drop (s.pointer + 1).toNat

@[simp] theorem contents_empty : empty.contents = [] := by decide

end Stack

end Chip8
