import Chip8.Keypad
import Chip8.Random
import Chip8.Sprite
import Chip8.Stack
import Chip8.Trace

/-!
# The state of a machine

Everything that a machine is: what a program can see, the keypad that its host
moves, and the program itself, which is kept for a reset.
-/

namespace Chip8

/-- A machine between two calls of its host. -/
structure State where
  /-- The key of the random bytes still to come. -/
  rng : Key
  memory : Memory
  /-- The address of the next instruction. -/
  pc : UInt16
  display : Display
  stack : Stack
  /-- The delay timer. -/
  delay : UInt8
  /-- The sound timer: the tone plays while it is above zero. -/
  sound : UInt8
  keypad : Keypad
  /-- The registers `V0` to `VF`. -/
  v : Vector UInt8 16
  /-- The index register `I`. -/
  index : UInt16
  trace : Trace
  program : List UInt8
deriving DecidableEq

namespace State

/-- A machine that has just loaded a program, whatever its length: bytes past
the end of memory are lost. -/
def fresh (program : List UInt8) (rng : Key) : State where
  rng := rng
  memory := .load program
  pc := UInt16.ofNat Layout.programStart
  display := .dark
  stack := .empty
  delay := 0
  sound := 0
  keypad := .allUp
  v := Vector.replicate 16 0
  index := 0
  trace := .empty
  program := program

/-- The value of a register. -/
def reg (s : State) (x : Fin 16) : UInt8 := s.v.get x

/-- Gives a register a value. -/
def setReg (s : State) (x : Fin 16) (b : UInt8) : State := { s with v := s.v.setIfInBounds x b }

/-- Gives the flag register a truth value. -/
def setFlag (s : State) (flag : Bool) : State := s.setReg Layout.flagRegister flag.toUInt8

/-- Passes over the next instruction if the condition holds. -/
def skipIf (s : State) (condition : Bool) : State :=
  { s with pc := if condition then s.pc + 2 else s.pc }

/-- Whether a host should be playing the tone. -/
def soundActive (s : State) : Bool := 0 < s.sound

/-- The display as a host reads it, row by row from the top: one where a pixel is
lit, zero where it is dark. -/
def framebuffer (s : State) : Vector (Vector UInt8 64) 32 :=
  s.display.rows.map fun row => row.map Bool.toUInt8

theorem reg_setReg (s : State) (x : Fin 16) (b : UInt8) (y : Fin 16) :
    (s.setReg x b).reg y = if x = y then b else s.reg y := by
  show (s.v.setIfInBounds x b)[y] = if x = y then b else s.v[y]
  simp [Vector.getElem_setIfInBounds, Fin.ext_iff]

end State

end Chip8
