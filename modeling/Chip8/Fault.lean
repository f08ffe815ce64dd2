import Chip8.Code
import Chip8.Text.Decimal
import Chip8.Text.Hex

/-!
# Faults of the engine

A fault is raised before the instruction at fault touches the state, so a host
that meets one can still inspect the machine as it was.
-/

namespace Chip8

open Text

/-- Why the engine refuses to go on. -/
inductive Fault where
  /-- The code matches no operation. The address is known when it was run. -/
  | unimplemented (code : Code) (address : Option Int)
  /-- The program is longer than the memory behind the program start. -/
  | programTooLarge (size limit : Nat)
  /-- A subroutine call with every stack slot in use. -/
  | stackOverflow (address : Int)
  /-- A return with an empty stack. -/
  | stackUnderflow (address : Int)
  /-- An access past the end of memory, by a fetch or by the given code. -/
  | memoryAccess (address : Int) (code : Option Code)
deriving DecidableEq, Repr

/-- A part of a message that is there only if its value is known. -/
def Fault.detail (label : String) (width : Nat) : Option Int → String
  | none => ""
  | some v => label ++ hex width v

/-- The text of a fault. -/
def Fault.message : Fault → String
  | unimplemented code address =>
    "Unimplemented instruction 0x" ++ hex 4 code ++ detail " at 0x" 3 address
  | programTooLarge size limit =>
    "Program is " ++ decimal size ++ " bytes, at most " ++ decimal limit ++ " bytes fit in memory"
  | stackOverflow address => "Stack overflow calling from 0x" ++ hex 3 address
  | stackUnderflow address => "Stack underflow returning from 0x" ++ hex 3 address
  | memoryAccess address code =>
    "Memory access out of range at 0x" ++ hex 1 address ++ detail " by 0x" 4 code

end Chip8
