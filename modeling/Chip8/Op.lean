import Chip8.Text.Decimal

/-!
# The operations

The instruction set has 34 operations. An operation is what an instruction
does, without its operands; the comment behind each constructor is its pattern
of four hexadecimal digits, where `X`, `Y`, `N`, `NN` and `NNN` are operands
and `_` is not looked at.
-/

namespace Chip8

/-- The operations, in the order of their numbers. -/
inductive Op where
  | cls         -- 00E0  darken the display
  | ret         -- 00EE  return from a subroutine
  | jp          -- 1NNN  jump
  | call        -- 2NNN  call a subroutine
  | seByte      -- 3XNN  skip if VX = NN
  | sneByte     -- 4XNN  skip if VX ≠ NN
  | seReg       -- 5XY_  skip if VX = VY
  | ldByte      -- 6XNN  VX := NN
  | addByte     -- 7XNN  VX := VX + NN, no flag
  | ldReg       -- 8XY0  VX := VY
  | or          -- 8XY1
  | and         -- 8XY2
  | xor         -- 8XY3
  | addReg      -- 8XY4  VX := VX + VY, VF := carry
  | sub         -- 8XY5  VX := VX - VY, VF := no borrow
  | shr         -- 8X_6  VX := VX / 2, VF := bit shifted out
  | subn        -- 8XY7  VX := VY - VX, VF := no borrow
  | shl         -- 8X_E  VX := VX * 2, VF := bit shifted out
  | sneReg      -- 9XY_  skip if VX ≠ VY
  | ldI         -- ANNN  I := NNN
  | jpV0        -- BNNN  jump to NNN + V0
  | rnd         -- CXNN  VX := random byte under the mask NN
  | drw         -- DXYN  draw a sprite of N rows at (VX, VY), VF := collision
  | skp         -- EX9E  skip if the key VX is down
  | sknp        -- EXA1  skip if the key VX is up
  | getDelay    -- FX07  VX := delay timer
  | waitKey     -- FX0A  wait for a key, VX := its number
  | setDelay    -- FX15  delay timer := VX
  | setSound    -- FX18  sound timer := VX
  | addI        -- FX1E  I := I + VX
  | font        -- FX29  I := address of the digit sprite VX
  | bcd         -- FX33  store the three decimal digits of VX at I
  | storeRegs   -- FX55  store V0 to VX at I
  | loadRegs    -- FX65  load V0 to VX from I
deriving DecidableEq, Repr, Inhabited

namespace Op

/-- All operations, in the order of their numbers. -/
def all : List Op :=
  [cls, ret, jp, call, seByte, sneByte, seReg, ldByte, addByte, ldReg, or, and, xor, addReg,
    sub, shr, subn, shl, sneReg, ldI, jpV0, rnd, drw, skp, sknp, getDelay, waitKey, setDelay,
    setSound, addI, font, bcd, storeRegs, loadRegs]

/-- The number of an operation: its place in `all`. -/
def number (op : Op) : Nat := op.ctorIdx

/-- The operation with the given number. -/
def ofNumber? (n : Int) : Option Op :=
  all.find? (·.number = n)

/-- What is said of a number that belongs to no operation. -/
def unknownNumber (n : Int) : String :=
  Text.decimal n ++ " is not a valid Op"

/-- The symbolic name of an operation. Operations that share an assembly word
are told apart by the kinds of their operands. -/
def name : Op → String
  | cls => "CLS"
  | ret => "RET"
  | jp => "JP"
  | call => "CALL"
  | seByte => "SE_VX_NN"
  | sneByte => "SNE_VX_NN"
  | seReg => "SE_VX_VY"
  | ldByte => "LD_VX_NN"
  | addByte => "ADD_VX_NN"
  | ldReg => "LD_VX_VY"
  | or => "OR"
  | and => "AND"
  | xor => "XOR"
  | addReg => "ADD_VX_VY"
  | sub => "SUB"
  | shr => "SHR"
  | subn => "SUBN"
  | shl => "SHL"
  | sneReg => "SNE_VX_VY"
  | ldI => "LD_I"
  | jpV0 => "JP_V0"
  | rnd => "RND"
  | drw => "DRW"
  | skp => "SKP"
  | sknp => "SKNP"
  | getDelay => "LD_VX_DT"
  | waitKey => "LD_VX_K"
  | setDelay => "LD_DT_VX"
  | setSound => "LD_ST_VX"
  | addI => "ADD_I_VX"
  | font => "LD_F_VX"
  | bcd => "LD_B_VX"
  | storeRegs => "LD_MEM_VX"
  | loadRegs => "LD_VX_MEM"

/-- Every operation is in the list. -/
theorem mem_all (op : Op) : op ∈ all := by
  cases op <;> decide

/-- The number of an operation leads back to it. -/
theorem ofNumber?_number (op : Op) : ofNumber? op.number = some op := by
  cases op <;> decide

end Op

end Chip8
