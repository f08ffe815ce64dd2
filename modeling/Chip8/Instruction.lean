import Chip8.Fault
import Chip8.Op

/-!
# Instructions

`Op.ofCode?` is the grammar of the instruction set: which operation a code
asks for, if any. An `Instruction` is a code together with its operation; its
operands are digits of the code, whether the operation uses them or not.

The highest digit names the family. Families `0`, `8`, `E` and `F` hold more
than one operation: family `8` tells them apart by the last digit, `E` and `F`
by the last two. The two operations of family `0` have no operands, and they
are compared with the code as a whole: a code of more than 16 bits whose low
half reads `00E0` is none of them.
-/

namespace Chip8

/-- The operations on two registers, by the last digit. -/
def Op.ofArithmetic? : Nat → Option Op
  | 0x0 => some .ldReg
  | 0x1 => some .or
  | 0x2 => some .and
  | 0x3 => some .xor
  | 0x4 => some .addReg
  | 0x5 => some .sub
  | 0x6 => some .shr
  | 0x7 => some .subn
  | 0xE => some .shl
  | _ => none

/-- The skips on the keypad, by the last two digits. -/
def Op.ofKeypad? : Nat → Option Op
  | 0x9E => some .skp
  | 0xA1 => some .sknp
  | _ => none

/-- The operations on timers, index and memory, by the last two digits. -/
def Op.ofTransfer? : Nat → Option Op
  | 0x07 => some .getDelay
  | 0x0A => some .waitKey
  | 0x15 => some .setDelay
  | 0x18 => some .setSound
  | 0x1E => some .addI
  | 0x29 => some .font
  | 0x33 => some .bcd
  | 0x55 => some .storeRegs
  | 0x65 => some .loadRegs
  | _ => none

/-- The operation that a code asks for. -/
def Op.ofCode? (c : Code) : Option Op :=
  match c.opcode.val with
  | 0x0 => if c = 0x00E0 then some .cls else if c = 0x00EE then some .ret else none
  | 0x1 => some .jp
  | 0x2 => some .call
  | 0x3 => some .seByte
  | 0x4 => some .sneByte
  | 0x5 => some .seReg
  | 0x6 => some .ldByte
  | 0x7 => some .addByte
  | 0x8 => Op.ofArithmetic? c.n.val
  | 0x9 => some .sneReg
  | 0xA => some .ldI
  | 0xB => some .jpV0
  | 0xC => some .rnd
  | 0xD => some .drw
  | 0xE => Op.ofKeypad? c.nn.toNat
  | _ => Op.ofTransfer? c.nn.toNat

/-- A code and the operation it asks for. -/
structure Instruction where
  op : Op
  code : Code
deriving DecidableEq, Repr

namespace Instruction

/-- The family digit. -/
abbrev opcode (i : Instruction) : Fin 16 := i.code.opcode

/-- The number of the first register. -/
abbrev x (i : Instruction) : Fin 16 := i.code.x

/-- The number of the second register. -/
abbrev y (i : Instruction) : Fin 16 := i.code.y

/-- The digit operand. -/
abbrev n (i : Instruction) : Fin 16 := i.code.n

/-- The byte operand. -/
abbrev nn (i : Instruction) : UInt8 := i.code.nn

/-- The address operand. -/
abbrev nnn (i : Instruction) : UInt16 := i.code.nnn

/-- Decodes a code; the fault of a code outside the grammar carries the whole
code and the address that the caller names. -/
def decode (c : Code) (address : Option Int) : Except Fault Instruction :=
  match Op.ofCode? c with
  | some op => .ok ⟨op, c⟩
  | none => .error (.unimplemented c address)

theorem decode_eq_ok_iff {c : Code} {address : Option Int} {i : Instruction} :
    decode c address = .ok i ↔ Op.ofCode? c = some i.op ∧ i.code = c := by
  cases i
  unfold decode
  split <;> rename_i h <;> simp [h, eq_comm]

theorem decode_eq_error_iff {c : Code} {address : Option Int} {f : Fault} :
    decode c address = .error f ↔ Op.ofCode? c = none ∧ f = .unimplemented c address := by
  unfold decode
  split <;> rename_i h <;> simp [h, eq_comm]

end Instruction

end Chip8
