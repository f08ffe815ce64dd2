import Chip8.Alu
import Chip8.Instruction
import Chip8.State

/-!
# Running one instruction

`State.perform` says what each operation does; the program counter already
points past the instruction. `State.refusal?` says which instructions are
refused before they touch the state: a call on a full stack, a return on an
empty one, and a memory operand that leaves memory. `State.execute` puts the
two together for a code and adds the record of what was run to the trace.
-/

namespace Chip8

open Layout

/-- The last address of an instruction's memory operand, for the operations
that have one: as many rows as a sprite has, three decimal digits, or the
registers `V0` to `VX`. The operand starts at the index register; a sprite
without rows counts as ending just before it. -/
def Instruction.lastAddress? (i : Instruction) (index : UInt16) : Option Int :=
  match i.op with
  | .drw => some (index.toNat + i.n.val - 1)
  | .bcd => some (index.toNat + 2)
  | .storeRegs => some (index.toNat + i.x.val)
  | .loadRegs => some (index.toNat + i.x.val)
  | _ => none

/-- The decimal digits of a byte, hundreds first. -/
def decimalDigits (b : UInt8) : List UInt8 := [b / 100, b / 10 % 10, b % 10]

/-- Registers whose first ones, up to number `x`, are replaced by the bytes of
memory at an address. -/
@[irreducible] def loadedRegs (m : Memory) (a : Nat) (v : Vector UInt8 16) (x : Fin 16) :
    Vector UInt8 16 :=
  Vector.ofFn fun j => if j ≤ x then m.read (a + j.val) else v.get j

theorem get_loadedRegs (m : Memory) (a : Nat) (v : Vector UInt8 16) (x j : Fin 16) :
    (loadedRegs m a v x).get j = if j ≤ x then m.read (a + j.val) else v.get j := by
  show (loadedRegs m a v x)[j] = _
  simp [loadedRegs]

namespace State

/-- Why an instruction at an address may not run, if so. -/
def refusal? (s : State) (i : Instruction) (address : Int) : Option Fault :=
  if i.op = .call ∧ s.stack.isFull then some (.stackOverflow address)
  else if i.op = .ret ∧ s.stack.isEmpty then some (.stackUnderflow address)
  else
    match i.lastAddress? s.index with
    | some last => if lastAddress < last then some (.memoryAccess last i.code) else none
    | none => none

/-- Gives `VX` the value and then the flag register the flag, so that the flag
wins where both are the same register. -/
def setFlagged (s : State) (x : Fin 16) (r : Flagged) : State :=
  (s.setReg x r.value).setFlag r.flag

/-- The bytes of `V0` to `VX`. -/
def firstRegs (s : State) (x : Fin 16) : List UInt8 := s.v.toList.take (x.val + 1)

/-- Takes `V0` to `VX` from memory at the index. -/
def loadRegs (s : State) (x : Fin 16) : State :=
  { s with v := loadedRegs s.memory s.index.toNat s.v x }

/-- The sprite of `height` rows at the index, placed at `(VX, VY)`. -/
def sprite (s : State) (x y height : Fin 16) : Display :=
  Sprite.mask s.memory (.ofInt s.index.toNat) (.ofInt (s.reg x).toNat) (.ofInt (s.reg y).toNat)
    (.ofInt height.val)

/-- Flips the pixels of a sprite; the flag tells whether a lit one went
dark. -/
def draw (s : State) (sprite : Display) : State :=
  { s with display := s.display.xor sprite }.setFlag (s.display.meets sprite)

/-- Gives `VX` the number of a key; without a key the program counter goes
back, so that the same instruction comes next again. -/
def awaitKey (s : State) (x : Fin 16) (key : Option (Fin 16)) : State :=
  { s with
    pc := if key.isSome then s.pc else s.pc - 2
    v := match key with
      | some k => s.v.setIfInBounds x (UInt8.ofNat k.val)
      | none => s.v }

/-- What an instruction does. -/
def perform (s : State) (i : Instruction) : State :=
  match i.op with
  | .cls => { s with display := .dark }
  | .ret => { s with stack := s.stack.drop, pc := s.stack.top }
  | .jp => { s with pc := i.nnn }
  | .call => { s with stack := s.stack.push s.pc, pc := i.nnn }
  | .seByte => s.skipIf (s.reg i.x == i.nn)
  | .sneByte => s.skipIf (s.reg i.x != i.nn)
  | .seReg => s.skipIf (s.reg i.x == s.reg i.y)
  | .ldByte => s.setReg i.x i.nn
  | .addByte => s.setReg i.x (s.reg i.x + i.nn)
  | .ldReg => s.setReg i.x (Alu.set (s.reg i.x) (s.reg i.y))
  | .or => s.setReg i.x (Alu.or (s.reg i.x) (s.reg i.y))
  | .and => s.setReg i.x (Alu.and (s.reg i.x) (s.reg i.y))
  | .xor => s.setReg i.x (Alu.xor (s.reg i.x) (s.reg i.y))
  | .addReg => s.setFlagged i.x (Alu.add (s.reg i.x) (s.reg i.y))
  | .sub => s.setFlagged i.x (Alu.sub (s.reg i.x) (s.reg i.y))
  | .shr => s.setFlagged i.x (Alu.shiftRight (s.reg i.x))
  | .subn => s.setFlagged i.x (Alu.sub (s.reg i.y) (s.reg i.x))
  | .shl => s.setFlagged i.x (Alu.shiftLeft (s.reg i.x))
  | .sneReg => s.skipIf (s.reg i.x != s.reg i.y)
  | .ldI => { s with index := i.nnn }
  | .jpV0 => { s with pc := i.nnn + (s.reg 0).toUInt16 }
  | .rnd => { s.setReg i.x (s.rng.byte &&& i.nn) with rng := s.rng.next }
  | .drw => s.draw (s.sprite i.x i.y i.n)
  | .skp => s.skipIf (s.keypad.isDown (Fin.ofNat 16 (s.reg i.x).toNat))
  | .sknp => s.skipIf (!s.keypad.isDown (Fin.ofNat 16 (s.reg i.x).toNat))
  | .getDelay => s.setReg i.x s.delay
  | .waitKey => s.awaitKey i.x s.keypad.lowest?
  | .setDelay => { s with delay := s.reg i.x }
  | .setSound => { s with sound := s.reg i.x }
  | .addI => { s with index := s.index + (s.reg i.x).toUInt16 }
  | .font => { s with index := UInt16.ofNat (fontStart + digitSize * (s.reg i.x).toNat) }
  | .bcd => { s with memory := s.memory.writeAll s.index.toNat (decimalDigits (s.reg i.x)) }
  | .storeRegs => { s with memory := s.memory.writeAll s.index.toNat (s.firstRegs i.x) }
  | .loadRegs => s.loadRegs i.x

/-- Where the instruction stands that the program counter points past. -/
def instructionAddress (s : State) : UInt16 := s.pc - 2

/-- Runs the instruction with the given code, of any size. A host that hands in a
code which is too wide gets no result (`Call.given`). -/
def execute (s : State) (c : Code) : Except Fault State :=
  match Instruction.decode c (some s.instructionAddress.toNat) with
  | .error f => .error f
  | .ok i =>
    match s.refusal? i s.instructionAddress.toNat with
    | some f => .error f
    | none => .ok { s.perform i with trace := s.trace.push ⟨s.instructionAddress, c.word⟩ }

end State

end Chip8
