/-!
# Arithmetic on two registers

The operations of family `8`, on the bytes of `VX` and `VY`. The first four give
a byte; the others report through the flag register, so they give a byte and a
flag. Subtraction sets the flag when there is no borrow, a shift sets it to the
bit that is shifted out.
-/

namespace Chip8

/-- A byte and the flag that goes with it. -/
structure Flagged where
  value : UInt8
  flag : Bool
deriving DecidableEq, Repr

namespace Alu

/-- The second byte in place of the first. -/
def set (_ b : UInt8) : UInt8 := b

/-- The bits that are set in one of the bytes or in both. -/
def or (a b : UInt8) : UInt8 := a ||| b

/-- The bits that are set in both bytes. -/
def and (a b : UInt8) : UInt8 := a &&& b

/-- The bits that are set in one of the bytes only. -/
def xor (a b : UInt8) : UInt8 := a ^^^ b

/-- The sum modulo 256; the flag is the carry. -/
def add (a b : UInt8) : Flagged := ⟨a + b, 255 < a.toNat + b.toNat⟩

/-- The difference modulo 256; the flag is up when nothing was borrowed. -/
def sub (a b : UInt8) : Flagged := ⟨a - b, b ≤ a⟩

/-- Half of `a`; the flag is its lowest bit. -/
def shiftRight (a : UInt8) : Flagged := ⟨a / 2, a % 2 = 1⟩

/-- Twice `a` modulo 256; the flag is its highest bit. -/
def shiftLeft (a : UInt8) : Flagged := ⟨2 * a, 128 ≤ a⟩

end Alu

end Chip8
