/-!
# Instruction codes

A code is any integer. Memory holds codes of 16 bits, but a host may hand the
machine a wider or a negative one; its operands are then read from the low 16
bits of its two's complement, which for quotients rounded down and remainders
that are never negative are plain arithmetic. An instruction can be decoded from
a code of any size, but a call that hands one in only succeeds with a signed word
of 32 bits.
-/

namespace Chip8

/-- An instruction code as a host may give it: any integer. -/
abbrev Code := Int

/-- The word whose high byte comes first. -/
def wordOfBytes (high low : UInt8) : UInt16 :=
  UInt16.ofNat (256 * high.toNat + low.toNat)

theorem toNat_wordOfBytes (high low : UInt8) :
    (wordOfBytes high low).toNat = 256 * high.toNat + low.toNat := by
  have hhigh := high.toNat_lt
  have hlow := low.toNat_lt
  rw [wordOfBytes, UInt16.toNat_ofNat']
  exact Nat.mod_eq_of_lt (by omega)

namespace Code

/-- The highest of the four digits, which names the family. -/
def opcode (c : Code) : Fin 16 := ⟨(c / 4096 % 16).toNat, by omega⟩

/-- The second digit: the number of the register `VX`. -/
def x (c : Code) : Fin 16 := ⟨(c / 256 % 16).toNat, by omega⟩

/-- The third digit: the number of the register `VY`. -/
def y (c : Code) : Fin 16 := ⟨(c / 16 % 16).toNat, by omega⟩

/-- The last digit. -/
def n (c : Code) : Fin 16 := ⟨(c % 16).toNat, by omega⟩

/-- The last two digits: a byte operand. -/
def nn (c : Code) : UInt8 := UInt8.ofNat (c % 256).toNat

/-- The last three digits: an address operand. -/
def nnn (c : Code) : UInt16 := UInt16.ofNat (c % 4096).toNat

/-- The low 16 bits, as the trace keeps them. -/
def word (c : Code) : UInt16 := UInt16.ofNat (c % 65536).toNat

/-- Whether a code is a signed word of 32 bits. -/
def isSigned32 (c : Code) : Bool := -0x80000000 ≤ c && c < 0x80000000

theorem toNat_nn (c : Code) : (c.nn.toNat : Int) = c % 256 := by
  simp [nn]; omega

theorem toNat_nnn (c : Code) : (c.nnn.toNat : Int) = c % 4096 := by
  simp [nnn]; omega

theorem toNat_word (c : Code) : (c.word.toNat : Int) = c % 65536 := by
  simp [word]; omega

end Code

end Chip8
