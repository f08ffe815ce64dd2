/-!
# Layout of the machine

Sizes and addresses that instructions and messages name. Memory ends at `0xFFF`;
the sprites of the sixteen digits stand at `0x100`, and programs are loaded at
`0x200`. The sizes that are part of a type stand in it as numerals.
-/

namespace Chip8.Layout

/-- Number of bytes of memory. -/
def memorySize : Nat := 4096

/-- The last address of memory. -/
def lastAddress : Nat := 0xFFF

/-- Where programs are loaded and start. -/
def programStart : Nat := 0x200

/-- The longest program, in bytes. -/
def programLimit : Nat := memorySize - programStart

/-- Where the digit sprites stand. -/
def fontStart : Nat := 0x100

/-- Number of bytes, and so of rows, of a digit sprite. -/
def digitSize : Nat := 5

/-- There are numbers below sixteen, said once for the numerals of all modules. -/
instance neZero_sixteen : @NeZero Nat .ofOfNat0 16 := ⟨by decide⟩

/-- The register that takes flags. -/
def flagRegister : Fin 16 := 0xF

/-- Number of keys. -/
def keyCount : Nat := 16

/-- The sprites of the digits `0` to `F`, top row first. -/
def font : List UInt8 :=
  [0xF0, 0x90, 0x90, 0x90, 0xF0,
    0x20, 0x60, 0x20, 0x20, 0x70,
    0xF0, 0x10, 0xF0, 0x80, 0xF0,
    0xF0, 0x10, 0xF0, 0x10, 0xF0,
    0x90, 0x90, 0xF0, 0x10, 0x10,
    0xF0, 0x80, 0xF0, 0x10, 0xF0,
    0xF0, 0x80, 0xF0, 0x90, 0xF0,
    0xF0, 0x10, 0x20, 0x40, 0x40,
    0xF0, 0x90, 0xF0, 0x90, 0xF0,
    0xF0, 0x90, 0xF0, 0x10, 0xF0,
    0xF0, 0x90, 0xF0, 0x90, 0x90,
    0xE0, 0x90, 0xE0, 0x90, 0xE0,
    0xF0, 0x80, 0x80, 0x80, 0xF0,
    0xE0, 0x90, 0x90, 0x90, 0xE0,
    0xF0, 0x80, 0xF0, 0x80, 0xF0,
    0xF0, 0x80, 0xF0, 0x80, 0x80]

theorem length_font : font.length = 16 * digitSize := by decide

end Chip8.Layout
