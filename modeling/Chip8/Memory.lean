import Chip8.Code
import Chip8.Layout

/-!
# Memory

4096 bytes. Reading is total: an address past the end reads the last byte, and
one below zero counts from the end (`readSigned`). Writing past the end does
nothing. The engine checks its operands before it gets here, so a running
program meets none of these rules; a host that places a sprite by itself may.

`read` is the view of a memory: two memories with the same bytes are equal
(`ext_read`), and every way to write is described by what is read afterwards. The
ways to write many bytes are sealed, so that a comparison of states never unfolds
them.
-/

namespace Chip8

/-- The bytes of memory. -/
structure Memory where
  bytes : Vector UInt8 4096
deriving DecidableEq

namespace Memory

/-- Memory that holds zeros only. -/
@[irreducible] def zero : Memory := ⟨Vector.replicate 4096 0⟩

/-- The byte at an address. -/
def read (m : Memory) (a : Nat) : UInt8 := m.bytes[min a 4095]

/-- The byte at an address that may lie below zero: it then counts from the
end, and one before the start reads the first byte. -/
def readSigned (m : Memory) (a : Int) : UInt8 :=
  m.read (if a < 0 then a + 4096 else a).toNat

/-- Replaces the byte at an address. -/
def write (m : Memory) (a : Nat) (b : UInt8) : Memory := ⟨m.bytes.setIfInBounds a b⟩

/-- Stores bytes one after the other, the first at the address. -/
@[irreducible] def writeAll : Memory → Nat → List UInt8 → Memory
  | m, _, [] => m
  | m, a, b :: bs => (m.write a b).writeAll (a + 1) bs

/-- The word whose high byte is at the address. -/
def word (m : Memory) (a : Nat) : UInt16 := wordOfBytes (m.read a) (m.read (a + 1))

/-- Memory of a machine that has just loaded a program. -/
@[irreducible] def load (program : List UInt8) : Memory :=
  (zero.writeAll Layout.fontStart Layout.font).writeAll Layout.programStart program

theorem ext_read {m m' : Memory} (h : ∀ a < 4096, m.read a = m'.read a) : m = m' := by
  obtain ⟨bytes⟩ := m
  obtain ⟨bytes'⟩ := m'
  congr
  refine Vector.ext fun i hi => ?_
  have hi' : min i 4095 = i := by omega
  simpa [read, hi'] using h i hi

theorem readSigned_of_nonneg {a : Int} (ha : 0 ≤ a) (m : Memory) :
    m.readSigned a = m.read a.toNat := by
  rw [readSigned, if_neg (by omega)]

theorem read_zero (a : Nat) : zero.read a = 0 := by
  simp [zero, read]

theorem read_write (m : Memory) (a : Nat) (b : UInt8) (c : Nat) :
    (m.write a b).read c = if a = min c 4095 then b else m.read c := by
  simp [read, write, Vector.getElem_setIfInBounds]

theorem read_write_of_lt {c : Nat} (hc : c < 4096) (m : Memory) (a : Nat) (b : UInt8) :
    (m.write a b).read c = if c = a then b else m.read c := by
  rw [read_write, show min c 4095 = c by omega]
  simp [eq_comm]

/-- After a row of bytes was stored, an address inside the row reads the byte
that belongs there and every other address reads what it read before. -/
theorem read_writeAll {c : Nat} (hc : c < 4096) (m : Memory) (a : Nat) (bs : List UInt8) :
    (m.writeAll a bs).read c =
      if a ≤ c then bs[c - a]?.getD (m.read c) else m.read c := by
  induction bs generalizing m a with
  | nil => simp [writeAll]
  | cons b bs ih =>
    rw [writeAll, ih, read_write_of_lt hc]
    by_cases h : c = a
    · simp [h, show ¬ a + 1 ≤ a by omega]
    · by_cases h' : a ≤ c
      · have : c - a = (c - (a + 1)) + 1 := by omega
        simp [h, h', show a + 1 ≤ c by omega, this]
      · simp [h, h', show ¬ a + 1 ≤ c by omega]

/-- An address inside the row reads the byte that belongs there. -/
theorem read_writeAll_add {a k : Nat} {b : UInt8} {bs : List UInt8} (hk : bs[k]? = some b)
    (hlt : a + k < 4096) (m : Memory) : (m.writeAll a bs).read (a + k) = b := by
  rw [read_writeAll hlt, if_pos (Nat.le_add_right _ _), Nat.add_sub_cancel_left, hk]
  rfl

/-- An address outside the row reads what it read before. -/
theorem read_writeAll_of_not_mem {c a : Nat} {bs : List UInt8} (hc : c < 4096)
    (h : c ∉ List.range' a bs.length) (m : Memory) : (m.writeAll a bs).read c = m.read c := by
  rw [List.mem_range'_1] at h
  rw [read_writeAll hc]
  split
  · rw [List.getElem?_eq_none (by omega)]
    rfl
  · rfl

/-- A loaded program stands where programs start. -/
theorem read_load {program : List UInt8} {k : Nat} (hk : k < program.length)
    (hfits : program.length ≤ Layout.programLimit) :
    (load program).read (Layout.programStart + k) = program[k] := by
  have hlt : Layout.programStart + k < 4096 := by
    simp only [Layout.programLimit, Layout.programStart, Layout.memorySize] at hfits ⊢
    omega
  rw [load, read_writeAll_add (List.getElem?_eq_getElem hk) hlt]

end Memory

end Chip8
