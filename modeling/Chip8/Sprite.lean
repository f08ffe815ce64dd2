import Chip8.Display
import Chip8.Memory

/-!
# Sprites

A sprite is a row of bytes in memory: each byte is a row of eight pixels, the
highest bit on the left. Placed on the display it is clipped at all four
edges; nothing wraps around.

Coordinates, heights and addresses are signed words of 32 bits, and so are
their sums: a sprite so high that its lower edge passes the largest word has
its edge below zero, and so no rows. For a sprite whose edges are words
`covers_ofInt` says what is lit in plain integers. A host that has numbers of
any size places its sprite with `place`, which refuses those that are no words.
-/

namespace Chip8.Sprite

/-- Whether a point lies in the span that begins at `start` and is `length`
long. -/
def within (start length p : Int32) : Bool :=
  start ≤ p && p < start + length

/-- Whether the sprite at `address`, of `height` rows, placed with its top
left corner at `(x, y)`, covers the point `(px, py)` with a lit pixel. The
corner may lie outside the display; a height below one leaves no rows. -/
def covers (m : Memory) (address x y height px py : Int32) : Bool :=
  within x 8 px && within y height py &&
    (m.readSigned (address + (py - y)).toInt).toNat.testBit (7 - (px - x).toInt.toNat)

/-- The sprite alone on a dark display. -/
@[irreducible] def mask (m : Memory) (address x y height : Int32) : Display :=
  .ofFn fun px py => covers m address x y height (.ofInt px.val) (.ofInt py.val)

/-- A number that is no signed word of 32 bits. -/
inductive NoWord where
  /-- The number of a place: a column, a row or an address. -/
  | place (value : Int)
  | height (value : Int)
deriving DecidableEq, Repr

/-- A number as a word. -/
def word (error : Int → NoWord) (value : Int) : Except NoWord Int32 :=
  if -0x80000000 ≤ value ∧ value < 0x80000000 then .ok (.ofInt value) else .error (error value)

/-- The sprite alone on a dark display, placed by numbers of any size. The
column is checked first, then the row, the height and the address; the first
that is no word is the error. -/
def place (m : Memory) (address x y height : Int) : Except NoWord Display := do
  let x ← word .place x
  let y ← word .place y
  let height ← word .height height
  let address ← word .place address
  return mask m address x y height

@[simp] theorem lit_mask (m : Memory) (address x y height : Int32)
    (px : Fin 64) (py : Fin 32) :
    (mask m address x y height).lit px py =
      covers m address x y height (.ofInt px.val) (.ofInt py.val) := by
  simp [mask]

/-- A sprite whose edges and whose last byte are words, so that no sum wraps
around. -/
structure Fits (address x y height : Int) : Prop where
  height_nonneg : 0 ≤ height
  bytes : 0 ≤ address ∧ address + height < 0x80000000
  columns : -0x80000000 ≤ x ∧ x + 8 < 0x80000000
  rows : -0x80000000 ≤ y ∧ y + height < 0x80000000

/-- The number of a word stands for itself. -/
theorem toInt_ofInt_word {a : Int} (ha : -0x80000000 ≤ a ∧ a < 0x80000000) :
    (Int32.ofInt a).toInt = a :=
  Int32.toInt_ofInt_of_le (by omega) (by omega)

/-- A span whose two ends are words is the span of integers. -/
theorem within_ofInt {start length p : Int} (hs : -0x80000000 ≤ start)
    (hl : 0 ≤ length ∧ length < 0x80000000) (hend : start + length < 0x80000000)
    (hp : -0x80000000 ≤ p ∧ p < 0x80000000) :
    within (.ofInt start) (.ofInt length) (.ofInt p) =
      decide (0 ≤ p - start ∧ p - start < length) := by
  have sum : (Int32.ofInt start + Int32.ofInt length).toInt = start + length := by
    rw [Int32.toInt_add, toInt_ofInt_word (by omega), toInt_ofInt_word (by omega)]
    exact Int.bmod_eq_of_le (by omega) (by omega)
  rw [Bool.eq_iff_iff]
  simp only [within, Bool.and_eq_true, decide_eq_true_eq, Int32.le_iff_toInt_le,
    Int32.lt_iff_toInt_lt, sum, toInt_ofInt_word hp,
    toInt_ofInt_word (show -0x80000000 ≤ start ∧ start < 0x80000000 by omega)]
  omega

/-- The difference of two words, if it is a word. -/
theorem toInt_sub_ofInt {a b : Int} (ha : -0x80000000 ≤ a ∧ a < 0x80000000)
    (hb : -0x80000000 ≤ b ∧ b < 0x80000000) (hdiff : -0x80000000 ≤ a - b ∧ a - b < 0x80000000) :
    (Int32.ofInt a - Int32.ofInt b).toInt = a - b := by
  rw [Int32.toInt_sub, toInt_ofInt_word ha, toInt_ofInt_word hb]
  exact Int.bmod_eq_of_le (by omega) (by omega)

/-- A sprite whose edges are words covers what the integers say: the point lies
in one of its eight columns and in one of its rows, and the bit that belongs
there is set. -/
theorem covers_ofInt (m : Memory) {address x y height px py : Int}
    (fits : Fits address x y height) (hpx : -0x80000000 ≤ px ∧ px < 0x80000000)
    (hpy : -0x80000000 ≤ py ∧ py < 0x80000000) :
    covers m (.ofInt address) (.ofInt x) (.ofInt y) (.ofInt height) (.ofInt px) (.ofInt py) =
      (decide (0 ≤ px - x ∧ px - x < 8 ∧ 0 ≤ py - y ∧ py - y < height) &&
        (m.read (address + (py - y)).toNat).toNat.testBit (7 - (px - x).toNat)) := by
  obtain ⟨hh, ha, hx, hy⟩ := fits
  have columns := within_ofInt hx.1 (show 0 ≤ (8 : Int) ∧ (8 : Int) < 0x80000000 by omega) hx.2 hpx
  have rows := within_ofInt hy.1 (show 0 ≤ height ∧ height < 0x80000000 by omega) hy.2 hpy
  rw [show Int32.ofInt 8 = 8 from rfl] at columns
  rw [covers, columns, rows]
  by_cases inside : 0 ≤ px - x ∧ px - x < 8 ∧ 0 ≤ py - y ∧ py - y < height
  · have column : (Int32.ofInt px - Int32.ofInt x).toInt = px - x :=
      toInt_sub_ofInt hpx (by omega) (by omega)
    have place : (Int32.ofInt address + (Int32.ofInt py - Int32.ofInt y)).toInt =
        address + (py - y) := by
      rw [Int32.toInt_add, toInt_sub_ofInt hpy (by omega) (by omega),
        toInt_ofInt_word (by omega)]
      exact Int.bmod_eq_of_le (by omega) (by omega)
    rw [column, place, Memory.readSigned_of_nonneg (by omega)]
    simp [inside]
  · rw [decide_eq_false inside, ← Bool.decide_and,
      decide_eq_false (fun h => inside ⟨h.1.1, h.1.2, h.2⟩)]
    simp

end Chip8.Sprite
