/-!
# Random keys

Random bytes come from a counter-based generator: a key of two words is never
consumed in place but split into two new keys, of which one carries on and the
other is spent. The mixing function is the block cipher Threefry on two words
of 32 bits with 20 rounds.
-/

namespace Chip8

/-- A random key. -/
structure Key where
  high : UInt32
  low : UInt32
deriving DecidableEq, Repr, Inhabited

namespace Key

/-- A block of the cipher: two words. -/
abbrev Block := UInt32 × UInt32

/-- The bits of `w` moved up by `r` places, those pushed out coming in again
at the bottom, for `0 < r < 32`. -/
def rotate (w r : UInt32) : UInt32 := (w <<< r) ||| (w >>> (32 - r))

/-- One round. -/
def mix (p : Block) (r : UInt32) : Block :=
  let a := p.1 + p.2
  (a, rotate p.2 r ^^^ a)

/-- The key schedule: the two words of the key and their parity, again and
again. -/
def schedule (k : Key) (i : Nat) : UInt32 :=
  match i % 3 with
  | 0 => k.high
  | 1 => k.low
  | _ => k.high ^^^ k.low ^^^ 0x1BD11BDA

/-- The rotations of the four rounds in group `g`. -/
def rotations (g : Nat) : List UInt32 :=
  if g % 2 = 0 then [13, 15, 26, 6] else [17, 29, 16, 24]

/-- Four rounds and the injection of the key behind them. -/
def group (k : Key) (p : Block) (g : Nat) : Block :=
  let p := (rotations g).foldl mix p
  (p.1 + k.schedule (g + 1), p.2 + k.schedule (g + 2) + UInt32.ofNat (g + 1))

/-- The cipher: five groups of four rounds. -/
def encrypt (k : Key) (p : Block) : Block :=
  (List.range 5).foldl k.group (p.1 + k.schedule 0, p.2 + k.schedule 1)

/-- The encrypted counter, as a key. -/
@[irreducible] def derive (k : Key) (counter : UInt32) : Key :=
  let b := k.encrypt (0, counter)
  ⟨b.1, b.2⟩

/-- The half of a split that carries on. -/
def next (k : Key) : Key := k.derive 0

/-- The half of a split that is spent. -/
def spent (k : Key) : Key := k.derive 1

/-- 32 random bits from a key that is spent on them. -/
@[irreducible] def bits (k : Key) : UInt32 :=
  let b := k.encrypt (0, 0)
  b.1 ^^^ b.2

/-- The next random byte of the stream that `k` carries. -/
def byte (k : Key) : UInt8 := k.spent.bits.toUInt8

/-- The key of a seed, of which the low 32 bits count. Seeds are signed
numbers of 64 bits; there is no key for a wider one. -/
def ofSeed? (seed : Int) : Option Key :=
  if -0x8000000000000000 ≤ seed ∧ seed < 0x8000000000000000 then
    some ⟨0, UInt32.ofNat (seed % 0x100000000).toNat⟩
  else none

example : (Key.mk 0 0).next = ⟨1797259609, 2579123966⟩ := by decide +kernel

end Key

/-- A source of keys for machines that are not given one. It is seeded from
outside when the first key is asked for, and never again. -/
structure KeySource where
  current : Option Key
  /-- How often outside entropy was read. -/
  reads : Nat
deriving DecidableEq, Repr

namespace KeySource

/-- A source that was not asked yet. -/
def fresh : KeySource := ⟨none, 0⟩

/-- Hands out a key. `entropy` is what a reading of outside entropy would
give, of which the low 32 bits count. -/
def draw (source : KeySource) (entropy : Int) : Key × KeySource :=
  match source.current with
  | some k => (k.spent, { source with current := some k.next })
  | none =>
    let k : Key := ⟨0, UInt32.ofInt entropy⟩
    (k.spent, ⟨some k.next, source.reads + 1⟩)

/-- Hands out `count` keys, one after the other. -/
def drawMany (source : KeySource) (entropy : Int) : Nat → List Key × KeySource
  | 0 => ([], source)
  | count + 1 =>
    let (k, source) := source.draw entropy
    let (ks, source) := source.drawMany entropy count
    (k :: ks, source)

end KeySource

end Chip8
