import Chip8.Progress.Error

/-!
# Quantities

A bar shows whole numbers and doubles. Whole numbers among themselves are added,
subtracted and multiplied exactly; with a double they become doubles, and a
quotient is a double always. A whole number that rounds to no finite double
cannot become one.
-/

namespace Chip8.Progress

/-- The least whole number that is rounded past the largest double. -/
def doubleLimit : Nat := Nat.pow 2 1024 - Nat.pow 2 970

/-- Whether a whole number has a place among the doubles. -/
def fitsDouble (n : Int) : Bool := n.natAbs < doubleLimit

/-- A double without its places; there is none of an infinite one, nor of none.
-/
def wholePart? (x : Float) : Option Int :=
  match Text.Double.ofBits x.toBits.toNat with
  | .finite negative mantissa exponent =>
    let (num, den) := Text.binaryFraction mantissa exponent
    some (if negative then -(num / den : Nat) else (num / den : Nat))
  | _ => none

/-- Refuses a time or a size without end, or one that is no number; what is left
is a whole number. -/
def checkWhole (x : Float) : Except BarError Int :=
  match wholePart? x with
  | some n => .ok n
  | none => .error (if x.isNaN then .noTime else .endless)

/-- Whether a whole number is at least a double. -/
def reaches (n : Int) (x : Float) : Bool :=
  match Text.Double.ofBits x.toBits.toNat with
  | .nan => false
  | .infinite negative => negative
  | .finite negative mantissa exponent =>
    let (num, den) := Text.binaryFraction mantissa exponent
    (if negative then -(num : Int) else num) ≤ n * den

/-- The quotient of two whole numbers, the second not zero, as the nearest
double: sixty-four bits of it and more, and the last of them for all others. -/
def nearest (a b : Int) : Float :=
  let shift : Int := 66 + Nat.log2 b.natAbs - Nat.log2 a.natAbs
  let num := a.natAbs * Nat.pow 2 shift.toNat
  let den := b.natAbs * Nat.pow 2 (-shift).toNat
  let bits := 2 * (num / den) + (if num % den = 0 then 0 else 1)
  let size := Float.scaleB (Float.ofNat bits) (-shift - 1)
  if (a < 0) = (b < 0) then size else -size

/-- A number that a bar shows. -/
inductive Quantity where
  | whole (n : Int)
  | real (x : Float)

namespace Quantity

def isZero : Quantity → Bool
  | whole n => n = 0
  | real x => x == 0

/-- Whether a number has a place among the doubles. -/
def fits : Quantity → Bool
  | whole n => fitsDouble n
  | real _ => true

/-- A number as a double. -/
def toFloat : Quantity → Except BarError Float
  | whole n => if fitsDouble n then .ok (Float.ofInt n) else .error .number
  | real x => .ok x

/-- An operation on whole numbers among themselves, and on doubles otherwise. -/
def combine (ints : Int → Int → Int) (reals : Float → Float → Float) :
    Quantity → Quantity → Except BarError Quantity
  | whole m, whole n => .ok (whole (ints m n))
  | a, b => do return real (reals (← a.toFloat) (← b.toFloat))

def add : Quantity → Quantity → Except BarError Quantity := combine (· + ·) (· + ·)

def sub : Quantity → Quantity → Except BarError Quantity := combine (· - ·) (· - ·)

def mul : Quantity → Quantity → Except BarError Quantity := combine (· * ·) (· * ·)

/-- A quotient, as the nearest double. -/
def div : Quantity → Quantity → Except BarError Float
  | whole m, whole n =>
    if n = 0 then .error (.zero true)
    else if m.natAbs < doubleLimit * n.natAbs then .ok (nearest m n) else .error .quotient
  | a, b => do
    let x ← a.toFloat
    let y ← b.toFloat
    if y == 0 then .error (.zero false) else return x / y

/-- Whether a number is at least another. -/
def atLeast : Quantity → Quantity → Bool
  | whole m, whole n => n ≤ m
  | whole m, real y => reaches m y
  | real x, whole n => reaches (-n) (-x)
  | real x, real y => y ≤ x

/-- Whether the size of a number is below a limit. -/
def sizeBelow (limit : Float) : Quantity → Bool
  | whole n => !reaches n.natAbs limit
  | real x => x.abs < limit

/-- Whether a length is so short that every part of it, counted in the steps of
some symbols, is far from any limit. -/
def isShort : Quantity → Bool
  | whole n => n.natAbs < 4294967296
  | real x => x.abs < 4294967296

/-- A number as a value. -/
def value : Quantity → Value
  | whole n => .whole n
  | real x => .real x

/-- The number that a value is, if it is one. -/
def ofValue? : Value → Option Quantity
  | .flag b => some (whole (if b then 1 else 0))
  | .whole n => some (whole n)
  | .real x => some (real x)
  | _ => none

/-- A number with so many decimal places, filled up on the left with blanks. -/
def placed (width places : Nat) : Quantity → String
  | whole n =>
    let chars := Text.signed (n < 0) ((Text.placed places n.natAbs 1).chars false)
    String.ofList (chars.leftpad width ' ')
  | real x => Text.fixed width places x

end Quantity

end Chip8.Progress
