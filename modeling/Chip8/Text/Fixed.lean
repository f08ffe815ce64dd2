import Chip8.Text.Double

/-!
# Numbers with decimal places

A double-precision number is an exact fraction, sign · mantissa · 2^exponent.
`fixed` rounds that fraction to some number of decimal places, a tie to the even
neighbour.
-/

namespace Chip8.Text

/-- The quotient rounded to the nearest integer, a tie to the even one, for a
positive `den`. -/
def roundDiv (num den : Nat) : Nat :=
  let q := num / den
  let r := num % den
  if 2 * r < den ∨ (2 * r = den ∧ q % 2 = 0) then q else q + 1

/-- A written number, without its sign: the digits before the point, those
after it, and what follows them. -/
structure Written where
  whole : List Char
  places : List Char
  tail : List Char
deriving DecidableEq, Repr

/-- A written number as it stands, with a point if there is something after it
or if it is asked for. -/
def Written.chars (w : Written) (point : Bool) : List Char :=
  w.whole ++ (if w.places.isEmpty && !point then [] else '.' :: w.places) ++ w.tail

/-- A fraction with so many decimal places. -/
def placed (places num den : Nat) : Written :=
  let units := roundDiv (num * Nat.pow 10 places) den
  ⟨Nat.toDigits 10 (units / Nat.pow 10 places),
    if places = 0 then [] else (Nat.toDigits 10 (units % Nat.pow 10 places)).leftpad places '0', []⟩

/-- The numerator and the denominator of `mantissa · 2^exponent`. -/
def binaryFraction (mantissa : Nat) (exponent : Int) : Nat × Nat :=
  (mantissa * Nat.pow 2 exponent.toNat, Nat.pow 2 (-exponent).toNat)

/-- The number with the given 64 bits with so many decimal places. The sign is
written for a negative zero too. -/
def fixedOfBits (places bits : Nat) : List Char :=
  (Double.ofBits bits).written fun mantissa exponent =>
    let (num, den) := binaryFraction mantissa exponent
    (placed places num den).chars false

/-- A number with so many decimal places, filled up on the left with blanks to at
least `width` characters. -/
def fixed (width places : Nat) (x : Float) : String :=
  String.ofList ((fixedOfBits places x.toBits.toNat).leftpad width ' ')

example : ((placed 2 1 8).chars false, (placed 2 3 8).chars false) =
    ("0.12".toList, "0.38".toList) := by decide +kernel
example : fixedOfBits 2 0xBFE0000000000000 = "-0.50".toList := by decide +kernel
example : fixedOfBits 0 0x4004000000000000 = "2".toList := by decide +kernel

end Chip8.Text
