import Chip8.Text.Decimal

/-!
# Double-precision numbers

The 64 bits of a number say what it is: not a number, infinite, or an exact
fraction, sign · mantissa · 2^exponent.
-/

namespace Chip8.Text

/-- What the bits of a number say. -/
inductive Double where
  | nan
  | infinite (negative : Bool)
  | finite (negative : Bool) (mantissa : Nat) (exponent : Int)
deriving DecidableEq, Repr

namespace Double

/-- The number with the given 64 bits: one for the sign, eleven for the
exponent, the others for the mantissa. -/
def ofBits (bits : Nat) : Double :=
  let negative := bits / 0x8000000000000000 % 2 = 1
  let exponent : Nat := bits / 0x10000000000000 % 0x800
  let fraction := bits % 0x10000000000000
  if exponent = 2047 then
    if fraction = 0 then infinite negative else nan
  else if exponent = 0 then finite negative fraction (-1074)
  else finite negative (fraction + 0x10000000000000) ((exponent : Int) - 1075)

/-- A number by its sign and its size: a finite one by a rule, any other by its
name. -/
def written (finite : Nat → Int → List Char) : Double → List Char
  | nan => "nan".toList
  | infinite negative => signed negative "inf".toList
  | .finite negative mantissa exponent => signed negative (finite mantissa exponent)

example : ofBits 0xC022000000000000 = .finite true (9 * 2 ^ 49) (-49) := by decide +kernel
example : (ofBits 0xFFF0000000000000).written (fun _ _ => []) = "-inf".toList := by decide +kernel

end Double

end Chip8.Text
