/-!
# Capital hexadecimal text

Addresses, instruction codes and byte operands are all shown by one rule:
capital digits, filled up with zeros to a least width. Codes given by a host
may be negative, so the rule covers every integer: the sign stands in front of
the zeros and counts towards the width.
-/

namespace Chip8.Text

/-- The capital hexadecimal digits of `n`, the most significant first; zero
has the one digit `0`. -/
def hexDigits (n : Nat) : List Char :=
  (Nat.toDigits 16 n).map Char.toUpper

/-- The integer `v` in capital hexadecimal, at least `width` characters wide.
-/
def hexChars (width : Nat) (v : Int) : List Char :=
  if v < 0 then '-' :: (hexDigits v.natAbs).leftpad (width - 1) '0'
  else (hexDigits v.natAbs).leftpad width '0'

/-- `hexChars` as a string. -/
def hex (width : Nat) (v : Int) : String :=
  String.ofList (hexChars width v)

/-- Text in hexadecimal is never shorter than the width asked for. -/
theorem le_length_hexChars (width : Nat) (v : Int) : width ≤ (hexChars width v).length := by
  unfold hexChars
  split <;> simp [List.leftpad] <;> omega

example : hex 4 0xA2F = "0A2F" := by decide
example : (hex 4 (-1), hex 3 (-1), hex 2 (-1)) = ("-001", "-01", "-1") := by decide
example : hex 3 0x10000 = "10000" := by decide

end Chip8.Text
