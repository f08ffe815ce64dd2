/-!
# Decimal text

Integers in decimal, plain (`decimal`) and with a comma before every third
digit counted from the right (`grouped`).
-/

namespace Chip8.Text

/-- Writes the digits of `n` behind a minus sign if `negative` holds. -/
def signed (negative : Bool) (digits : List Char) : List Char :=
  if negative then '-' :: digits else digits

/-- The integer `v` in decimal. -/
def decimalChars (v : Int) : List Char :=
  signed (v < 0) (Nat.toDigits 10 v.natAbs)

/-- `decimalChars` as a string. -/
def decimal (v : Int) : String :=
  String.ofList (decimalChars v)

/-- Digits, the least significant first, with a comma after every third one
that has another digit behind it. -/
def commas : List Char → List Char
  | a :: b :: c :: d :: rest => a :: b :: c :: ',' :: commas (d :: rest)
  | digits => digits

/-- The integer `v` in decimal with its thousands grouped: `-1,234,567`. -/
def grouped (v : Int) : String :=
  String.ofList (signed (v < 0) (commas (Nat.toDigits 10 v.natAbs).reverse).reverse)

example : grouped (-1234567) = "-1,234,567" := by decide +kernel
example : (grouped 0, grouped 999, grouped 1000) = ("0", "999", "1,000") := by decide +kernel

end Chip8.Text
