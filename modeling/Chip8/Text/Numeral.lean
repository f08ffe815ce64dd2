/-!
# Reading whole numbers

A whole number is read from the digits of any script, each of which has its ten
digits in a row. A sign may stand before the digits, single low lines between
them, and blanks around.
-/

namespace Chip8.Text

/-- The code points of the zeros, as the Unicode standard lists them (version
14). -/
def zeros : List Nat :=
  [0x0030, 0x0660, 0x06F0, 0x07C0, 0x0966, 0x09E6, 0x0A66, 0x0AE6, 0x0B66, 0x0BE6, 0x0C66, 0x0CE6,
    0x0D66, 0x0DE6, 0x0E50, 0x0ED0, 0x0F20, 0x1040, 0x1090, 0x17E0, 0x1810, 0x1946, 0x19D0, 0x1A80,
    0x1A90, 0x1B50, 0x1BB0, 0x1C40, 0x1C50, 0xA620, 0xA8D0, 0xA900, 0xA9D0, 0xA9F0, 0xAA50, 0xABF0,
    0xFF10, 0x104A0, 0x10D30, 0x11066, 0x110F0, 0x11136, 0x111D0, 0x112F0, 0x11450, 0x114D0,
    0x11650, 0x116C0, 0x11730, 0x118E0, 0x11950, 0x11C50, 0x11D50, 0x11DA0, 0x16A60, 0x16AC0,
    0x16B50, 0x1D7CE, 0x1D7D8, 0x1D7E2, 0x1D7EC, 0x1D7F6, 0x1E140, 0x1E2F0, 0x1E950, 0x1FBF0]

/-- The value of a decimal digit. -/
def decimalDigit? (c : Char) : Option Nat :=
  (zeros.find? fun first => first ≤ c.toNat && c.toNat < first + 10).map (c.toNat - ·)

/-- The value of a digit in a base up to 36; the letters follow the nine. -/
def digit? (base : Nat) (c : Char) : Option Nat :=
  let value : Option Nat :=
    if 'a' ≤ c ∧ c ≤ 'z' then some (c.toNat - 'a'.toNat + 10)
    else if 'A' ≤ c ∧ c ≤ 'Z' then some (c.toNat - 'A'.toNat + 10)
    else decimalDigit? c
  value.filter (· < base)

/-- Whether a character separates words. -/
def isBlank (c : Char) : Bool :=
  let n := c.toNat
  (0x09 ≤ n && n ≤ 0x0D) || (0x1C ≤ n && n ≤ 0x20) || n == 0x85 || n == 0xA0 || n == 0x1680 ||
    (0x2000 ≤ n && n ≤ 0x200A) || n == 0x2028 || n == 0x2029 || n == 0x202F || n == 0x205F ||
    n == 0x3000

/-- A text without the characters of a kind at both ends. -/
def trimmed (blank : Char → Bool) (s : List Char) : List Char :=
  ((s.dropWhile blank).reverse.dropWhile blank).reverse

/-- The number that some digits go on to from `n`; a low line stands between
two digits. -/
def digitsFrom? (base : Nat) : Nat → List Char → Option Nat
  | n, [] => some n
  | n, '_' :: c :: rest => (digit? base c).bind fun d => digitsFrom? base (base * n + d) rest
  | n, c :: rest => (digit? base c).bind fun d => digitsFrom? base (base * n + d) rest

/-- The number that some digits are. A low line is not the first of them. -/
def digits? (base : Nat) : List Char → Option Nat
  | [] => none
  | c :: rest => (digit? base c).bind fun d => digitsFrom? base d rest

/-- The blanks around a number: those of ASCII only, if it is written in ASCII.
-/
def aroundNumeral (s : List Char) (c : Char) : Bool :=
  isBlank c && !(s.all (·.toNat < 0x80) && 0x1C ≤ c.toNat && c.toNat ≤ 0x1F)

/-- The whole number that a text is in a base, which the text itself does not
name. -/
def wholeNumber? (base : Nat) (s : List Char) : Option Int :=
  match trimmed (aroundNumeral s) s with
  | '-' :: digits => (digits? base digits).map fun n => -(n : Int)
  | '+' :: digits => (digits? base digits).map Int.ofNat
  | digits => (digits? base digits).map Int.ofNat

example : wholeNumber? 10 " -1_0 ".toList = some (-10) := by decide +kernel
example : wholeNumber? 10 "1__0".toList = none ∧ wholeNumber? 10 "_1".toList = none := by
  decide +kernel
example : wholeNumber? 16 "fF".toList = some 255 ∧ wholeNumber? 16 "zz".toList = none := by
  decide +kernel

end Chip8.Text
