import Chip8.Text.Unprintable

/-!
# Quoted text

A text in a message stands in quotes: single ones, unless it holds such and no
double ones. The quote and the backslash are written behind a backslash, and
whatever cannot be shown is written by its code point.
-/

namespace Chip8.Text

/-- Whether a character is shown as it is. -/
def printable (c : Char) : Bool :=
  !unprintableRuns.any fun run => run.1 ≤ c.toNat && c.toNat ≤ run.2

/-- A number in small hexadecimal digits, filled up with zeros to a width. -/
def smallHex (width n : Nat) : List Char := (Nat.toDigits 16 n).leftpad width '0'

/-- A character by its code point, in two, four or eight digits. -/
def coded (c : Char) : List Char :=
  if c.toNat < 0x100 then '\\' :: 'x' :: smallHex 2 c.toNat
  else if c.toNat < 0x10000 then '\\' :: 'u' :: smallHex 4 c.toNat
  else '\\' :: 'U' :: smallHex 8 c.toNat

/-- A character between quotes, if those that are `shown` are shown. -/
def escaped (shown : Char → Bool) (quote c : Char) : List Char :=
  if c = quote ∨ c = '\\' then ['\\', c]
  else if c = '\n' then ['\\', 'n']
  else if c = '\r' then ['\\', 'r']
  else if c = '\t' then ['\\', 't']
  else if shown c then [c]
  else coded c

/-- The quote around a text. -/
def quoteFor (s : List Char) : Char :=
  if s.contains '\'' && !s.contains '"' then '"' else '\''

/-- A text in quotes, if the characters that are `shown` are shown. -/
def quotedBy (shown : Char → Bool) (s : String) : String :=
  let quote := quoteFor s.toList
  String.ofList (quote :: s.toList.flatMap (escaped shown quote) ++ [quote])

/-- A text in quotes. -/
def quoted (s : String) : String := quotedBy printable s

/-- A text in quotes that shows only characters of ASCII. -/
def quotedAscii (s : String) : String :=
  quotedBy (fun c => printable c && c.toNat < 0x80) s

example : quoted "it's" = "\"it's\"" := by decide +kernel
example : quoted "'\"\\\n\x00é\u200b" = "'\\'\"\\\\\\n\\x00é\\u200b'" := by decide +kernel
example : quotedAscii "é" = "'\\xe9'" := by decide +kernel

end Chip8.Text
