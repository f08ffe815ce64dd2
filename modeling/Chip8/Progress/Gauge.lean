import Chip8.Progress.Pattern

/-!
# The gauge of a bar

The gauge is the part of a bar that grows: full symbols, one symbol for the
part of a place that is done, and empty symbols up to its length. Its own
specifier in a pattern is a length, a letter that chooses the symbols, or both.
-/

namespace Chip8.Progress

/-- The symbols of ASCII, from empty to full. -/
def digitSymbols : List Char := " 123456789#".toList

/-- Blocks that grow from the left, by eighths. -/
def blockSymbols : List Char :=
  [' ', '\u258F', '\u258E', '\u258D', '\u258C', '\u258B', '\u258A', '\u2589', '\u2588']

/-- Nothing to be seen. -/
def blankSymbols : List Char := [' ', ' ']

/-- The names of the colours. -/
def colours : List String :=
  ["BLACK", "RED", "GREEN", "YELLOW", "BLUE", "MAGENTA", "CYAN", "WHITE"]

/-- What stands before a gauge of a colour: one of the names, in capital letters
or not, or three numbers of two hexadecimal digits each. Any other colour is
none. -/
def colourCode? (colour : Value) : Except BarError (Option String) :=
  match colour with
  | .text s =>
    match colours.findIdx? (· = Text.upper s), s.toList with
    | some i, _ => .ok (some ("\x1b[" ++ Text.decimal (30 + i) ++ "m"))
    | none, ['#', a, b, c, d, e, f] => do
      let number (x y : Char) : Except BarError String :=
        match Text.wholeNumber? 16 [x, y] with
        | some n => .ok (Text.decimal n)
        | none => .error (.numeral 16 (String.ofList [x, y]))
      return some ("\x1b[38;2;" ++ (← number a b) ++ ";" ++ (← number c d) ++ ";" ++
        (← number e f) ++ "m")
    | none, _ => .ok none
  | _ => .ok none

/-- A gauge: the share of it that is full, from zero to one, how long it is, its
symbols, if they are such, and its colour. -/
structure Gauge where
  share : Quantity
  length : Quantity
  symbols : Except BarError (List Char)
  colour : Option String

/-- A gauge as it is drawn: full symbols, the symbol after them, and the length
up to which empty ones follow. -/
structure Drawn where
  symbols : List Char
  full : Int
  next : Nat
  length : Quantity
  colour : Option String

/-- Refuses a length that is no word of 64 bits, or longer than any memory. -/
def checkLength (n : Int) : Except BarError Unit :=
  if n < -0x8000000000000000 ∨ 0x8000000000000000 ≤ n then .error .length
  else if Spec.tooLong < n then .error .memory
  else .ok ()

namespace Gauge

/-- The symbols and the length that a specifier asks for. A length below zero
is counted from the gauge's own. -/
def shape (g : Gauge) (spec : List Char) : Except BarError (List Char × Quantity) := do
  let (symbols, spec) : Except BarError (List Char) × List Char :=
    match spec.getLast?.map Char.toLower with
    | some 'a' => (.ok digitSymbols, spec.dropLast)
    | some 'u' => (.ok blockSymbols, spec.dropLast)
    | some 'b' => (.ok blankSymbols, spec.dropLast)
    | _ => (g.symbols, spec)
  if spec.isEmpty then return (← symbols, g.length)
  match Text.wholeNumber? 10 spec with
  | none => throw (.numeral 10 (String.ofList spec))
  | some n =>
    let length ← if n < 0 then (Quantity.whole n).add g.length else pure (.whole n)
    return (← symbols, length)

/-- How many steps of a gauge of some length are full, if each place has so many
of them. -/
def steps (g : Gauge) (length : Quantity) (size : Nat) : Except BarError Int := do
  match ← (← g.share.mul length).mul (.whole size) with
  | .whole n => return n
  | .real x => checkWhole x

/-- A gauge as its specifier asks. No part of a short gauge is long. -/
def draw (g : Gauge) (spec : List Char) : Except BarError Drawn := do
  let (symbols, length) ← g.shape spec
  let size := symbols.length - 1
  let short := length.isShort
  let steps ←
    match g.steps length size with
    | .ok n => pure n
    | .error e => if short then pure 0 else throw e
  if size = 0 then throw .symbols
  let full := Int.fdiv steps size
  unless short do checkLength full
  match length with
  | .whole n => if !short && full < n then checkLength (n - full - 1)
  | .real x => if !reaches full x then throw .fraction
  return ⟨symbols, full, (Int.fmod steps size).toNat, length, g.colour⟩

end Gauge

/-- The text of a gauge. -/
def Drawn.text (d : Drawn) : String :=
  let empty := d.symbols.headD ' '
  let filled := "".pushn (d.symbols.getLastD ' ') d.full.toNat
  let bar :=
    match d.length with
    | .whole n =>
      if d.full < n then
        (filled.push (d.symbols.getD d.next empty)).pushn empty (n - d.full - 1).toNat
      else filled
    | .real _ => filled
  match d.colour with
  | some colour => colour ++ bar ++ "\x1b[0m"
  | none => bar

end Chip8.Progress
