import Chip8.Progress.Gauge
import Chip8.Progress.Notes

/-!
# How a bar is drawn

The options of a host say when its bar is drawn, where, and in which form. They
are kept as the host gives them: what is wrong with one shows where it is used.
-/

namespace Chip8.Progress

/-- How a host has its bar drawn. -/
structure Style where
  /-- The seconds before it is drawn. -/
  delay : Value := .whole 0
  /-- Whether it gives way when it is opened. -/
  yields : Bool := false
  /-- Whether the host draws it itself. -/
  elsewhere : Bool := false
  /-- Whether it is written as bytes. -/
  bytes : Bool := false
  /-- Whether it stays when it is closed; if the host has no wish, it does on the
  first line. -/
  stays : Value := .flag true
  /-- The line it is drawn on, counted from zero to either side. -/
  line : Value := .whole 0
  /-- The number of lines that have room for bars, the last of them taken. -/
  rows : Value := .nothing
  /-- The number of characters that a line has room for. -/
  columns : Value := .nothing
  /-- How much the last rounds count for its pace. -/
  smoothing : Value := .whole 0
  /-- What is written beside it. -/
  notes : Value := .nothing
  /-- The pattern it follows, if it counts as true. -/
  pattern : Value := .nothing
  /-- The symbols of its gauge. -/
  symbols : Value := .nothing
  /-- The colour of its gauge. -/
  colour : Value := .nothing
  /-- Whether numbers are short, or what they are multiplied by. -/
  scale : Value := .nothing
  /-- What a short number is divided by to get to the next unit. -/
  divisor : Value := .whole 1000

namespace Style

/-- The style that options ask for; an option that is nothing is not chosen,
where it need not be a number. -/
def ofOptions (options : List (String × Value)) : Style :=
  let base : Style := {}
  let given (key : String) (value : Value) : Value := (options.lookup key).getD value
  let holds (key : String) : Bool := (given key .nothing).isTrue
  let chosen (key : String) (value : Value) : Value := (Value.member? options key).getD value
  let fixed (value : Value) : Value := if holds "dynamic_ncols" then .nothing else value
  { delay := given "delay" base.delay
    yields := holds "lock_args"
    elsewhere := holds "gui"
    bytes := holds "write_bytes"
    stays := given "leave" base.stays
    line := chosen "position" base.line
    rows := fixed (given "nrows" base.rows)
    columns := fixed (given "ncols" base.columns)
    smoothing := chosen "smoothing" base.smoothing
    notes := given "postfix" base.notes
    pattern := given "bar_format" base.pattern
    symbols := given "ascii" base.symbols
    colour := given "colour" base.colour
    scale := given "unit_scale" base.scale
    divisor := given "unit_divisor" base.divisor }

/-- The symbols of a gauge. -/
def gaugeSymbols (s : Style) : Except BarError (List Char) :=
  match s.symbols with
  | .flag true => .ok digitSymbols
  | .text chars => .ok (if chars.isEmpty then blockSymbols else chars.toList)
  | v =>
    if !v.isTrue then .ok blockSymbols
    else
      match parts? v with
      | some parts => .ok (parts.map fun _ => ' ')
      | none => .error (.size v.kind)

/-- Whether the symbols are known to be narrow. -/
def isNarrow (s : Style) : Bool :=
  match s.symbols with
  | .flag b => b
  | .text chars => chars.toList.all (·.toNat < 0x100)
  | _ => false

/-- The pattern of a bar with a title or without, if it has one. Next to narrow
symbols a pattern has to be a text. The title is left out with what separates it
from the rest. -/
def patternText (s : Style) (titled : Bool) : Except BarError (Option String) :=
  if !s.pattern.isTrue then .ok none
  else
    match s.pattern with
    | .text pattern =>
      .ok (some (if titled then pattern else pattern.replace "\x7bdesc\x7d: " ""))
    | v =>
      if s.isNarrow then .error (.pattern (.part v.kind (if titled then "format" else "replace")))
      else .ok (some v.plain)

/-- The line of a bar. -/
def lineNumber (s : Style) : Except BarError Quantity :=
  match Quantity.ofValue? s.line with
  | some (.whole n) => .ok (.whole n.natAbs)
  | some (.real x) => .ok (.real x.abs)
  | none => .error (.opposite s.line.kind)

/-- What becomes of a bar on a line. -/
inductive Place where
  /-- There is room for it. -/
  | free
  /-- The line only says that there are more bars. -/
  | last
  | none
deriving DecidableEq, Repr

/-- What becomes of a bar on a line, of which there are twenty without a wish
of the host. -/
def place (s : Style) (line : Quantity) : Except BarError Place :=
  let rows := if s.rows.isTrue then s.rows else .whole 20
  match Quantity.ofValue? rows with
  | none => .error (.operands "-" rows.kind "int")
  | some rows => do
    if !line.atLeast (← rows.sub (.whole 1)) then return .free
    else if !line.atLeast rows then return .last
    else return .none

/-- Goes to a line and back. -/
def goTo (s : Style) (line : Quantity) : Except BarError Unit :=
  if line.isZero then .ok ()
  else
    match line with
    | .whole n => do
      checkLength n
      if s.bytes then throw .bytes
    | .real _ => .error .fraction

/-- Whether a bar is drawn before any time has passed. -/
def isPrompt (s : Style) : Except BarError Bool :=
  match Quantity.ofValue? s.delay with
  | some delay => .ok ((Quantity.whole 0).atLeast delay)
  | none => .error (.order s.delay.kind)

/-- The seconds on a clock, whose doubles do not tell a ten-millionth of them.
-/
def now : Float := 1750000000

/-- Whether the delay is over as soon as it has begun. -/
def isOver (s : Style) : Except BarError Bool :=
  match Quantity.ofValue? s.delay with
  | some delay => do return !(now < now + (← delay.toFloat))
  | none => .error (.operands "+" "float" s.delay.kind)

/-- Whether a bar stays when it is closed on a line. -/
def remains (s : Style) (line : Quantity) : Bool :=
  match s.stays with
  | .nothing => line.isZero
  | v => v.isTrue

end Style

end Chip8.Progress
