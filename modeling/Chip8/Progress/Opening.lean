import Chip8.Progress.Error
import Chip8.Progress.Meter

/-!
# Opening a bar

A bar has a title, a name for its rounds, and options that a host chooses. An
option that there is not is refused if the bar is in sight.
-/

namespace Chip8.Progress

/-- What the bar is called if the host gives it no name. -/
def title (total : Int) : String := "Executing (" ++ Text.grouped total ++ " instructions)"

/-- What a round is called. -/
def roundUnit : String := "instr"

/-- The options of the bar that a host may not choose: the number of rounds is
known, and when to draw follows from the rate. -/
def reserved : List String := ["total", "mininterval", "maxinterval", "miniters"]

/-- The options that a host may choose. -/
def choosable : List String :=
  ["ascii", "bar_format", "colour", "delay", "disable", "dynamic_ncols", "file", "gui", "initial",
    "iterable", "leave", "lock_args", "ncols", "nrows", "position", "postfix", "smoothing",
    "unit_divisor", "unit_scale", "write_bytes"]

/-- How a bar is opened. Its further options are the host's. -/
structure Opening where
  total : Int
  title : String
  roundUnit : String
  options : List (String × Value)

/-- Opens a bar under the name that the host gives, if any. -/
def opening (total : Int) (name : Option String) (options : List (String × Value)) : Opening where
  total := total
  title := name.getD (title total)
  roundUnit := roundUnit
  options := options.filter fun o => !reserved.contains o.1

namespace Opening

/-- When the bar is shown: it is hidden if the host says so, and if it leaves
that to its terminal and has none. -/
def visibility (o : Opening) : Visibility :=
  match o.options.lookup "disable" with
  | none => .always
  | some .nothing => .onTerminal
  | some hide => if hide.isTrue then .never else .always

/-- The options of a bar that there are not. -/
def unknown (o : Opening) : List (String × Value) :=
  o.options.filter fun option => !choosable.contains option.1

/-- Refuses options that there are not; one of them was there once. -/
def check (o : Opening) : Except BarError Unit :=
  if o.unknown.isEmpty then .ok ()
  else .error (if o.unknown.any (·.1 = "nested") then .nested else .unknown o.unknown)

end Opening

end Chip8.Progress
