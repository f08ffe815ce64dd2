import Chip8.Log.Clock
import Chip8.Log.Level
import Chip8.Text.Fixed

/-!
# The console logger

A logger prints the messages whose level is not below its own. A line shows
the seconds since the logger was opened, the level as the caller wrote it, the
name of the logger and the message; seconds and colours can be left out.

The level that a logger is opened with is not checked, so it may be a name
that is no level. A later change of level is checked.
-/

namespace Chip8.Log

open Text

/-- How a logger is opened. -/
structure Settings where
  /-- What the host calls itself. -/
  name : String
  level : String := "INFO"
  /-- Whether levels are coloured on a terminal. -/
  colors : Bool := true
  /-- Whether lines show seconds. -/
  timestamps : Bool := true
deriving DecidableEq, Repr

/-- An open logger. -/
structure Logger where
  name : String
  /-- The name of the level, in capital letters. -/
  level : String
  colors : Bool
  timestamps : Bool
  /-- When the logger was opened. -/
  start : Float
  clock : Clock

namespace Logger

/-- Opens a logger, which takes the first reading of the clock. Colours need a
terminal. -/
def ofSettings (settings : Settings) (terminal : Bool) (clock : Clock) : Logger where
  name := settings.name
  level := upper settings.level
  colors := settings.colors && terminal
  timestamps := settings.timestamps
  start := clock.read.1
  clock := clock.read.2

/-- Whether messages of a level are printed. -/
def shows (l : Logger) (level : String) : Bool :=
  Level.rankOf l.level ≤ Level.rankOf (upper level)

/-- The character sequence that makes a terminal change its colour. -/
def escape (code : String) : String := "\x1b[" ++ code ++ "m"

/-- What turns the colour of a level on. `RESET` is not a level, but has a
colour: none. -/
def colorOn (level : String) : String :=
  if upper level = "RESET" then escape "0"
  else ((Level.ofName? (upper level)).map fun l => escape l.color).getD ""

/-- The seconds, in square brackets. -/
def stamp (seconds : Float) : String := "[" ++ fixed 8 2 seconds ++ "s]"

/-- The level, in square brackets. -/
def badge (l : Logger) (level : String) : String :=
  let text := "[" ++ String.ofList (level.toList.leftpad 8 ' ') ++ "]"
  if l.colors then colorOn level ++ text ++ escape "0" else text

/-- The line of a message that is logged at the given moment. -/
def line (l : Logger) (now : Float) (level message : String) : String :=
  (if l.timestamps then stamp (now - l.start) else "") ++
    l.badge level ++ "[" ++ l.name ++ "] " ++ message

/-- Logs a message: the line printed, if any. A line that shows seconds takes
a reading of the clock; nothing else does. -/
def log (l : Logger) (level message : String) : Option String × Logger :=
  if l.shows level then
    if l.timestamps then
      (some (l.line l.clock.read.1 level message), { l with clock := l.clock.read.2 })
    else (some (l.line l.start level message), l)
  else (none, l)

/-- Changes the level. -/
def setLevel (l : Logger) (level : String) : Except UnknownLevel Logger :=
  match Level.ofName? (upper level) with
  | some _ => .ok { l with level := upper level }
  | none => .error ⟨level⟩

end Logger

/-- What a caller can ask of a logger. -/
inductive Request where
  | log (level message : String)
  | setLevel (level : String)
deriving DecidableEq, Repr

/-- Logs a message at one of the five levels. -/
def Request.say (level : Level) (message : String) : Request := .log level.name message

namespace Logger

/-- Serves a request: the line printed, if any, or an error, and the logger
afterwards. -/
def serve (l : Logger) : Request → Except UnknownLevel (Option String) × Logger
  | .log level message => let (printed, l) := l.log level message; (.ok printed, l)
  | .setLevel level =>
    match l.setLevel level with
    | .ok l => (.ok none, l)
    | .error e => (.error e, l)

/-- Serves requests in their order. -/
def serveAll : Logger → List Request → List (Except UnknownLevel (Option String)) × Logger
  | l, [] => ([], l)
  | l, r :: rs =>
    let (reply, l) := l.serve r
    let (replies, l) := l.serveAll rs
    (reply :: replies, l)

theorem serveAll_cons (l : Logger) (r : Request) (rs : List Request) :
    l.serveAll (r :: rs) =
      ((l.serve r).1 :: ((l.serve r).2.serveAll rs).1, ((l.serve r).2.serveAll rs).2) := rfl

end Logger

end Chip8.Log
