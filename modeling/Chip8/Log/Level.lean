import Chip8.Text.Case
import Chip8.Text.Choice

/-!
# Log levels

Five named levels, from `DEBUG` up to `CRITICAL`. Callers may log under any
name at all: names are compared in capital letters, and one that is no level
ranks with `INFO`.
-/

namespace Chip8.Log

/-- The levels, the lowest first. -/
inductive Level where
  | debug | info | warning | error | critical
deriving DecidableEq, Repr

namespace Level

/-- The levels, the lowest first. -/
def all : List Level := [debug, info, warning, error, critical]

/-- How high a level stands. -/
def rank : Level → Nat
  | debug => 0
  | info => 1
  | warning => 2
  | error => 3
  | critical => 4

/-- The name of a level. -/
def name : Level → String
  | debug => "DEBUG"
  | info => "INFO"
  | warning => "WARNING"
  | error => "ERROR"
  | critical => "CRITICAL"

/-- The number of a level's colour on a terminal. -/
def color : Level → String
  | debug => "36"
  | info => "32"
  | warning => "33"
  | error => "31"
  | critical => "35"

/-- The level with the given name, which must be in capital letters. -/
def ofName? (name : String) : Option Level := all.find? (·.name = name)

/-- The rank of a name in capital letters. -/
def rankOf (name : String) : Nat := ((ofName? name).map rank).getD info.rank

theorem ofName?_name (l : Level) : ofName? l.name = some l := by
  cases l <;> decide

theorem ofName?_eq_some_iff {name : String} {l : Level} : ofName? name = some l ↔ name = l.name := by
  constructor
  · intro h
    have hname := List.find?_some h
    exact (of_decide_eq_true hname).symm
  · rintro rfl
    exact ofName?_name l

theorem rankOf_name (l : Level) : rankOf l.name = l.rank := by
  simp [rankOf, ofName?_name]

theorem upper_name (l : Level) : Text.upper l.name = l.name := by
  cases l <;> decide +kernel

end Level

/-- A name was given that is no level. -/
structure UnknownLevel where
  given : String
deriving DecidableEq, Repr

/-- The text of the error. -/
def UnknownLevel.message (e : UnknownLevel) : String :=
  "Unknown log level '" ++ e.given ++ "'. Available: " ++
    Text.choices (Level.all.map Level.name)

end Chip8.Log
