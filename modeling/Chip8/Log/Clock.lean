/-!
# Clock readings

A clock is the list of the readings that it will give, in seconds. The last
one is repeated for ever.
-/

namespace Chip8.Log

/-- The reading to come and those behind it. -/
structure Clock where
  now : Float
  later : List Float

/-- Takes a reading. -/
def Clock.read (c : Clock) : Float × Clock :=
  match c.later with
  | [] => (c.now, c)
  | t :: ts => (c.now, ⟨t, ts⟩)

/-- A clock that stands still at zero. -/
def Clock.stopped : Clock := ⟨0, []⟩

end Chip8.Log
