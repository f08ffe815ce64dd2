import Chip8.Console

/-!
# Sessions

A session is a machine in the hands of a host that steps it in place, with a
count of the instructions run since the program was loaded or reset. A frame
that meets a fault keeps what was run before it: this is where a session
differs from `State.runFrame`, which then has no result at all.
-/

namespace Chip8

/-- A machine and the number of instructions that it has run. -/
structure Session where
  state : State
  count : Nat
deriving DecidableEq

/-- The session after a call, what was reported, and the error if the call
failed. -/
structure Turn where
  session : Session
  entries : List Entry
  error : Option CallError

/-- The turn of a call: on success the session that is made from the new
state, on failure the session from before. -/
def Logged.turn (l : Logged State) (before : Session) (next : State → Session) : Turn :=
  match l.outcome with
  | .ok s => ⟨next s, l.entries, none⟩
  | .error e => ⟨before, l.entries, some e⟩

/-- Goes on from the session of a turn, unless it failed. -/
def Turn.andThen (t : Turn) (next : Session → Turn) : Turn :=
  match t.error with
  | some _ => t
  | none => { next t.session with entries := t.entries ++ (next t.session).entries }

namespace Session

/-- A session on a program that is loaded now. -/
def start (program : List UInt8) (rng : Key) : Logged Session :=
  (Console.load program rng).bind fun s => .silent (.ok ⟨s, 0⟩)

/-- Runs one instruction. -/
def step (m : Session) : Turn :=
  (Console.step m.state).turn m fun s => ⟨s, m.count + 1⟩

/-- A sixtieth of a second passes. -/
def tick (m : Session) : Turn := ⟨{ m with state := m.state.tick }, [], none⟩

/-- Puts a key down or up. -/
def setKey (m : Session) (key : Int) (down : Bool) : Turn :=
  (Logged.silent (m.state.setKey key down)).turn m fun s => { m with state := s }

/-- Starts over with the stored program and counts from zero. -/
def reset (m : Session) : Turn :=
  (Console.reset m.state).turn m fun s => ⟨s, 0⟩

/-- Runs `n` instructions, as far as it gets. -/
def steps : Nat → Session → Turn
  | 0, m => ⟨m, [], none⟩
  | n + 1, m => m.step.andThen (steps n)

/-- Runs a frame: some instructions, none for a number below one, and a tick
if all of them ran. -/
def runFrame (m : Session) (n : Int) : Turn :=
  (m.steps n.toNat).andThen tick

end Session

end Chip8
