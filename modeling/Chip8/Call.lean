import Chip8.Engine

/-!
# Calls of a host

Whatever a host asks of a machine that is loaded is a `Call`. A call that has
no result leaves the machine as it was, so a run over a list of calls always
has a state at its end.
-/

namespace Chip8

/-- A call on a machine. -/
inductive Call where
  | step
  | tick
  | reset
  | fetch
  | execute (code : Code)
  | setKey (key : Int) (down : Bool)
  | run (n : Int)
  | frame (n : Int)
deriving DecidableEq, Repr

/-- Names a fault as the reason of a failed call. -/
def liftFault {α : Type} (r : Except Fault α) : Except CallError α :=
  r.mapError .fault

namespace Call

/-- What a code leads to that the host hands in: the state, if the code is a signed
word of 32 bits. A wider code is refused last, so that a fault that it meets comes
before. -/
def given (code : Code) (s : State) : Except CallError State :=
  if code.isSigned32 then .ok s else .error (.wideCode code)

/-- The result of a call. -/
def perform (s : State) : Call → Except CallError State
  | step => liftFault s.step
  | tick => .ok s.tick
  | reset => liftFault s.reset
  | fetch => (liftFault s.fetch).map (·.1)
  | execute code => (liftFault (s.execute code)).bind (given code)
  | setKey key down => s.setKey key down
  | run n => liftFault (s.runInstructions n)
  | frame n => liftFault (s.runFrame n)

/-- The state after a call: its result, or the state before it if it has
none. -/
def next (s : State) (c : Call) : State :=
  match c.perform s with
  | .ok s' => s'
  | .error _ => s

end Call

/-- The state after a run of calls. -/
def State.after (s : State) (calls : List Call) : State := calls.foldl Call.next s

end Chip8
