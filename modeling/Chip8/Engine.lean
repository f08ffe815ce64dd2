import Chip8.Execute
import Chip8.Listing

/-!
# The engine

What a host can ask of a machine. All of it is a function from a state to the
next one; a call that meets a fault gives the fault and no state, so the host
still holds the state from before.
-/

namespace Chip8

open Layout

/-- Why a call of the host has no result. -/
inductive CallError where
  /-- The engine met a fault. -/
  | fault (f : Fault)
  /-- The keypad has no such key. -/
  | noSuchKey (key : Int)
  /-- The code of an instruction is no signed word of 32 bits. -/
  | wideCode (code : Code)
deriving DecidableEq, Repr

/-- The text of an error. -/
def CallError.message : CallError → String
  | fault f => f.message
  | noSuchKey key =>
    "Key must be in 0.." ++ Text.decimal (keyCount - 1) ++ ", got " ++ Text.decimal key
  | wideCode code => "Code " ++ Text.decimal code ++ " is not a word of 32 bits"

namespace State

/-- A machine that has loaded a program. -/
def load (program : List UInt8) (rng : Key) : Except Fault State :=
  if programLimit < program.length then .error (.programTooLarge program.length programLimit)
  else .ok (.fresh program rng)

/-- Starts over with the stored program. The random key is kept. -/
def reset (s : State) : Except Fault State :=
  load s.program s.rng

/-- Reads the next word and moves the program counter past it. -/
def fetch (s : State) : Except Fault (State × UInt16) :=
  if lastAddress < s.pc.toNat + 1 then .error (.memoryAccess (s.pc.toNat + 1 : Nat) none)
  else .ok ({ s with pc := s.pc + 2 }, s.memory.word s.pc.toNat)

/-- Fetches one instruction and runs it. -/
def step (s : State) : Except Fault State :=
  match s.fetch with
  | .error f => .error f
  | .ok (fetched, word) => fetched.execute word.toNat

/-- One sixtieth of a second passes: each timer above zero goes down. -/
def tick (s : State) : State :=
  { s with
    delay := if 0 < s.delay then s.delay - 1 else s.delay
    sound := if 0 < s.sound then s.sound - 1 else s.sound }

/-- Puts a key down or up. -/
def setKey (s : State) (key : Int) (down : Bool) : Except CallError State :=
  if h : 0 ≤ key ∧ key < 16 then
    .ok { s with keypad := s.keypad.set ⟨key.toNat, by omega⟩ down }
  else .error (.noSuchKey key)

/-- Runs `n` instructions. -/
def steps : Nat → State → Except Fault State
  | 0, s => .ok s
  | n + 1, s =>
    match s.step with
    | .error f => .error f
    | .ok s' => steps n s'

/-- Runs as many instructions as asked for, none for a number below one. The
timers stand still. -/
def runInstructions (s : State) (n : Int) : Except Fault State :=
  s.steps n.toNat

/-- The number of instructions in a frame, unless the host asks for another. -/
def frameLength : Int := 10

/-- Runs one frame: some instructions, then a tick. -/
def runFrame (s : State) (n : Int) : Except Fault State :=
  match s.runInstructions n with
  | .error f => .error f
  | .ok s' => .ok s'.tick

/-- The trace as listing lines, the oldest first. -/
def traceLines (s : State) : List String :=
  s.trace.records.map fun r => Listing.line r.address.toNat r.word.toNat

end State

end Chip8
