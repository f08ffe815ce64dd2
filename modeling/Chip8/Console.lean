import Chip8.Call
import Chip8.Log.Logger

/-!
# What the engine reports

The calls of a host once more, each with the messages that it sends to the
console: loading and resetting report at `DEBUG`, and a fault is reported at
`ERROR` at the place where it arises. `Console` follows the engine function by
function; the outcome of each call is that of the engine (`outcome_report`),
so only the reports are new.
-/

namespace Chip8

/-- A message for the console. -/
structure Entry where
  level : Log.Level
  message : String
deriving DecidableEq, Repr

/-- The outcome of a call and what was reported on the way, in its order. -/
structure Logged (α : Type) where
  entries : List Entry
  outcome : Except CallError α

namespace Logged

/-- An outcome without a report. -/
def silent {α : Type} (outcome : Except CallError α) : Logged α := ⟨[], outcome⟩

/-- An outcome of the engine; a fault is reported. -/
def ofEngine {α : Type} : Except Fault α → Logged α
  | .ok a => ⟨[], .ok a⟩
  | .error f => ⟨[⟨.error, f.message⟩], .error (.fault f)⟩

/-- Reports a message first. -/
def after {α : Type} (entry : Entry) (l : Logged α) : Logged α :=
  ⟨entry :: l.entries, l.outcome⟩

/-- Goes on with a result; an error ends the call. -/
def bind {α β : Type} (l : Logged α) (next : α → Logged β) : Logged β :=
  match l.outcome with
  | .ok a => ⟨l.entries ++ (next a).entries, (next a).outcome⟩
  | .error e => ⟨l.entries, .error e⟩

theorem outcome_ofEngine {α : Type} (r : Except Fault α) : (ofEngine r).outcome = liftFault r := by
  cases r <;> rfl

theorem outcome_bind {α β : Type} (l : Logged α) (next : α → Logged β) :
    (l.bind next).outcome = l.outcome.bind fun a => (next a).outcome := by
  obtain ⟨entries, _ | a⟩ := l <;> rfl

end Logged

namespace Console

/-- Loads a program. -/
def load (program : List UInt8) (rng : Key) : Logged State :=
  (Logged.ofEngine (State.load program rng)).bind fun s =>
    ⟨[⟨.debug, "Loaded " ++ Text.decimal program.length ++ " byte program at 0x" ++
      Text.hex 3 Layout.programStart⟩], .ok s⟩

/-- Starts over with the stored program. -/
def reset (s : State) : Logged State :=
  (load s.program s.rng).after ⟨.debug, "Reset"⟩

/-- Fetches one instruction and runs it. -/
def step (s : State) : Logged State :=
  (Logged.ofEngine s.fetch).bind fun (fetched, word) =>
    Logged.ofEngine (fetched.execute word.toNat)

/-- Runs `n` instructions. -/
def steps : Nat → State → Logged State
  | 0, s => .silent (.ok s)
  | n + 1, s => (step s).bind (steps n)

/-- Runs one frame. -/
def runFrame (s : State) (n : Int) : Logged State :=
  (steps n.toNat s).bind fun s' => .silent (.ok s'.tick)

/-- Makes a call. -/
def report (s : State) : Call → Logged State
  | .step => step s
  | .tick => .silent (.ok s.tick)
  | .reset => reset s
  | .fetch => (Logged.ofEngine s.fetch).bind fun (fetched, _) => .silent (.ok fetched)
  | .execute code => (Logged.ofEngine (s.execute code)).bind fun s' => .silent (Call.given code s')
  | .setKey key down => .silent (s.setKey key down)
  | .run n => steps n.toNat s
  | .frame n => runFrame s n

/-- The lines that a logger prints of some entries. -/
def lines : Log.Logger → List Entry → List String
  | _, [] => []
  | l, e :: es =>
    let (printed, l) := l.log e.level.name e.message
    printed.toList ++ lines l es

theorem outcome_load (program : List UInt8) (rng : Key) :
    (load program rng).outcome = liftFault (State.load program rng) := by
  rw [load, Logged.outcome_bind, Logged.outcome_ofEngine]
  cases State.load program rng <;> rfl

theorem outcome_step (s : State) : (step s).outcome = liftFault s.step := by
  rw [step, State.step, Logged.outcome_bind, Logged.outcome_ofEngine]
  rcases s.fetch with _ | ⟨fetched, word⟩
  · rfl
  · exact Logged.outcome_ofEngine _

theorem outcome_steps (n : Nat) (s : State) : (steps n s).outcome = liftFault (s.steps n) := by
  induction n generalizing s with
  | zero => rfl
  | succ n ih =>
    rw [steps, State.steps, Logged.outcome_bind, outcome_step]
    rcases s.step with _ | s'
    · rfl
    · exact ih s'

/-- Reporting changes no outcome. -/
theorem outcome_report (s : State) (c : Call) : (report s c).outcome = c.perform s := by
  cases c with
  | step => exact outcome_step s
  | tick => rfl
  | reset => exact outcome_load s.program s.rng
  | fetch =>
    rw [report, Call.perform, Logged.outcome_bind, Logged.outcome_ofEngine]
    rcases s.fetch with _ | ⟨fetched, word⟩ <;> rfl
  | execute code =>
    rw [report, Call.perform, Logged.outcome_bind, Logged.outcome_ofEngine]
    rfl
  | setKey key down => rfl
  | run n => exact outcome_steps n.toNat s
  | frame n =>
    rw [report, Call.perform, runFrame, State.runFrame, State.runInstructions,
      Logged.outcome_bind, outcome_steps]
    cases s.steps n.toNat <;> rfl

end Console

end Chip8
