import Chip8.Proofs.LineText
import Chip8.Proofs.Run
import Chip8.Proofs.TraceView

/-!
# The trace is the recent history

A history is kept beside a run: every instruction that runs, be it fetched or
given by the host, is written behind it, and a reset starts over. The ring of
the trace is the end of this history (`State.Recorded`), so the lines that a
host reads off the trace are the last sixteen records or all of a shorter
history (`State.traceLines_eq_history`). Only codes with an operation run, and
their low 16 bits have the same operation, so no line shows data.
-/

namespace Chip8

open Layout

namespace State

/-- The instructions that have run since the last reset, the oldest first:
where each stood and the low 16 bits of its code. -/
def noteRecord (s : State) : Call → List Record → List Record
  | .step, history => history ++ [⟨s.pc, s.nextWord⟩]
  | .execute code, history => history ++ [⟨s.pc - 2, code.word⟩]
  | .reset, _ => []
  | _, history => history

/-- The trace of a machine shows the end of a history of instructions. -/
structure Recorded (s : State) (history : List Record) : Prop where
  shown : s.trace.records = Trace.latest history
  known : ∀ r ∈ history, (Op.ofCode? (r.word.toNat : Int)).isSome
  fits : s.program.length ≤ programLimit

theorem recorded_fresh {program : List UInt8} (rng : Key) (h : program.length ≤ programLimit) :
    (fresh program rng).Recorded [] where
  shown := by
    rw [fresh, Trace.records_empty, Trace.latest_nil]
  known := by
    intro r hr
    cases hr
  fits := h

/-- An instruction that runs writes its record behind the history. -/
theorem Recorded.execute {s s' : State} {history : List Record} {c : Code}
    (h : s.Recorded history) (hs : s.execute c = .ok s') :
    s'.Recorded (history ++ [⟨s.pc - 2, c.word⟩]) := by
  obtain ⟨op, hop, -, rfl⟩ := execute_eq_ok_iff.mp hs
  refine ⟨?_, ?_, ?_⟩
  · show (s.trace.push ⟨s.instructionAddress, c.word⟩).records = _
    rw [Trace.records_push_eq, h.shown, Trace.latest_latest_append]
    rfl
  · intro r hr
    rcases List.mem_append.mp hr with hold | hnew
    · exact h.known r hold
    · rw [List.mem_singleton.mp hnew, Op.ofCode?_word hop]
      rfl
  · show (s.perform ⟨op, c⟩).program.length ≤ programLimit
    rw [program_perform]
    exact h.fits

/-- A step is the execution of the word at the program counter. -/
theorem Recorded.step {s s' : State} {history : List Record} (h : s.Recorded history)
    (hs : s.step = .ok s') : s'.Recorded (history ++ [⟨s.pc, s.nextWord⟩]) := by
  obtain ⟨op, hfaces, -⟩ := step_eq_ok_iff.mp hs
  rw [hfaces.step_eq] at hs
  -- a fetch moves the program counter and leaves the trace alone
  have hfetched : s.fetched.Recorded history := ⟨h.shown, h.known, h.fits⟩
  have hnext := hfetched.execute hs
  have haddress : s.fetched.pc - 2 = s.pc := instructionAddress_fetched s
  rw [haddress, word_nextCode] at hnext
  exact hnext

/-- Every call keeps trace and history together. -/
theorem Recorded.perform {s s' : State} {history : List Record} {c : Call} (hc : c.isAtomic)
    (hs : c.perform s = .ok s') (h : s.Recorded history) :
    s'.Recorded (s.noteRecord c history) := by
  cases c with
  | step => exact h.step (Call.perform_step.mp hs)
  | execute code => exact h.execute (Call.perform_execute.mp hs).2
  | tick =>
      cases Call.perform_tick.mp hs
      exact ⟨h.shown, h.known, h.fits⟩
  | reset =>
      obtain ⟨hfits, rfl⟩ := Call.perform_reset.mp hs
      exact recorded_fresh s.rng hfits
  | setKey key down =>
      obtain ⟨k, -, rfl⟩ := Call.perform_setKey.mp hs
      exact ⟨h.shown, h.known, h.fits⟩
  | fetch | run | frame => cases hc

/-- The trace shows the end of the history at the end of every run. -/
theorem recorded_after {program : List UInt8} {rng : Key} {s₀ : State}
    (hload : load program rng = .ok s₀) {calls : List Call} (hcalls : ∀ c ∈ calls, c.isAtomic) :
    (s₀.after calls).Recorded (s₀.track noteRecord calls []) := by
  obtain ⟨hfits, rfl⟩ := load_eq_ok_iff.mp hload
  exact track_kept (fun hc hs h => h.perform hc hs) hcalls (recorded_fresh rng hfits)

/-- Calls that run no instruction show in no line. -/
theorem traceLines_next {s : State} {c : Call}
    (h : (∃ e, c.perform s = .error e) ∨ c = .tick ∨ ∃ key down, c = .setKey key down) :
    (c.next s).traceLines = s.traceLines := by
  rcases h with ⟨e, he⟩ | rfl | ⟨key, down, rfl⟩
  · rw [Call.next_of_error he]
  · rfl
  · cases hs : (Call.setKey key down).perform s with
    | error e => rw [Call.next_of_error hs]
    | ok s' =>
        rw [Call.next_of_ok hs]
        obtain ⟨k, -, rfl⟩ := Call.perform_setKey.mp hs
        rfl

/-- **The trace is the recent history.** At the end of every run of calls that
run one instruction at a time, the lines of the trace show the last sixteen
instructions that have run since the machine was loaded or reset, or all of
them if there were fewer, the oldest first. Calls that fail, ticks and keys add
nothing. Every code in the history has an operation, so no line shows data. -/
theorem traceLines_eq_history {program : List UInt8} {rng : Key} {s₀ : State}
    (hload : load program rng = .ok s₀) {calls : List Call} (hcalls : ∀ c ∈ calls, c.isAtomic) :
    let s := s₀.after calls
    let history := s₀.track noteRecord calls []
    s.traceLines = (history.drop (history.length - min 16 history.length)).map
      (fun r => Listing.line r.address.toNat r.word.toNat) ∧
    (∀ c : Call, ((∃ e, c.perform s = .error e) ∨ c = .tick ∨ ∃ key down, c = .setKey key down) →
      (c.next s).traceLines = s.traceLines) ∧
    (∀ r ∈ history, (Op.ofCode? (r.word.toNat : Int)).isSome) ∧
    ∀ l ∈ s.traceLines, Listing.isDataLine l = false := by
  intro s history
  have h : s.Recorded history := recorded_after hload hcalls
  refine ⟨?_, fun c => traceLines_next, h.known, ?_⟩
  · rw [traceLines, h.shown]
    rfl
  · intro l hl
    rw [traceLines, h.shown] at hl
    obtain ⟨r, hr, rfl⟩ := List.mem_map.mp hl
    have hknown := h.known r (Trace.mem_of_mem_latest hr)
    rw [Listing.isDataLine_line]
    exact Option.isNone_eq_false_iff.mpr hknown

/-- A program that jumps on the spot runs for seventeen steps, and then its host
hands in a code of 17 bits. -/
theorem traceLines_eq_history_wide_code :
    let s := (fresh [0x12, 0x00] ⟨0, 7⟩).after (.replicate 17 .step ++ [.tick, .execute 0x160FF])
    s.traceLines = .replicate 15 "200-1200 GOTO 200" ++ ["1FE-60FF LD   V0,#FF"] := by
  intro s
  obtain ⟨hlines, -⟩ :=
    traceLines_eq_history (show load [0x12, 0x00] ⟨0, 7⟩ = .ok (fresh _ _) from rfl)
      (show ∀ c ∈ .replicate 17 .step ++ [.tick, .execute 0x160FF], Call.isAtomic c by decide)
  refine hlines.trans ?_
  decide +kernel

end State

end Chip8
