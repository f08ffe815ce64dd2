import Chip8.Proofs.Frame
import Chip8.Proofs.Run
import Chip8.Proofs.TraceView

/-!
# The trace agrees with the listing

A listing reads the bytes of a program two by two; the trace shows the words
that were fetched from memory. Between the two stands memory: whatever a run
does, an address that no instruction has stored to still holds the byte that was
loaded there (`State.Loaded`). So the line that an instruction of the program
leaves in the trace is the line of the listing for its address
(`State.last_line_listed`), at odd addresses too, if the listing starts there.
-/

namespace Chip8

open Layout

namespace Listing

/-- The line of a listing for a whole word. -/
theorem getElem?_ofProgram {p : List UInt8} {k : Nat} (h : 2 * k + 1 < p.length) (start : Int) :
    (ofProgram p start)[k]? =
      some (line (start + 2 * k) (wordOfBytes p[2 * k] p[2 * k + 1]).toNat) := by
  fun_induction ofProgram p start generalizing k with
  | case1 => exact absurd h (Nat.not_lt_zero _)
  | case2 => exact absurd h (by simp)
  | case3 high low rest start ih =>
      cases k with
      | zero => simp
      | succ k =>
          have hrest : 2 * k + 1 < rest.length := by
            simp only [List.length_cons] at h
            omega
          have haddress : start + 2 + 2 * (k : Int) = start + 2 * ((k + 1 : Nat) : Int) := by omega
          rw [List.getElem?_cons_succ, ih hrest, haddress]
          rfl

/-- The first line of a listing that starts inside a program. -/
theorem head?_ofProgram_drop {p : List UInt8} {k : Nat} (h : k + 1 < p.length) (start : Int) :
    (ofProgram (p.drop k) start).head? =
      some (line start (wordOfBytes p[k] p[k + 1]).toNat) := by
  rw [List.drop_eq_getElem_cons (Nat.lt_of_succ_lt h), List.drop_eq_getElem_cons h]
  rfl

end Listing

namespace State

/-! ## Memory that nothing has stored to -/

/-- The addresses that instructions have stored to since the last reset. -/
def noteStores (s : State) : Call → List Nat → List Nat
  | .step, stored =>
    match Op.ofCode? s.nextCode with
    | some op => Instruction.stores ⟨op, s.nextCode⟩ s.index ++ stored
    | none => stored
  | .reset, _ => []
  | _, stored => stored

/-- Apart from the addresses stored to, memory is as it was loaded. -/
structure Loaded (program : List UInt8) (s : State) (stored : List Nat) : Prop where
  program_eq : s.program = program
  read_eq : ∀ a < 4096, a ∉ stored → s.memory.read a = (Memory.load program).read a

variable {program : List UInt8} {s s' : State} {stored : List Nat}

theorem loaded_fresh (program : List UInt8) (rng : Key) : Loaded program (fresh program rng) [] :=
  ⟨rfl, fun _ _ _ => rfl⟩

theorem Loaded.step (h : Loaded program s stored) (hs : s.step = .ok s') :
    Loaded program s' (s.noteStores .step stored) := by
  obtain ⟨op, hfaces, -, rfl⟩ := step_eq_ok_iff.mp hs
  -- what the instruction stores to is noted, and elsewhere memory is the same
  rw [noteStores, hfaces.ofCode?_eq]
  constructor
  · exact (program_perform s.fetched ⟨op, s.nextCode⟩).trans h.program_eq
  · intro a ha hnot
    rw [List.mem_append, not_or] at hnot
    have hsame : (s.fetched.perform ⟨op, s.nextCode⟩).memory.read a = s.memory.read a :=
      read_perform_of_not_mem ha hnot.1
    exact hsame.trans (h.read_eq a ha hnot.2)

/-- No other call changes memory, apart from a reset, which loads it again. -/
theorem Loaded.perform {c : Call} (hc : c.isSingle) (hs : c.perform s = .ok s')
    (h : Loaded program s stored) : Loaded program s' (s.noteStores c stored) := by
  cases c with
  | step => exact h.step (Call.perform_step.mp hs)
  | tick =>
      cases Call.perform_tick.mp hs
      exact ⟨h.program_eq, h.read_eq⟩
  | reset =>
      obtain ⟨-, rfl⟩ := Call.perform_reset.mp hs
      rw [h.program_eq]
      exact loaded_fresh program s.rng
  | setKey key down =>
      obtain ⟨k, -, rfl⟩ := Call.perform_setKey.mp hs
      exact ⟨h.program_eq, h.read_eq⟩
  | fetch | execute | run | frame => cases hc

theorem loaded_after (program : List UInt8) (rng : Key) {calls : List Call}
    (hcalls : ∀ c ∈ calls, c.isSingle) :
    Loaded program ((fresh program rng).after calls)
      ((fresh program rng).track noteStores calls []) :=
  track_kept (fun hc hs h => h.perform hc hs) hcalls (loaded_fresh program rng)

/-! ## The same line -/

theorem Loaded.nextWord_eq (h : Loaded program s stored) (hfits : program.length ≤ programLimit)
    {k : Nat} (hpc : s.pc.toNat = programStart + k) (hk : k + 1 < program.length)
    (hhigh : s.pc.toNat ∉ stored) (hlow : s.pc.toNat + 1 ∉ stored) :
    s.nextWord = wordOfBytes program[k] program[k + 1] := by
  have hlast : programStart + (k + 1) < 4096 := by
    simp only [programLimit, programStart, memorySize] at hfits ⊢
    omega
  have hread : ∀ j (hj : j < program.length), programStart + j ∉ stored → programStart + j < 4096 →
      s.memory.read (programStart + j) = program[j] := by
    intro j hj hnot hlt
    rw [h.read_eq _ hlt hnot, Memory.read_load hj hfits]
  rw [hpc] at hhigh hlow
  rw [nextWord, Memory.word, hpc, hread k (by omega) hhigh (by omega),
    Nat.add_assoc, hread (k + 1) hk hlow hlast]

/-- The last line of the trace behind a step shows its instruction. -/
theorem getLast?_traceLines_step (hs : s.step = .ok s') :
    s'.traceLines.getLast? = some (Listing.line s.pc.toNat s.nextWord.toNat) := by
  rw [traceLines, List.getLast?_map, records_step hs, Trace.getLast?_latest_append]
  rfl

/-- **The trace agrees with the listing.** After every run of single calls from
a program that fits, a step that succeeds on two bytes of the program to which
no instruction has stored leaves in the trace the first line of a listing that
starts at its address, and at an even address the line of the listing of the
whole program. -/
theorem last_line_listed {program : List UInt8} (hfits : program.length ≤ 3584) (rng : Key)
    {calls : List Call} (hcalls : ∀ c ∈ calls, c.isSingle) :
    ∃ s₀, load program rng = .ok s₀ ∧
      let s := s₀.after calls
      let stored := s₀.track noteStores calls []
      let a := s.pc.toNat
      ∀ s', s.step = .ok s' → 0x200 ≤ a → a + 1 < 0x200 + program.length →
        a ∉ stored → a + 1 ∉ stored →
        ∃ line, s'.traceLines.getLast? = some line ∧
          (Listing.ofProgram (program.drop (a - 0x200)) a).head? = some line ∧
          (a % 2 = 0 → (Listing.ofProgram program 0x200)[(a - 0x200) / 2]? = some line) := by
  refine ⟨fresh program rng, load_eq_ok_iff.mpr ⟨hfits, rfl⟩, ?_⟩
  intro s stored a s' hs hstart hend hhigh hlow
  have h : Loaded program s stored := loaded_after program rng hcalls
  obtain ⟨k, hk⟩ : ∃ k, a = 0x200 + k := Nat.exists_eq_add_of_le hstart
  have hword : s.nextWord = wordOfBytes program[k] program[k + 1] :=
    h.nextWord_eq hfits hk (by omega) hhigh hlow
  refine ⟨_, getLast?_traceLines_step hs, ?_, fun heven => ?_⟩
  · rw [show a - 0x200 = k by omega, Listing.head?_ofProgram_drop (by omega), hword]
  · -- at an even address both bytes stand on one line of the whole listing
    obtain ⟨j, rfl⟩ : ∃ j, k = 2 * j := ⟨k / 2, by omega⟩
    have haddress : (a : Int) = 0x200 + 2 * (j : Int) := by omega
    rw [show (a - 0x200) / 2 = j by omega, Listing.getElem?_ofProgram (by omega), ← haddress, hword]

/-- A program that stores to its own seventh byte and jumps behind it, to an odd
address at its end. -/
theorem last_line_listed_odd_address :
    let program := [0xA2, 0x06, 0xF0, 0x55, 0x12, 0x07, 0xFF, 0x60, 0xAB]
    let s := (fresh program ⟨0, 7⟩).after [.step, .step, .tick, .step]
    s.memory.read 0x206 = 0 ∧ s.pc.toNat = 0x207 ∧
      ∃ s', s.step = .ok s' ∧ s'.traceLines.getLast? = some "207-60AB LD   V0,#AB" := by
  intro program s
  obtain ⟨s₀, hload, hnext⟩ :=
    last_line_listed (show program.length ≤ 3584 by decide) ⟨0, 7⟩
      (show ∀ c ∈ [.step, .step, .tick, .step], Call.isSingle c by decide)
  obtain ⟨-, rfl⟩ := load_eq_ok_iff.mp hload
  obtain ⟨hread, hpc, hstart, hend, hhigh, hlow, hok⟩ :
      s.memory.read 0x206 = 0 ∧ s.pc.toNat = 0x207 ∧ 0x200 ≤ s.pc.toNat ∧
      s.pc.toNat + 1 < 0x200 + program.length ∧
      s.pc.toNat ∉ (fresh program ⟨0, 7⟩).track noteStores [.step, .step, .tick, .step] [] ∧
      s.pc.toNat + 1 ∉ (fresh program ⟨0, 7⟩).track noteStores [.step, .step, .tick, .step] [] ∧
      s.step.isOk = true := by
    decide +kernel
  obtain ⟨s', hs⟩ := exists_ok_of_isOk hok
  obtain ⟨line, hlast, hfirst, -⟩ := hnext s' hs hstart hend hhigh hlow
  have hlisted : (Listing.ofProgram (program.drop (s.pc.toNat - 0x200)) s.pc.toNat).head? =
      some "207-60AB LD   V0,#AB" := by
    rw [hpc]
    decide +kernel
  exact ⟨hread, hpc, s', hs, hlast.trans (hfirst.symm.trans hlisted)⟩

end State

end Chip8
