import Chip8.Proofs.Subroutine

/-!
# Bounds that hold between two calls

The program counter is a word of 16 bits, but whole steps keep it below
`0x10FF`: a fetch needs two bytes of memory, a skip goes two further, an operand
is at most `0xFFF`, `BNNN` adds a byte to one, and a return goes where a call
came from. The bound of the program counter and that of the pending return
addresses hold each other up, so they are proved together (`State.Bounded`),
with the place of the stack pointer and the addresses in the trace. From them it
follows that no sum or difference that makes up the next program counter wraps
(`State.Unwrapped`).
-/

namespace Chip8

open Layout

namespace State

/-- What holds of a machine between two calls of its host. -/
structure Bounded (s : State) : Prop where
  pc_le : s.pc.toNat ≤ 0x10FE
  inPlace : s.stack.InPlace
  returns : ∀ a ∈ s.stack.contents, 2 ≤ a.toNat ∧ a.toNat ≤ 0x1000
  traced : ∀ r ∈ s.trace.records, r.address.toNat ≤ 0xFFE
  fits : s.program.length ≤ programLimit

/-- The words that a step may make the next program counter or a recorded
address are the sums and differences that they stand for. -/
structure Unwrapped (s : State) : Prop where
  /-- A fetch moves on by two. -/
  fetch : (s.pc + 2).toNat = s.pc.toNat + 2
  /-- A skip moves on by two more. -/
  skip : (s.fetched.pc + 2).toNat = s.fetched.pc.toNat + 2
  /-- A wait for a key goes back by two. -/
  wait : (s.fetched.pc - 2).toNat + 2 = s.fetched.pc.toNat
  /-- `BNNN` goes to `NNN` and `V0` together. -/
  jump : ∀ c : Code,
    (c.nnn + (s.fetched.reg 0).toUInt16).toNat = c.nnn.toNat + (s.fetched.reg 0).toNat
  /-- The trace records the address that lies two back. -/
  record : s.fetched.instructionAddress.toNat + 2 = s.fetched.pc.toNat

/-- An operand of three digits and a byte make a word. -/
theorem toNat_nnn_add (c : Code) (b : UInt8) :
    (c.nnn + b.toUInt16).toNat = c.nnn.toNat + b.toNat ∧ c.nnn.toNat ≤ 0xFFF := by
  have hnnn := c.toNat_nnn
  have hb := b.toNat_lt
  have hle : c.nnn.toNat ≤ 0xFFF := by omega
  refine ⟨?_, hle⟩
  rw [UInt16.toNat_add, UInt8.toNat_toUInt16]
  exact Nat.mod_eq_of_lt (by omega)

/-- Below the end of memory nothing wraps. -/
theorem unwrapped_of_pc_lt {s : State} (h : s.pc.toNat < 0xFFF) : s.Unwrapped := by
  have hfetched : s.fetched.pc.toNat = s.pc.toNat + 2 := toNat_add_two (by omega)
  have hback : s.fetched.pc - 2 = s.pc := instructionAddress_fetched s
  exact
    { fetch := hfetched
      skip := toNat_add_two (by omega)
      wait := by rw [hback, hfetched]
      jump := fun c => (toNat_nnn_add c _).1
      record := by rw [instructionAddress_fetched, hfetched] }

theorem bounded_fresh {program : List UInt8} (rng : Key) (h : program.length ≤ programLimit) :
    (fresh program rng).Bounded where
  pc_le := show (UInt16.ofNat programStart).toNat ≤ 0x10FE by decide
  inPlace := Stack.inPlace_empty
  returns := by
    intro a ha
    rw [fresh, Stack.contents_empty] at ha
    cases ha
  traced := by
    intro r hr
    rw [fresh, Trace.records_empty] at hr
    cases hr
  fits := h

/-- Wherever an operation sends the program counter, it stays within its
bound. -/
theorem Bounded.pc_step {s s' : State} (h : s.Bounded) (hs : s.step = .ok s') :
    s'.pc.toNat ≤ 0x10FE := by
  obtain ⟨op, hfaces, hrun, rfl⟩ := step_eq_ok_iff.mp hs
  have hlt := hfaces.1
  have hw := unwrapped_of_pc_lt hlt
  have hfetched : s.fetched.pc.toNat = s.pc.toNat + 2 := hw.fetch
  show (s.fetched.perform ⟨op, s.nextCode⟩).pc.toNat ≤ 0x10FE
  rcases pc_perform_cases s.fetched ⟨op, s.nextCode⟩ with
    hpc | hpc | hpc | hpc | hpc | ⟨hop, hpc⟩ <;> rw [hpc]
  · omega
  · -- a skip goes furthest of those that look at the program counter only
    rw [hw.skip]
    omega
  · have hback := hw.wait
    omega
  · have hnnn := (toNat_nnn_add s.nextCode 0).2
    exact Nat.le_trans hnnn (by decide)
  · -- the largest operand and the largest byte make up the bound
    have hsum := toNat_nnn_add s.nextCode (s.fetched.reg 0)
    have hb := (s.fetched.reg 0).toNat_lt
    show (s.nextCode.nnn + (s.fetched.reg 0).toUInt16).toNat ≤ 0x10FE
    omega
  · -- a return goes where a call came from
    have hempty : s.stack.isEmpty = false := (refusal?_eq_none_iff.mp hrun).2.1 hop
    have hne := h.inPlace.isEmpty_eq_false_iff.mp hempty
    have htop : s.stack.top ∈ s.stack.contents := by
      rw [Stack.contents_eq_cons hne]
      exact List.mem_cons_self
    exact Nat.le_trans (h.returns _ htop).2 (by decide)

/-- The addresses that wait on the stack stay within their bounds. -/
theorem Bounded.returns_step {s s' : State} (h : s.Bounded) (hs : s.step = .ok s') :
    s'.stack.InPlace ∧ ∀ a ∈ s'.stack.contents, 2 ≤ a.toNat ∧ a.toNat ≤ 0x1000 := by
  rcases stack_step h.inPlace hs with
    ⟨hcall, hroom, hstack⟩ | ⟨-, hne, hstack, -⟩ | ⟨-, -, hstack⟩ <;> rw [hstack]
  · refine ⟨h.inPlace.push hroom _, fun a ha => ?_⟩
    rw [h.inPlace.contents_push hroom] at ha
    rcases List.mem_cons.mp ha with rfl | ha
    · have hlt := hcall.1
      rw [hcall.toNat_next]
      omega
    · exact h.returns a ha
  · refine ⟨Stack.inPlace_drop hne, fun a ha => h.returns a ?_⟩
    rw [Stack.contents_eq_cons hne]
    exact List.mem_cons_of_mem _ ha
  · exact ⟨h.inPlace, h.returns⟩

theorem Bounded.traced_step {s s' : State} (h : s.Bounded) (hs : s.step = .ok s') :
    ∀ r ∈ s'.trace.records, r.address.toNat ≤ 0xFFE := by
  obtain ⟨op, hfaces, -, rfl⟩ := step_eq_ok_iff.mp hs
  intro r hr
  rw [Trace.records_push] at hr
  rcases List.mem_append.mp (List.mem_of_mem_drop hr) with hold | hnew
  · exact h.traced r hold
  · rw [List.mem_singleton.mp hnew]
    exact Nat.le_of_lt_succ hfaces.1

theorem Bounded.step {s s' : State} (h : s.Bounded) (hs : s.step = .ok s') : s'.Bounded where
  pc_le := h.pc_step hs
  inPlace := (h.returns_step hs).1
  returns := (h.returns_step hs).2
  traced := h.traced_step hs
  fits := by
    rw [program_step hs]
    exact h.fits

/-- Every call that runs whole steps keeps the bounds. -/
theorem Bounded.perform {s s' : State} {c : Call} (hc : c.isWhole) (hs : c.perform s = .ok s')
    (h : s.Bounded) : s'.Bounded := by
  have hsteps : ∀ {n t}, s.steps n = .ok t → t.Bounded :=
    fun hn => steps_kept (fun ht hb => hb.step ht) hn h
  cases c with
  | step => exact h.step (Call.perform_step.mp hs)
  | tick =>
      cases Call.perform_tick.mp hs
      exact ⟨h.pc_le, h.inPlace, h.returns, h.traced, h.fits⟩
  | reset =>
      obtain ⟨hfits, rfl⟩ := Call.perform_reset.mp hs
      exact bounded_fresh s.rng hfits
  | setKey key down =>
      obtain ⟨k, -, rfl⟩ := Call.perform_setKey.mp hs
      exact ⟨h.pc_le, h.inPlace, h.returns, h.traced, h.fits⟩
  | run n => exact hsteps (Call.perform_run.mp hs)
  | frame n =>
      obtain ⟨t, ht, rfl⟩ := Call.perform_frame.mp hs
      have hb := hsteps ht
      exact ⟨hb.pc_le, hb.inPlace, hb.returns, hb.traced, hb.fits⟩
  | fetch | execute => cases hc

/-- **Bounds of a machine.** Every program that fits is loaded, and after every
run of calls that run whole steps the program counter is at most `0x10FE`, the
stack pointer is in place and the depth at most sixteen, the pending return
addresses lie between 2 and `0x1000`, and no recorded address is above `0xFFE`.
So in a step that succeeds from there, nothing that makes up a program counter
wraps. -/
theorem bounded_after {program : List UInt8} (hfits : program.length ≤ 3584) (rng : Key)
    {calls : List Call} (hcalls : ∀ c ∈ calls, c.isWhole) :
    ∃ s₀, load program rng = .ok s₀ ∧
      let s := s₀.after calls
      s.pc.toNat ≤ 0x10FE ∧
      (s.stack.pointer.toNat ≤ 15 ∨ s.stack.pointer = 255) ∧ s.stack.depth ≤ 16 ∧
      (∀ a ∈ s.stack.contents, 2 ≤ a.toNat ∧ a.toNat ≤ 0x1000) ∧
      (∀ r ∈ s.trace.records, r.address.toNat ≤ 0xFFE) ∧
      ∀ s', s.step = .ok s' → s.Unwrapped := by
  refine ⟨fresh program rng, load_eq_ok_iff.mpr ⟨hfits, rfl⟩, ?_⟩
  intro s
  have h : s.Bounded := after_kept (fun hc hs h => h.perform hc hs) hcalls (bounded_fresh rng hfits)
  refine ⟨h.pc_le, h.inPlace, ?_, h.returns, h.traced, ?_⟩
  · rw [h.inPlace.depth_eq]
    exact s.stack.length_contents_le
  · intro s' hs
    obtain ⟨op, hfaces, -⟩ := step_eq_ok_iff.mp hs
    exact unwrapped_of_pc_lt hfaces.1

/-- Inside a subroutine, after a call that ran alone and a frame of one
instruction: the address behind the call is pending, and the next step succeeds
and wraps nothing. -/
theorem bounded_after_call_and_frame :
    let s := (fresh [0x22, 0x04, 0x12, 0x02, 0x60, 0xFF, 0x00, 0xEE] ⟨0, 7⟩).after
      [.run 1, .setKey 3 true, .frame 1]
    s.pc.toNat = 0x206 ∧ s.stack.contents = [0x202] ∧ (∃ s', s.step = .ok s') ∧ s.Unwrapped := by
  obtain ⟨s₀, hload, -, -, -, -, -, hnext⟩ :=
    bounded_after
      (show [0x22, 0x04, 0x12, 0x02, 0x60, 0xFF, 0x00, 0xEE].length ≤ 3584 by decide) ⟨0, 7⟩
      (show ∀ c ∈ [.run 1, .setKey 3 true, .frame 1], Call.isWhole c by decide)
  obtain ⟨-, rfl⟩ := load_eq_ok_iff.mp hload
  intro s
  obtain ⟨hpc, hcontents, hok⟩ :
      s.pc.toNat = 0x206 ∧ s.stack.contents = [0x202] ∧ s.step.isOk = true := by
    decide +kernel
  obtain ⟨s', hs⟩ := exists_ok_of_isOk hok
  exact ⟨hpc, hcontents, ⟨s', hs⟩, hnext s' hs⟩

end State

end Chip8
