import Chip8.Proofs.Run

/-!
# What execution does not depend on

The trace is only written, the stored program is only read by a reset, and the
key is only read by a random draw, whose byte a mask of zero hides. So two
machines that agree on everything else (`State.Alike`) behave alike: as long as
no byte is drawn under another mask, the same calls raise the same errors, fetch
and run the same instructions, and leave the machines alike
(`State.events_eq_of_alike`). The relation is shown to be kept by one
instruction, then by one call, then by a run.
-/

namespace Chip8

namespace State

/-- Two machines that differ at most in the key, the trace and the stored
program. -/
structure Alike (s t : State) : Prop where
  memory : s.memory = t.memory
  pc : s.pc = t.pc
  display : s.display = t.display
  stack : s.stack = t.stack
  delay : s.delay = t.delay
  sound : s.sound = t.sound
  keypad : s.keypad = t.keypad
  v : s.v = t.v
  index : s.index = t.index

theorem alike_iff {s t : State} :
    s.Alike t ↔
      t = { s with rng := t.rng, trace := t.trace, program := t.program } := by
  constructor
  · intro h
    cases s
    cases t
    cases h
    simp_all
  · intro h
    rw [h]
    exact ⟨rfl, rfl, rfl, rfl, rfl, rfl, rfl, rfl, rfl⟩

/-- Two results that are the same error, or machines that are alike. -/
inductive AlikeResult {ε : Type} : Except ε State → Except ε State → Prop where
  | ok {s t : State} (h : s.Alike t) : AlikeResult (.ok s) (.ok t)
  | error (e : ε) : AlikeResult (.error e) (.error e)

theorem AlikeResult.liftFault {r r' : Except Fault State} (h : AlikeResult r r') :
    AlikeResult (Chip8.liftFault r) (Chip8.liftFault r') := by
  cases h with
  | ok h => exact .ok h
  | error f => exact .error _

theorem AlikeResult.exists_ok {ε : Type} {s : State} {r : Except ε State}
    (h : AlikeResult (.ok s) r) : ∃ t, r = .ok t ∧ s.Alike t := by
  cases h with
  | ok h => exact ⟨_, rfl, h⟩

namespace Alike

variable {s t : State}

/-! ## One instruction -/

theorem refusal?_eq (h : s.Alike t) (i : Instruction) (a : Int) :
    s.refusal? i a = t.refusal? i a := by
  rw [refusal?, refusal?, h.stack, h.index]

theorem instructionAddress_eq (h : s.Alike t) : s.instructionAddress = t.instructionAddress := by
  rw [instructionAddress, instructionAddress, h.pc]

theorem perform (h : s.Alike t) {i : Instruction} (hmask : i.op = .rnd → i.nn = 0) :
    (s.perform i).Alike (t.perform i) := by
  rw [alike_iff.mp h]
  generalize t.rng = rng
  generalize t.trace = trace
  generalize t.program = program
  cases hop : i.op <;> rw [State.perform, State.perform, hop]
  case rnd =>
    -- the mask hides the byte, so both machines set `VX` to zero
    have hzero : ∀ k : Key, k.byte &&& i.nn = 0 := by
      intro k
      rw [hmask hop, UInt8.and_zero]
    simp only [hzero]
    exact ⟨rfl, rfl, rfl, rfl, rfl, rfl, rfl, rfl, rfl⟩
  all_goals exact ⟨rfl, rfl, rfl, rfl, rfl, rfl, rfl, rfl, rfl⟩

theorem execute_error_iff (h : s.Alike t) {c : Code} {f : Fault} :
    t.execute c = .error f ↔ s.execute c = .error f := by
  simp only [execute_eq_error_iff, h.instructionAddress_eq, h.refusal?_eq]

theorem execute (h : s.Alike t) {c : Code}
    (hmask : ∀ s', s.execute c = .ok s' → Op.ofCode? c = some .rnd → c.nn = 0) :
    AlikeResult (s.execute c) (t.execute c) := by
  cases hs : s.execute c with
  | error f =>
      rw [h.execute_error_iff.mpr hs]
      exact .error f
  | ok s' =>
      -- a code that runs is of some operation that the first machine does not
      -- refuse; the second refuses what the first does
      obtain ⟨op, hop, hrun, hs'⟩ := execute_eq_ok_iff.mp hs
      rw [h.refusal?_eq, h.instructionAddress_eq] at hrun
      have hnext := h.perform (i := ⟨op, c⟩) fun hrnd => hmask s' hs (hop.trans (congrArg some hrnd))
      rw [execute_eq_ok_iff.mpr ⟨op, hop, hrun, rfl⟩, hs']
      exact .ok ⟨hnext.memory, hnext.pc, hnext.display, hnext.stack, hnext.delay, hnext.sound,
        hnext.keypad, hnext.v, hnext.index⟩

theorem nextWord_eq (h : s.Alike t) : s.nextWord = t.nextWord := by
  rw [nextWord, nextWord, h.memory, h.pc]

theorem nextCode_eq (h : s.Alike t) : s.nextCode = t.nextCode := by
  rw [nextCode, nextCode, h.nextWord_eq]

theorem fetched (h : s.Alike t) : s.fetched.Alike t.fetched where
  memory := h.memory
  pc := congrArg (· + 2) h.pc
  display := h.display
  stack := h.stack
  delay := h.delay
  sound := h.sound
  keypad := h.keypad
  v := h.v
  index := h.index

theorem step (h : s.Alike t)
    (hmask : ∀ s', s.step = .ok s' → Op.ofCode? s.nextCode = some .rnd → s.nextCode.nn = 0) :
    AlikeResult s.step t.step := by
  have hpc : s.pc = t.pc := h.pc
  rw [step_eq] at hmask ⊢
  rw [step_eq, ← hpc, ← h.nextCode_eq]
  by_cases hend : 0xFFF ≤ s.pc.toNat
  · rw [if_pos hend, if_pos hend]
    exact .error _
  · rw [if_neg hend] at hmask
    rw [if_neg hend, if_neg hend]
    exact h.fetched.execute hmask

/-! ## One call -/

theorem tick (h : s.Alike t) : s.tick.Alike t.tick where
  memory := h.memory
  pc := h.pc
  display := h.display
  stack := h.stack
  delay := by
    rw [State.tick, State.tick, h.delay]
  sound := by
    rw [State.tick, State.tick, h.sound]
  keypad := h.keypad
  v := h.v
  index := h.index

theorem setKey (h : s.Alike t) (key : Int) (down : Bool) :
    AlikeResult (s.setKey key down) (t.setKey key down) := by
  unfold State.setKey
  split
  · exact .ok ⟨h.memory, h.pc, h.display, h.stack, h.delay, h.sound,
      congrArg (Keypad.set · _ down) h.keypad, h.v, h.index⟩
  · exact .error _

theorem result (h : s.Alike t) {c : Call} (hc : c.isPlain)
    (hmask : ∀ i ∈ (c.event s).executed, i.op = .rnd → i.nn = 0) :
    AlikeResult (c.perform s) (c.perform t) := by
  cases c with
  | step =>
      refine (h.step fun s' hs hop => ?_).liftFault
      exact hmask _ (Call.executed_of_ok (Call.perform_step.mpr hs) rfl hop) rfl
  | execute code =>
      cases hs : Call.perform s (.execute code) with
      | error e =>
          have ht : Call.perform t (.execute code) = .error e := by
            rw [Call.perform_execute_error_iff] at hs ⊢
            simp only [ne_eq, h.execute_error_iff]
            exact hs
          rw [ht]
          exact .error e
      | ok s' =>
          -- only now does the event show the code, so that the mask is known
          obtain ⟨hcode, hrun⟩ := Call.perform_execute.mp hs
          have hresult := h.execute fun _ _ hop => hmask _ (Call.executed_of_ok hs rfl hop) rfl
          rw [hrun] at hresult
          obtain ⟨t', ht, hnext⟩ := hresult.exists_ok
          rw [Call.perform_execute.mpr ⟨hcode, ht⟩]
          exact .ok hnext
  | tick => exact .ok h.tick
  | setKey key down => exact h.setKey key down
  | reset | fetch | run | frame => cases hc

theorem fetched?_eq (h : s.Alike t) (c : Call) : c.fetched? s = c.fetched? t := by
  cases c <;> simp only [Call.fetched?, h.pc, h.nextWord_eq]

theorem code?_eq (h : s.Alike t) (c : Call) : c.code? s = c.code? t := by
  cases c <;> simp only [Call.code?, h.nextCode_eq]

theorem event_eq (h : s.Alike t) {c : Call} (hresult : AlikeResult (c.perform s) (c.perform t)) :
    c.event s = c.event t ∧ (c.next s).Alike (c.next t) := by
  unfold Call.event Call.next
  rw [h.fetched?_eq, h.code?_eq]
  generalize c.perform s = r at hresult ⊢
  generalize c.perform t = r' at hresult ⊢
  cases hresult with
  | ok hnext => exact ⟨rfl, hnext⟩
  | error e => exact ⟨rfl, h⟩

end Alike

/-! ## A run -/

/-- **Independence of trace, program and key.** Machines that differ at most in
the key, the trace and the stored program go through every run of plain calls
alike, if the first of them draws no byte under a mask other than zero: the
same calls raise the same errors, fetch and run the same instructions, and the
machines at the end are alike again. -/
theorem events_eq_of_alike {s t : State} (h : s.Alike t) {calls : List Call}
    (hcalls : ∀ c ∈ calls, c.isPlain)
    (hmask : ∀ e ∈ s.events calls, ∀ i ∈ e.executed, i.op = .rnd → i.nn = 0) :
    s.events calls = t.events calls ∧ (s.after calls).Alike (t.after calls) := by
  -- by induction on the calls for all machines that are alike; each call needs
  -- only its own event to be free of draws, so the first run's events suffice
  induction calls generalizing s t with
  | nil => exact ⟨rfl, h⟩
  | cons c calls ih =>
      have hresult := h.result (hcalls c List.mem_cons_self) (hmask _ List.mem_cons_self)
      obtain ⟨hevent, hnext⟩ := h.event_eq hresult
      obtain ⟨hevents, hend⟩ := ih hnext
        (fun c' hc' => hcalls c' (List.mem_cons_of_mem _ hc'))
        (fun e he => hmask e (List.mem_cons_of_mem _ he))
      refine ⟨?_, hend⟩
      rw [events, events, hevent, hevents]

/-- Another key, trace and program do not show in a run that draws under the
mask zero, runs an instruction that it has stored itself, and meets two errors. -/
theorem events_eq_of_alike_self_modifying :
    let s := fresh [0xA2, 0x06, 0xC0, 0x00, 0xF1, 0x55] ⟨0, 7⟩
    let t := { s with rng := ⟨1, 2⟩, trace := s.trace.push ⟨0, 0⟩, program := [] }
    let calls : List Call := [.execute 0x61E0, .step, .step, .step, .step, .setKey 16 true,
      .execute 0x00EE]
    s.Alike t ∧ s.events calls = t.events calls ∧ (s.after calls).Alike (t.after calls) ∧
      (t.events calls).filterMap (·.fetched) =
        [⟨0x200, 0xA206⟩, ⟨0x202, 0xC000⟩, ⟨0x204, 0xF155⟩, ⟨0x206, 0x00E0⟩] ∧
      (t.events calls).filterMap (·.error) = [.noSuchKey 16, .fault (.stackUnderflow 0x206)] := by
  intro s t calls
  have h : s.Alike t := ⟨rfl, rfl, rfl, rfl, rfl, rfl, rfl, rfl, rfl⟩
  obtain ⟨hmask, hseen⟩ :
      (∀ e ∈ s.events calls, ∀ i ∈ e.executed, i.op = .rnd → i.nn = 0) ∧
      (s.events calls).filterMap (·.fetched) =
        [⟨0x200, 0xA206⟩, ⟨0x202, 0xC000⟩, ⟨0x204, 0xF155⟩, ⟨0x206, 0x00E0⟩] ∧
      (s.events calls).filterMap (·.error) = [.noSuchKey 16, .fault (.stackUnderflow 0x206)] := by
    decide +kernel
  obtain ⟨hevents, hend⟩ := events_eq_of_alike h
    (show ∀ c ∈ calls, Call.isPlain c by decide) hmask
  rw [← hevents]
  exact ⟨h, rfl, hend, hseen⟩

end State

end Chip8
