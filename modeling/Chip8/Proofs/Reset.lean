import Chip8.Proofs.Run

/-!
# Reset

A reset loads the stored program again, and no call changes the stored program
(`Call.program_perform`), whatever the program does to its copy in memory. So a
reset succeeds after every run and leaves nothing of the run behind but the key:
runs of one program that have come to the same key go on alike after a reset
(`State.reset_forgets_run`).
-/

namespace Chip8

open Layout

/-! ## The stored program -/

theorem Call.program_perform {s s' : State} {c : Call} (hs : c.perform s = .ok s') :
    s'.program = s.program := by
  have hsteps : ∀ {n t}, s.steps n = .ok t → t.program = s.program := by
    intro n t hn
    refine State.steps_kept (P := fun t => t.program = s.program) ?_ hn rfl
    intro t t' ht h
    exact (State.program_step ht).trans h
  cases c with
  | step => exact State.program_step (perform_step.mp hs)
  | execute code => exact State.program_execute (perform_execute.mp hs).2
  | tick =>
      cases perform_tick.mp hs
      rfl
  | reset =>
      obtain ⟨-, rfl⟩ := perform_reset.mp hs
      rfl
  | fetch =>
      obtain ⟨-, rfl⟩ := perform_fetch.mp hs
      rfl
  | setKey key down =>
      obtain ⟨k, -, rfl⟩ := perform_setKey.mp hs
      rfl
  | run n => exact hsteps (perform_run.mp hs)
  | frame n =>
      obtain ⟨t, ht, rfl⟩ := perform_frame.mp hs
      have hkept : t.program = s.program := hsteps ht
      exact hkept

namespace State

/-- No run changes the stored program. -/
theorem program_after (s : State) (calls : List Call) : (s.after calls).program = s.program := by
  have hall : ∀ c ∈ calls, (fun _ => true) c = true := fun _ _ => rfl
  refine after_kept (P := fun t => t.program = s.program) ?_ hall rfl
  intro t t' c _ ht h
  exact (Call.program_perform ht).trans h

/-! ## Starting over -/

/-- A reset is the load of a program that fits. -/
theorem reset_eq_ok {s : State} (hfits : s.program.length ≤ programLimit) :
    s.reset = .ok (fresh s.program s.rng) :=
  load_eq_ok_iff.mpr ⟨hfits, rfl⟩

/-- Machines that a reset makes equal have one future behind it. -/
theorem future_eq_of_reset_eq {s t : State} (h : s.reset = t.reset)
    (hok : ∃ r, s.reset = .ok r) (future : List Call) :
    s.events (.reset :: future) = t.events (.reset :: future) ∧
      s.after (.reset :: future) = t.after (.reset :: future) := by
  obtain ⟨r, hs⟩ := hok
  have hs' : Call.reset.perform s = .ok r := liftFault_eq_ok_iff.mpr hs
  have ht' : Call.reset.perform t = .ok r := liftFault_eq_ok_iff.mpr (h ▸ hs)
  have hevent : Call.reset.event s = Call.reset.event t := by
    refine Call.event_congr rfl rfl fun e => ?_
    rw [hs', ht']
  constructor
  · rw [events, events, hevent, Call.next_of_ok hs', Call.next_of_ok ht']
  · rw [after_cons_of_ok hs', after_cons_of_ok ht']

/-- **A reset forgets everything but the key.** A program that fits is loaded,
and after every run of calls of all kinds, failing ones included, it is still
stored; a reset then succeeds and gives the machine that a load with the present
key gives, which is the one at the beginning but for the key. A second reset
changes nothing, and two runs of the program that have come to the same key can
no longer be told apart after a reset, whatever is called then. -/
theorem reset_forgets_run {program : List UInt8} (hfits : program.length ≤ 3584) (k : Key)
    (calls : List Call) :
    ∃ s₀ r, load program k = .ok s₀ ∧
      let s := s₀.after calls
      s.program = program ∧ s.reset = .ok r ∧ load program s.rng = .ok r ∧
      r = { s₀ with rng := s.rng } ∧ r.reset = .ok r ∧
      ∀ k' s₀' calls', load program k' = .ok s₀' → (s₀'.after calls').rng = s.rng →
        (s₀'.after calls').reset = .ok r ∧
        ∀ future, (s₀'.after calls').events (.reset :: future) = s.events (.reset :: future) ∧
          (s₀'.after calls').after (.reset :: future) = s.after (.reset :: future) := by
  have hreset : ∀ k calls, ((fresh program k).after calls).reset =
      .ok (fresh program ((fresh program k).after calls).rng) := by
    intro k calls
    have hprogram : ((fresh program k).after calls).program = program := program_after _ calls
    rw [reset_eq_ok (by rw [hprogram]; exact hfits), hprogram]
  refine ⟨fresh program k, _, load_eq_ok_iff.mpr ⟨hfits, rfl⟩, program_after _ calls,
    hreset k calls, load_eq_ok_iff.mpr ⟨hfits, rfl⟩, rfl, reset_eq_ok hfits, ?_⟩
  intro k' s₀' calls' hload hrng
  obtain ⟨-, rfl⟩ := load_eq_ok_iff.mp hload
  have hsame := hreset k' calls'
  rw [hrng] at hsame
  refine ⟨hsame, fun future => ?_⟩
  exact future_eq_of_reset_eq (hsame.trans (hreset k calls).symm) ⟨_, hsame⟩ future

/-- A call that has not returned, a program that overwrites its own beginning, a
random byte, and an error: a machine that has only drawn the byte is the same
after a reset. -/
theorem reset_forgets_run_self_modifying :
    let s₀ := fresh [0x22, 0x06, 0x00, 0xE0, 0x00, 0xE0, 0xA2, 0x00, 0xF1, 0x55] ⟨0, 7⟩
    let calls : List Call := [.execute 0xC2FF, .frame 3, .setKey 5 true, .run 2]
    (s₀.after calls).memory.read 0x200 = 0 ∧ (s₀.after calls).stack.depth = 1 ∧
      ((Call.run 2).event (s₀.after calls)).error =
        some (.fault (.unimplemented 0 (some 0x20A))) ∧
      (s₀.after calls).reset = .ok { s₀ with rng := s₀.rng.next } ∧
      ∀ future, (s₀.after [.execute 0xC2FF]).events (.reset :: future) =
          (s₀.after calls).events (.reset :: future) ∧
        (s₀.after [.execute 0xC2FF]).after (.reset :: future) =
          (s₀.after calls).after (.reset :: future) := by
  intro s₀ calls
  obtain ⟨hread, hdepth, herror, hrng, hsame⟩ :
      (s₀.after calls).memory.read 0x200 = 0 ∧ (s₀.after calls).stack.depth = 1 ∧
      ((Call.run 2).event (s₀.after calls)).error =
        some (.fault (.unimplemented 0 (some 0x20A))) ∧
      (s₀.after calls).rng = s₀.rng.next ∧
      (s₀.after [.execute 0xC2FF]).rng = (s₀.after calls).rng := by
    decide +kernel
  have hload : load s₀.program s₀.rng = .ok s₀ := rfl
  obtain ⟨s₁, r, hload₁, -, hreset, -, hr, -, hfuture⟩ :=
    reset_forgets_run (show s₀.program.length ≤ 3584 by decide) s₀.rng calls
  obtain rfl : s₁ = s₀ := by
    rw [hload] at hload₁
    exact (Except.ok.inj hload₁).symm
  rw [hr, hrng] at hreset
  exact ⟨hread, hdepth, herror, hreset, (hfuture _ _ [.execute 0xC2FF] hload hsame).2⟩

end State

end Chip8
