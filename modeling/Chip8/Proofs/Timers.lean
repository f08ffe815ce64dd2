import Chip8.Proofs.SessionRun

/-!
# Timers measure ticks

For each of the two timers a countdown is kept beside a run: the instruction that
sets the timer notes the value of its register and begins to count ticks from
zero, and a reset goes back to a countdown from nothing. What a timer shows is
what is left of its countdown, whatever else runs, fails or is pressed in between
(`State.timers_measure_ticks`). The two countdowns know nothing of each other, so
neither do the timers.
-/

namespace Chip8

/-- The timers. -/
inductive Timer where
  | delay
  | sound
deriving DecidableEq, Repr

/-- The value that a timer was last set to, and the number of ticks since. -/
structure Countdown where
  start : Nat
  ticks : Nat
deriving DecidableEq, Repr

namespace Timer

/-- What a timer shows. -/
def value (s : State) : Timer → UInt8
  | delay => s.delay
  | sound => s.sound

/-- The operation that sets a timer. -/
def setter : Timer → Op
  | delay => .setDelay
  | sound => .setSound

/-- An instruction leaves a timer alone unless it sets it. -/
theorem value_perform (t : Timer) (s : State) (i : Instruction) :
    t.value (s.perform i) = if i.op = t.setter then s.reg i.x else t.value s := by
  cases t
  · exact State.delay_perform s i
  · exact State.sound_perform s i

/-- A tick takes one off, and nothing off zero. -/
theorem toNat_value_tick (t : Timer) (s : State) :
    (t.value s.tick).toNat = (t.value s).toNat - 1 := by
  have hbyte : ∀ b : UInt8, (if 0 < b then b - 1 else b).toNat = b.toNat - 1 := by
    intro b
    split
    · rename_i hpos
      have hle : 1 ≤ b := UInt8.le_iff_toNat_le.mpr (UInt8.lt_iff_toNat_lt.mp hpos)
      exact UInt8.toNat_sub_of_le b 1 hle
    · rename_i hzero
      have hnat : ¬ 0 < b.toNat := fun h => hzero (UInt8.lt_iff_toNat_lt.mpr h)
      omega
  cases t
  · exact hbyte s.delay
  · exact hbyte s.sound

end Timer

/-- The instruction with which a call sets a timer. -/
def Call.sets? (t : Timer) (s : State) (c : Call) : Option Instruction :=
  (c.event s).executed.filter (·.op = t.setter)

namespace State

/-- The countdown of a timer after a call: anew if the call sets the timer, one
tick on, or from nothing after a reset. -/
def noteCountdown (t : Timer) (s : State) (c : Call) (g : Countdown) : Countdown :=
  match c with
  | .tick => { g with ticks := g.ticks + 1 }
  | .reset => ⟨0, 0⟩
  | .step | .execute _ =>
    match c.sets? t s with
    | some i => ⟨(s.reg i.x).toNat, 0⟩
    | none => g
  | _ => g

/-! ## One call -/

/-- An instruction that runs sets a timer to its register or leaves it alone. -/
theorem value_cases {t : Timer} {s s' : State} {c : Call} (hc : c.isInstruction)
    (hs : c.perform s = .ok s') :
    (c.sets? t s = none ∧ t.value s' = t.value s) ∨
    ∃ i, c.sets? t s = some i ∧ t.value s' = s.reg i.x := by
  obtain ⟨i, trace, hi, rfl⟩ := Call.exists_executed_of_ok hc hs
  -- a step has fetched its instruction, which touches neither timers nor registers
  have hready : t.value (c.ready s) = t.value s ∧ (c.ready s).reg i.x = s.reg i.x := by
    cases c <;> cases t <;> exact ⟨rfl, rfl⟩
  have hvalue : t.value { (c.ready s).perform i with trace := trace } =
      if i.op = t.setter then s.reg i.x else t.value s := by
    rw [← hready.1, ← hready.2, ← t.value_perform]
    cases t <;> rfl
  rw [hvalue, Call.sets?, hi, Option.filter_some]
  by_cases hop : i.op = t.setter
  · exact .inr ⟨i, by simp [hop], if_pos hop⟩
  · exact .inl ⟨by simp [hop], if_neg hop⟩

/-- Every call keeps a timer at what is left of its countdown. -/
theorem value_noteCountdown {t : Timer} {s s' : State} {c : Call} {g : Countdown}
    (hc : c.isElementary) (hs : c.perform s = .ok s')
    (h : (t.value s).toNat = g.start - g.ticks) :
    (t.value s').toNat = (s.noteCountdown t c g).start - (s.noteCountdown t c g).ticks := by
  cases c with
  | step | execute =>
      simp only [noteCountdown]
      rcases value_cases (t := t) rfl hs with ⟨hnone, hvalue⟩ | ⟨i, hi, hvalue⟩
      · rw [hnone, hvalue]
        exact h
      · rw [hi, hvalue]
        rfl
  | tick =>
      cases Call.perform_tick.mp hs
      rw [t.toNat_value_tick, h]
      exact Nat.sub_sub g.start g.ticks 1
  | reset =>
      obtain ⟨-, rfl⟩ := Call.perform_reset.mp hs
      cases t <;> rfl
  | fetch =>
      obtain ⟨-, rfl⟩ := Call.perform_fetch.mp hs
      cases t <;> exact h
  | setKey key down =>
      obtain ⟨k, -, rfl⟩ := Call.perform_setKey.mp hs
      cases t <;> exact h
  | run | frame => cases hc

/-- Reading the delay timer puts its value into `VX`. -/
theorem reg_next_getDelay {s : State} {c : Call} {i : Instruction}
    (hi : (c.event s).executed = some i) (hop : i.op = .getDelay) :
    (c.next s).reg i.x = s.delay := by
  obtain ⟨hc, s', hs⟩ := Call.exists_ok_of_executed hi
  obtain ⟨j, trace, hj, rfl⟩ := Call.exists_executed_of_ok hc hs
  obtain rfl : i = j := Option.some.inj (hi.symm.trans hj)
  rw [Call.next_of_ok hs]
  show ((c.ready s).perform i).reg i.x = s.delay
  rw [perform, hop]
  show ((c.ready s).setReg i.x (c.ready s).delay).reg i.x = s.delay
  rw [reg_setReg, if_pos rfl]
  cases c <;> rfl

/-! ## A run -/

/-- A timer shows what is left of its countdown at the end of every run. -/
theorem value_after {program : List UInt8} {rng : Key} {s₀ : State}
    (hload : load program rng = .ok s₀) {calls : List Call} (hcalls : ∀ c ∈ calls, c.isElementary)
    (t : Timer) :
    (t.value (s₀.after calls)).toNat =
      (s₀.track (noteCountdown t) calls ⟨0, 0⟩).start -
        (s₀.track (noteCountdown t) calls ⟨0, 0⟩).ticks := by
  obtain ⟨-, rfl⟩ := load_eq_ok_iff.mp hload
  refine track_kept (P := fun s (g : Countdown) => (t.value s).toNat = g.start - g.ticks)
    value_noteCountdown hcalls ?_
  cases t <;> rfl

theorem soundActive_iff (s : State) : s.soundActive = true ↔ 0 < (Timer.sound.value s).toNat := by
  rw [soundActive, decide_eq_true_eq]
  exact UInt8.lt_iff_toNat_lt

/-- **Timers measure ticks.** At every point of a run each timer shows the value
that it was last set to, less the ticks since then, and zero if there were more of
them or it was not set since the machine was loaded or reset; the other timer has
no part in it. This is what a successful read of the delay timer stores, a tick
never takes anything off zero, and the tone plays exactly while fewer ticks have
passed than the sound timer was set to, also in the hands of a session. -/
theorem timers_measure_ticks {program : List UInt8} {rng : Key} {s₀ : State}
    (hload : load program rng = .ok s₀) {calls : List Call} (hcalls : ∀ c ∈ calls, c.isElementary) :
    let s := s₀.after calls
    let countdown := fun t : Timer => s₀.track (noteCountdown t) calls ⟨0, 0⟩
    (∀ t : Timer, (t.value s).toNat = (countdown t).start - (countdown t).ticks) ∧
    (∀ (c : Call) (i : Instruction), (c.event s).executed = some i → i.op = .getDelay →
      ((c.next s).reg i.x).toNat = (countdown .delay).start - (countdown .delay).ticks) ∧
    (∀ t : Timer, (t.value s.tick).toNat = (t.value s).toNat - 1) ∧
    (s.soundActive = true ↔ (countdown .sound).ticks < (countdown .sound).start) ∧
    ∀ requests : List Request,
      let tone := s₀.track (noteCountdown .sound) (s₀.script requests) ⟨0, 0⟩
      (Session.after ⟨s₀, 0⟩ requests).state.soundActive = true ↔ tone.ticks < tone.start := by
  intro s countdown
  have hvalue := value_after hload hcalls
  refine ⟨hvalue, fun c i hi hop => ?_, fun t => t.toNat_value_tick s, ?_, fun requests => ?_⟩
  · rw [reg_next_getDelay hi hop]
    exact hvalue .delay
  · rw [soundActive_iff, hvalue .sound]
    exact Nat.sub_pos_iff_lt
  · rw [Session.after_eq, soundActive_iff,
      value_after hload (fun c => isElementary_of_mem_script (c := c)) .sound]
    exact Nat.sub_pos_iff_lt

/-- Both timers are set to three, two ticks apart; after two more ticks the delay
timer has run out, with a tick to spare, and the tone still plays. -/
theorem timers_measure_ticks_one_run_out :
    let s₀ := fresh [0x60, 0x03, 0xF0, 0x18] ⟨0, 7⟩
    let s := s₀.after [.execute 0x6003, .execute 0xF015, .tick, .tick, .execute 0xF018, .tick,
      .execute 0x00EE, .tick]
    s.delay.toNat = 3 - 4 ∧ ((Call.next s (.execute 0xF007)).reg 0).toNat = 3 - 4 ∧
      s.soundActive = true ∧
      (Session.after ⟨s₀, 0⟩ [.frame 2, .tick]).state.soundActive = true := by
  intro s₀ s
  obtain ⟨hvalue, hread, -, htone, hsession⟩ :=
    timers_measure_ticks (show load s₀.program s₀.rng = .ok s₀ from rfl)
      (show ∀ c ∈ [.execute 0x6003, .execute 0xF015, .tick, .tick, .execute 0xF018, .tick,
        .execute 0x00EE, .tick], Call.isElementary c by decide)
  refine ⟨(hvalue .delay).trans ?_, (hread (.execute 0xF007) ⟨.getDelay, 0xF007⟩ ?_ rfl).trans ?_,
    htone.mpr ?_, (hsession [.frame 2, .tick]).mpr ?_⟩
  all_goals decide +kernel

end State

end Chip8
