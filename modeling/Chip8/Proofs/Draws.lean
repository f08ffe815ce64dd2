import Chip8.Proofs.Run

/-!
# The stream of random bytes

A list of draws is kept beside a run: an instruction that draws a random byte is
written behind it with the value that its register has afterwards. Nothing else
touches the key and no reset empties the list (`State.rng_next`), so the key is
as many splits behind the first one as there are draws, and which byte a draw
gives depends on its place in the list and on its mask alone
(`State.draws_follow_stream`).
-/

namespace Chip8

/-- An instruction that drew a random byte, and what its register held then. -/
structure Draw where
  instruction : Instruction
  value : UInt8
deriving DecidableEq, Repr

/-- The instruction with which a call draws a random byte. -/
def Call.draw? (s : State) (c : Call) : Option Instruction :=
  (c.event s).executed.filter (·.op = .rnd)

theorem Op.ofCode?_eq_rnd_iff {c : Code} : Op.ofCode? c = some .rnd ↔ c.opcode = 0xC := by
  constructor
  · intro h
    exact (matches_of_ofCode? h).1.opcode_eq rfl
  · intro h
    rw [ofCode?, h]
    rfl

namespace State

/-- The draws of a run, the first one in front. -/
def noteDraw (s : State) (c : Call) (draws : List Draw) : List Draw :=
  draws ++ (c.draw? s).toList.map fun i => ⟨i, (c.next s).reg i.x⟩

/-! ## One call -/

/-- A call draws a byte if it succeeds and its code begins with the digit `C`. -/
theorem draw?_isSome_iff {s : State} {c : Call} :
    (c.draw? s).isSome ↔
      ∃ s' code, c.perform s = .ok s' ∧ c.code? s = some code ∧ code.opcode = 0xC := by
  unfold Call.draw? Call.event
  cases c.perform s with
  | error e => simp
  | ok s' =>
      cases c.code? s with
      | none => simp
      | some code => cases hop : Op.ofCode? code <;> simp [← Op.ofCode?_eq_rnd_iff, hop]

/-- A draw takes the spent half of the key for its byte and leaves the other. -/
theorem perform_rnd {s : State} {i : Instruction} (hop : i.op = .rnd) :
    (s.perform i).rng = s.rng.next ∧ (s.perform i).reg i.x = s.rng.byte &&& i.nn := by
  rw [perform, hop]
  refine ⟨rfl, ?_⟩
  show (s.setReg i.x (s.rng.byte &&& i.nn)).reg i.x = _
  rw [reg_setReg, if_pos rfl]

/-- A call that succeeds draws a byte, or it leaves the key alone. -/
theorem draw_cases {s s' : State} {c : Call} (hc : c.isElementary) (hs : c.perform s = .ok s') :
    (c.draw? s = none ∧ s'.rng = s.rng) ∨
    ∃ i, c.draw? s = some i ∧ i.op = .rnd ∧ s'.rng = s.rng.next ∧
      s'.reg i.x = s.rng.byte &&& i.nn := by
  -- a call that runs no instruction has nothing to show as a draw
  have hnone : c.isInstruction = false → c.draw? s = none := by
    intro hother
    rw [Call.draw?, Call.executed_of_not_isInstruction hother]
    rfl
  cases c with
  | step | execute =>
      obtain ⟨i, t, hi, rfl⟩ := Call.exists_executed_of_ok rfl hs
      rw [Call.draw?, hi]
      by_cases hop : i.op = .rnd
      · obtain ⟨hrng, hreg⟩ := perform_rnd (s := Call.ready s _) hop
        exact .inr ⟨i, by simp [hop], hop, hrng, hreg⟩
      · refine .inl ⟨by simp [hop], ?_⟩
        exact (rng_perform _ i).trans (if_neg hop)
  | tick =>
      cases Call.perform_tick.mp hs
      exact .inl ⟨hnone rfl, rfl⟩
  | reset =>
      obtain ⟨-, rfl⟩ := Call.perform_reset.mp hs
      exact .inl ⟨hnone rfl, rfl⟩
  | fetch =>
      obtain ⟨-, rfl⟩ := Call.perform_fetch.mp hs
      exact .inl ⟨hnone rfl, rfl⟩
  | setKey key down =>
      obtain ⟨k, -, rfl⟩ := Call.perform_setKey.mp hs
      exact .inl ⟨hnone rfl, rfl⟩
  | run | frame => cases hc

/-- The key moves on with a draw and with nothing else. -/
theorem rng_next {s : State} {c : Call} (hc : c.isElementary) :
    (c.next s).rng = if (c.draw? s).isSome then s.rng.next else s.rng := by
  cases hs : c.perform s with
  | error e =>
      have hnone : ¬ (c.draw? s).isSome := by simp [draw?_isSome_iff, hs]
      rw [Call.next_of_error hs, if_neg hnone]
  | ok s' =>
      rw [Call.next_of_ok hs]
      rcases draw_cases hc hs with ⟨hnone, hrng⟩ | ⟨i, hi, -, hrng, -⟩
      · rw [hrng, hnone]
        rfl
      · rw [hrng, hi]
        rfl

/-! ## A run -/

/-- The key of a machine is as many splits behind `k` as there are draws, and the
value of each draw comes from the key at its place. -/
structure Drawn (k : Key) (s : State) (draws : List Draw) : Prop where
  rng : s.rng = Nat.repeat Key.next draws.length k
  value : ∀ j d, draws[j]? = some d → d.instruction.op = .rnd ∧
    d.value = (Nat.repeat Key.next j k).byte &&& d.instruction.nn

theorem drawn_fresh (program : List UInt8) (k : Key) : (fresh program k).Drawn k [] where
  rng := rfl
  value := by
    intro j d hd
    cases hd

theorem Drawn.perform {s s' : State} {k : Key} {draws : List Draw} {c : Call}
    (hc : c.isElementary) (hs : c.perform s = .ok s') (h : s.Drawn k draws) :
    s'.Drawn k (s.noteDraw c draws) := by
  rcases draw_cases hc hs with ⟨hnone, hrng⟩ | ⟨i, hi, hop, hrng, hreg⟩
  · have hnote : s.noteDraw c draws = draws := by
      rw [noteDraw, hnone]
      exact List.append_nil draws
    rw [hnote]
    exact ⟨hrng.trans h.rng, h.value⟩
  · have hnote : s.noteDraw c draws = draws ++ [⟨i, s.rng.byte &&& i.nn⟩] := by
      rw [noteDraw, hi, Call.next_of_ok hs, ← hreg]
      rfl
    rw [hnote]
    constructor
    · rw [hrng, h.rng, List.length_append]
      rfl
    · intro j d hd
      rw [List.getElem?_append, List.getElem?_singleton] at hd
      split at hd
      · exact h.value j d hd
      · split at hd
        · -- the new draw stands behind the old ones, so its place is their number
          have hlast : j = draws.length := by omega
          cases hd
          rw [hlast, ← h.rng]
          exact ⟨hop, rfl⟩
        · cases hd

/-- **The random stream.** However a run is mixed of steps, codes handed in,
ticks, keys and resets, after `m` draws the key is `m` splits behind the one that
the machine was loaded with, and the value of the `j`-th draw is the low byte of
the bits of the `j`-th spent key, under the mask of the instruction. A call moves
the key on if it succeeds with a code `CXNN` and leaves it alone otherwise. -/
theorem draws_follow_stream {program : List UInt8} {k : Key} {s₀ : State}
    (hload : load program k = .ok s₀) {calls : List Call} (hcalls : ∀ c ∈ calls, c.isElementary) :
    let s := s₀.after calls
    let draws := s₀.track noteDraw calls []
    s.rng = Nat.repeat Key.next draws.length k ∧
    (∀ j d, draws[j]? = some d →
      d.value.toNat =
        (Nat.repeat Key.next j k).spent.bits.toNat % 256 &&& d.instruction.nn.toNat) ∧
    ∀ c : Call, c.isElementary →
      ((c.draw? s).isSome ↔
        ∃ s' code, c.perform s = .ok s' ∧ c.code? s = some code ∧ code.opcode = 0xC) ∧
      (c.next s).rng = if (c.draw? s).isSome then s.rng.next else s.rng := by
  intro s draws
  have h : s.Drawn k draws := by
    obtain ⟨-, rfl⟩ := load_eq_ok_iff.mp hload
    exact track_kept (fun hc hs h => h.perform hc hs) hcalls (drawn_fresh program k)
  refine ⟨h.rng, fun j d hd => ?_, fun c hc => ⟨draw?_isSome_iff, rng_next hc⟩⟩
  rw [(h.value j d hd).2, UInt8.toNat_and, Key.byte, UInt32.toNat_toUInt8]

/-- A draw, a return that fails, and behind a reset a draw by a code handed in. -/
theorem draws_follow_stream_past_reset :
    let s₀ := fresh [0xC3, 0x0F, 0x00, 0xEE] ⟨0, 7⟩
    let calls : List Call := [.step, .step, .reset, .tick, .setKey 16 true, .execute 0xC4F0]
    let s := s₀.after calls
    s.rng = s₀.rng.next.next ∧ s.reg 3 = 0 ∧
      (s.reg 4).toNat = s₀.rng.next.spent.bits.toNat % 256 &&& 0xF0 := by
  intro s₀ calls s
  obtain ⟨hkey, hvalue, -⟩ :=
    draws_follow_stream (show load s₀.program s₀.rng = .ok s₀ from rfl)
      (show ∀ c ∈ calls, Call.isElementary c by decide)
  obtain ⟨hdraws, hreset⟩ :
      s₀.track noteDraw calls [] =
        [⟨⟨.rnd, 0xC30F⟩, s₀.rng.byte &&& 0x0F⟩, ⟨⟨.rnd, 0xC4F0⟩, s.reg 4⟩] ∧ s.reg 3 = 0 := by
    decide +kernel
  have hmask : (Instruction.mk .rnd 0xC4F0).nn.toNat = 0xF0 := rfl
  have hsecond := hvalue 1 ⟨⟨.rnd, 0xC4F0⟩, s.reg 4⟩ (hdraws ▸ rfl)
  rw [hdraws] at hkey
  simp only [List.length_cons, List.length_nil, Nat.repeat, hmask] at hkey hsecond
  exact ⟨hkey, hreset, hsecond⟩

end State

end Chip8
