import Chip8.Proofs.Run
import Chip8.Proofs.StackView

/-!
# Subroutine discipline

A list of return addresses is kept beside a run: a call notes the address
behind it, a return crosses out the latest address, and a reset starts over.
The call stack is this list and nothing else (`State.stack_mirrors_returns`), so
sixteen calls can be pending, none of their addresses is lost, and every return
goes on behind the call that it belongs to, whatever ran in between.
-/

namespace Chip8

open Layout

namespace State

/-! ## One step and the stack -/

/-- The three things that a step can do to a stack whose pointer is in place:
a call pushes the address behind it, a return drops the front and goes there,
and any other instruction leaves the stack alone. -/
theorem stack_step {s s' : State} (hplace : s.stack.InPlace) (hs : s.step = .ok s') :
    (s.Faces .call ∧ s.stack.contents.length < 16 ∧ s'.stack = s.stack.push (s.pc + 2)) ∨
    (s.Faces .ret ∧ s.stack.contents ≠ [] ∧ s'.stack = s.stack.drop ∧ s'.pc = s.stack.top) ∨
    (¬ s.Faces .call ∧ ¬ s.Faces .ret ∧ s'.stack = s.stack) := by
  obtain ⟨op, hfaces, hrun, rfl⟩ := step_eq_ok_iff.mp hs
  obtain ⟨hcall, hret, -⟩ := refusal?_eq_none_iff.mp hrun
  by_cases hop : op = .call
  · subst hop
    have hfull : s.stack.isFull = false := hcall rfl
    exact .inl ⟨hfaces, hplace.isFull_eq_false_iff.mp hfull, rfl⟩
  · by_cases hop' : op = .ret
    · subst hop'
      have hempty : s.stack.isEmpty = false := hret rfl
      exact .inr (.inl ⟨hfaces, hplace.isEmpty_eq_false_iff.mp hempty, rfl, rfl⟩)
    · refine .inr (.inr ⟨fun h => hop (hfaces.unique h), fun h => hop' (hfaces.unique h), ?_⟩)
      show (s.fetched.perform ⟨op, s.nextCode⟩).stack = s.stack
      rw [stack_perform, if_neg hop, if_neg hop']
      rfl

/-- A call fails for want of a slot and for no other reason. -/
theorem Faces.step_call_error_iff {s : State} {f : Fault} (h : s.Faces .call)
    (hplace : s.stack.InPlace) :
    s.step = .error f ↔ s.stack.contents.length = 16 ∧ f = .stackOverflow s.pc.toNat := by
  rw [h.step_eq_error_iff, refusal?_eq_some_iff, ← hplace.isFull_iff]
  constructor
  · rintro (⟨-, hfull, hf⟩ | ⟨hop, -⟩ | ⟨last, hlast, -⟩)
    · exact ⟨hfull, hf⟩
    · cases hop
    · cases hlast
  · rintro ⟨hfull, hf⟩
    exact .inl ⟨rfl, hfull, hf⟩

/-- A return fails for want of an address and for no other reason. -/
theorem Faces.step_ret_error_iff {s : State} {f : Fault} (h : s.Faces .ret)
    (hplace : s.stack.InPlace) :
    s.step = .error f ↔ s.stack.contents = [] ∧ f = .stackUnderflow s.pc.toNat := by
  rw [h.step_eq_error_iff, refusal?_eq_some_iff, ← hplace.isEmpty_iff]
  constructor
  · rintro (⟨hop, -⟩ | ⟨-, hempty, hf⟩ | ⟨last, hlast, -⟩)
    · cases hop
    · exact ⟨hempty, hf⟩
    · cases hlast
  · rintro ⟨hempty, hf⟩
    exact .inr (.inl ⟨rfl, hempty, hf⟩)

/-! ## Noting return addresses -/

/-- The return addresses of the calls that have not returned, the latest
first. -/
def noteReturn (s : State) : Call → List Nat → List Nat
  | .step, pending =>
    if s.Faces .call then (s.pc.toNat + 2) :: pending
    else if s.Faces .ret then pending.tail
    else pending
  | .reset, _ => []
  | _, pending => pending

/-- The stack of a machine holds the addresses that were noted. -/
structure Returns (s : State) (pending : List Nat) : Prop where
  inPlace : s.stack.InPlace
  contents : s.stack.contents.map UInt16.toNat = pending
  fits : s.program.length ≤ programLimit

theorem returns_fresh {program : List UInt8} (rng : Key) (h : program.length ≤ programLimit) :
    (fresh program rng).Returns [] :=
  ⟨Stack.inPlace_empty, by rw [fresh, Stack.contents_empty]; rfl, h⟩

theorem Returns.length_eq {s : State} {pending : List Nat} (h : s.Returns pending) :
    s.stack.contents.length = pending.length := by
  rw [← h.contents, List.length_map]

theorem Returns.contents_eq_nil_iff {s : State} {pending : List Nat} (h : s.Returns pending) :
    s.stack.contents = [] ↔ pending = [] := by
  rw [← h.contents, List.map_eq_nil_iff]

/-- What a step does to the stack, it does to the notes. -/
theorem Returns.step {s s' : State} {pending : List Nat} (h : s.Returns pending)
    (hs : s.step = .ok s') : s'.Returns (s.noteReturn .step pending) := by
  have hfits : s'.program.length ≤ programLimit := by
    rw [program_step hs]
    exact h.fits
  rw [noteReturn]
  rcases stack_step h.inPlace hs with
    ⟨hcall, hroom, hstack⟩ | ⟨hret, hne, hstack, -⟩ | ⟨hcall, hret, hstack⟩
  · -- a call, and below the end of memory the address behind it is no wrap
    rw [if_pos hcall]
    refine ⟨hstack ▸ h.inPlace.push hroom _, ?_, hfits⟩
    rw [hstack, h.inPlace.contents_push hroom, List.map_cons, hcall.toNat_next, h.contents]
  · -- a return
    have hcall : ¬ s.Faces .call := fun hcall => by cases hcall.unique hret
    rw [if_neg hcall, if_pos hret]
    refine ⟨hstack ▸ Stack.inPlace_drop hne, ?_, hfits⟩
    rw [hstack, ← h.contents, Stack.contents_eq_cons hne, List.map_cons, List.tail_cons]
  · rw [if_neg hcall, if_neg hret]
    exact ⟨hstack ▸ h.inPlace, hstack ▸ h.contents, hfits⟩

/-- Every call keeps stack and notes together. -/
theorem Returns.perform {s s' : State} {pending : List Nat} {c : Call} (hc : c.isSingle)
    (hs : c.perform s = .ok s') (h : s.Returns pending) : s'.Returns (s.noteReturn c pending) := by
  cases c with
  | step => exact h.step (Call.perform_step.mp hs)
  | tick =>
      cases Call.perform_tick.mp hs
      exact ⟨h.inPlace, h.contents, h.fits⟩
  | reset =>
      obtain ⟨hfits, rfl⟩ := Call.perform_reset.mp hs
      exact returns_fresh s.rng hfits
  | setKey key down =>
      obtain ⟨k, -, rfl⟩ := Call.perform_setKey.mp hs
      exact ⟨h.inPlace, h.contents, h.fits⟩
  | fetch | execute | run | frame => cases hc

/-- Stack and notes agree at the end of every run. -/
theorem returns_after {program : List UInt8} {rng : Key} {s₀ : State}
    (hload : load program rng = .ok s₀) {calls : List Call} (hcalls : ∀ c ∈ calls, c.isSingle) :
    (s₀.after calls).Returns (s₀.track noteReturn calls []) := by
  obtain ⟨hfits, rfl⟩ := load_eq_ok_iff.mp hload
  exact track_kept (fun hc hs h => h.perform hc hs) hcalls (returns_fresh rng hfits)

/-- With fewer than sixteen addresses pending a call succeeds. -/
theorem Returns.step_call {s : State} {pending : List Nat} (h : s.Returns pending)
    (hfaces : s.Faces .call) (hroom : pending.length < 16) : ∃ s', s.step = .ok s' := by
  apply exists_ok_of_ne_error
  intro f hs
  have h16 := ((hfaces.step_call_error_iff h.inPlace).mp hs).1
  rw [h.length_eq] at h16
  omega

/-- With an address pending a return succeeds, and it goes on at the latest. -/
theorem Returns.step_ret {s : State} {pending : List Nat} (h : s.Returns pending)
    (hfaces : s.Faces .ret) (hne : pending ≠ []) :
    ∃ s', s.step = .ok s' ∧ pending.head? = some s'.pc.toNat := by
  have hcontents : s.stack.contents ≠ [] := fun hnil => hne (h.contents_eq_nil_iff.mp hnil)
  have hok : ∃ s', s.step = .ok s' := by
    apply exists_ok_of_ne_error
    intro f hs
    exact hcontents ((hfaces.step_ret_error_iff h.inPlace).mp hs).1
  obtain ⟨s', hs⟩ := hok
  refine ⟨s', hs, ?_⟩
  rcases stack_step h.inPlace hs with ⟨hcall, -⟩ | ⟨-, -, -, hpc⟩ | ⟨-, hnot, -⟩
  · cases hcall.unique hfaces
  · rw [← h.contents, Stack.contents_eq_cons hcontents, List.map_cons, List.head?_cons, hpc]
  · exact absurd hfaces hnot

/-! ## Matching calls and returns -/

/-- Notes that are not cut below a list that they end in still end in it. -/
theorem suffix_noteReturn {s : State} {c : Call} {kept pending : List Nat}
    (h : kept <:+ pending) (hpos : kept ≠ [])
    (hle : kept.length ≤ (s.noteReturn c pending).length) : kept <:+ s.noteReturn c pending := by
  cases c with
  | step =>
      rw [noteReturn] at hle ⊢
      split
      · exact h.trans (List.suffix_cons _ _)
      · split
        · -- a return takes the front away, which lies above what is kept
          rename_i hcall hret
          rw [if_neg hcall, if_pos hret] at hle
          cases pending with
          | nil => exact absurd (List.suffix_nil.mp h) hpos
          | cons a rest =>
              rcases List.suffix_cons_iff.mp h with heq | hrest
              · rw [heq] at hle
                exact absurd hle (by simp)
              · exact hrest
        · exact h
  | reset => exact absurd (List.length_eq_zero_iff.mp (Nat.le_zero.mp hle)) hpos
  | tick | fetch | execute | setKey | run | frame => exact h

/-- The same along a run. -/
theorem suffix_track {kept : List Nat} (hpos : kept ≠ []) {calls : List Call} {s : State}
    {pending : List Nat} (h : kept <:+ pending)
    (hle : ∀ part, part <+: calls → kept.length ≤ (s.track noteReturn part pending).length) :
    kept <:+ s.track noteReturn calls pending := by
  induction calls generalizing s pending with
  | nil => exact h
  | cons c calls ih =>
      have hfirst := hle [c] ⟨calls, rfl⟩
      have hrest : ∀ part, part <+: calls →
          kept.length ≤ (s.track noteReturn (c :: part) pending).length :=
        fun part hpart => hle (c :: part) ((List.cons_prefix_cons).mpr ⟨rfl, hpart⟩)
      simp only [track] at hfirst hrest ⊢
      cases hs : c.perform s with
      | ok s' =>
          simp only [hs] at hfirst hrest ⊢
          exact ih (suffix_noteReturn h hpos hfirst) hrest
      | error e =>
          simp only [hs] at hrest ⊢
          exact ih h hrest

/-- After `before` the machine made a call, and it has not returned from it in
`between`: at every moment more addresses were pending than before the call. -/
def CallOpen (s₀ : State) (before between : List Call) : Prop :=
  (s₀.after before).Faces .call ∧ (∃ s, (s₀.after before).step = .ok s) ∧
    ∀ part, part <+: between →
      (s₀.track noteReturn before []).length <
        (s₀.track noteReturn (before ++ .step :: part) []).length

/-- While a call is open the address behind it is pending, on top of those
that were pending before it. -/
theorem CallOpen.suffix {s₀ : State} {before between : List Call} (h : s₀.CallOpen before between) :
    (((s₀.after before).pc.toNat + 2) :: s₀.track noteReturn before []) <:+
      s₀.track noteReturn (before ++ .step :: between) [] := by
  obtain ⟨hcall, ⟨s, hs⟩, hlt⟩ := h
  have hstep : Call.step.perform (s₀.after before) = .ok s := Call.perform_step.mpr hs
  have hmade : ∀ part, s₀.track noteReturn (before ++ .step :: part) [] =
      s.track noteReturn part
        (((s₀.after before).pc.toNat + 2) :: s₀.track noteReturn before []) := by
    intro part
    rw [track_append, track, hstep]
    simp only [noteReturn, if_pos hcall]
  simp only [hmade] at hlt ⊢
  exact suffix_track (List.cons_ne_nil _ _) (List.suffix_refl _) hlt

/-- As soon as one more address is pending than before an open call, it is the
one behind that call. -/
theorem CallOpen.track_eq {s₀ : State} {before between : List Call}
    (h : s₀.CallOpen before between)
    (hlength : (s₀.track noteReturn (before ++ .step :: between) []).length =
      (s₀.track noteReturn before []).length + 1) :
    s₀.track noteReturn (before ++ .step :: between) [] =
      ((s₀.after before).pc.toNat + 2) :: s₀.track noteReturn before [] :=
  (h.suffix.eq_of_length hlength.symm).symm

/-- **Subroutine discipline.** At the end of every run of single calls the
stack holds the noted return addresses, so its depth is their number and at
most sixteen. A call fails for want of a slot exactly if sixteen are pending
and succeeds otherwise; a return fails for want of an address exactly if none
is pending and otherwise goes on at the latest. In particular a return that
leaves as many pending as there were before some open call goes on right
behind that call. -/
theorem stack_mirrors_returns {program : List UInt8} {rng : Key} {s₀ : State}
    (hload : load program rng = .ok s₀) {calls : List Call} (hcalls : ∀ c ∈ calls, c.isSingle) :
    let s := s₀.after calls
    let pending := s₀.track noteReturn calls []
    s.stack.contents.map UInt16.toNat = pending ∧
    s.stack.depth = pending.length ∧ pending.length ≤ 16 ∧
    (s.Faces .call →
      ((∃ a, s.step = .error (.stackOverflow a)) ↔ pending.length = 16) ∧
      (pending.length < 16 → ∃ s', s.step = .ok s')) ∧
    (s.Faces .ret →
      ((∃ a, s.step = .error (.stackUnderflow a)) ↔ pending = []) ∧
      (pending ≠ [] → ∃ s', s.step = .ok s') ∧
      (∀ s', s.step = .ok s' → pending.head? = some s'.pc.toNat) ∧
      ∀ before between, calls = before ++ .step :: between → s₀.CallOpen before between →
        pending.length = (s₀.track noteReturn before []).length + 1 →
        ∃ s', s.step = .ok s' ∧ s'.pc.toNat = (s₀.after before).pc.toNat + 2) := by
  intro s pending
  have h : s.Returns pending := returns_after hload hcalls
  have hle : pending.length ≤ 16 := h.length_eq ▸ s.stack.length_contents_le
  refine ⟨h.contents, h.inPlace.depth_eq.trans h.length_eq, hle, fun hfaces => ⟨?_, ?_⟩,
    fun hfaces => ⟨?_, ?_, ?_, ?_⟩⟩
  · simp only [hfaces.step_call_error_iff h.inPlace, h.length_eq]
    exact ⟨fun ⟨_, h16, _⟩ => h16, fun h16 => ⟨_, h16, rfl⟩⟩
  · exact h.step_call hfaces
  · simp only [hfaces.step_ret_error_iff h.inPlace, h.contents_eq_nil_iff]
    exact ⟨fun ⟨_, hnil, _⟩ => hnil, fun hnil => ⟨_, hnil, rfl⟩⟩
  · intro hne
    obtain ⟨s', hs, -⟩ := h.step_ret hfaces hne
    exact ⟨s', hs⟩
  · intro s' hs
    have hne : pending ≠ [] := by
      intro hnil
      have hfail := (hfaces.step_ret_error_iff h.inPlace).mpr
        ⟨h.contents_eq_nil_iff.mpr hnil, rfl⟩
      rw [hs] at hfail
      cases hfail
    obtain ⟨t, ht, hhead⟩ := h.step_ret hfaces hne
    rw [hs] at ht
    cases ht
    exact hhead
  · intro before between hsplit hopen hlength
    have hpending : pending = ((s₀.after before).pc.toNat + 2) :: s₀.track noteReturn before [] := by
      subst hsplit
      exact hopen.track_eq hlength
    obtain ⟨s', hs, hhead⟩ := h.step_ret hfaces (hpending ▸ List.cons_ne_nil _ _)
    rw [hpending, List.head?_cons] at hhead
    exact ⟨s', hs, (Option.some.inj hhead).symm⟩

/-- A call, a tick, and a return that goes on behind the call. -/
theorem stack_mirrors_returns_one_call :
    let s₀ := fresh [0x22, 0x04, 0x12, 0x02, 0x00, 0xEE] ⟨0, 7⟩
    let s := s₀.after [.step, .tick]
    s.stack.contents.map UInt16.toNat = [0x202] ∧ s₀.CallOpen [] [.tick] ∧
      ∃ s', s.step = .ok s' ∧ s'.pc.toNat = s₀.pc.toNat + 2 := by
  intro s₀ s
  obtain ⟨hcontents, -, -, -, hret⟩ :=
    stack_mirrors_returns (show load s₀.program s₀.rng = .ok s₀ from rfl)
      (show ∀ c ∈ [.step, .tick], Call.isSingle c by decide)
  obtain ⟨hfaces, hpending, hcall, hmade, hfirst⟩ : s.Faces .ret ∧
      s₀.track noteReturn [.step, .tick] [] = [0x202] ∧ s₀.Faces .call ∧
      s₀.step.isOk = true ∧ s₀.track noteReturn [.step] [] = [0x202] := by
    decide +kernel
  have hopen : s₀.CallOpen [] [.tick] := by
    refine ⟨hcall, ?_, fun part hpart => ?_⟩
    · exact exists_ok_of_isOk hmade
    · -- one address is pending before the tick and behind it
      rcases List.prefix_cons_iff.mp hpart with rfl | ⟨rest, rfl, hrest⟩
      · show _ < (s₀.track noteReturn [.step] []).length
        rw [hfirst]
        exact Nat.zero_lt_one
      · rw [List.prefix_nil.mp hrest]
        show _ < (s₀.track noteReturn [.step, .tick] []).length
        rw [hpending]
        exact Nat.zero_lt_one
  obtain ⟨-, -, -, hmatch⟩ := hret hfaces
  refine ⟨hcontents.trans hpending, hopen, hmatch [] [.tick] rfl hopen ?_⟩
  show (s₀.track noteReturn [.step, .tick] []).length = 1
  rw [hpending]
  rfl

end State

end Chip8
