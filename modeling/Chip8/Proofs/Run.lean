import Chip8.Proofs.Step

/-!
# Runs of calls

What holds of a run is proved call by call: a property that every successful
call keeps holds at the end of the run (`State.after_kept`), and so does a
relation between the state and something that is written down beside the run
(`State.track`, `State.track_kept`). A call that fails leaves the state and the
notes as they were, so only successful calls are looked at.

The predicates on calls say how far a run may interfere with single
instructions: not at all and one step at a time (`Call.isSingle`), not at all
(`Call.isWhole`), or one instruction at a time, which the host may also hand in
as a code (`Call.isAtomic`, and without a reset `Call.isPlain`), or also fetch
and leave (`Call.isElementary`). What a host can tell of such a run, apart from
the states, is a list of events (`State.events`).
-/

namespace Chip8

open Layout

section Result

variable {ε α : Type} {r : Except ε α}

theorem exists_ok_of_isOk (h : r.isOk = true) : ∃ a, r = .ok a := by
  cases r with
  | error e => cases h
  | ok a => exact ⟨a, rfl⟩

theorem exists_ok_of_ne_error (h : ∀ e, r ≠ .error e) : ∃ a, r = .ok a := by
  cases r with
  | error e => exact absurd rfl (h e)
  | ok a => exact ⟨a, rfl⟩

end Result

theorem liftFault_eq_ok_iff {α : Type} {r : Except Fault α} {a : α} :
    liftFault r = .ok a ↔ r = .ok a := by
  cases r with
  | error f =>
      constructor <;> intro h <;> cases h
  | ok b =>
      constructor <;> intro h <;> cases h <;> rfl

theorem liftFault_eq_error_iff {α : Type} {r : Except Fault α} {e : CallError} :
    liftFault r = .error e ↔ ∃ f, r = .error f ∧ e = .fault f := by
  cases r with
  | error f =>
      constructor
      · intro h
        cases h
        exact ⟨f, rfl, rfl⟩
      · rintro ⟨g, hg, rfl⟩
        cases hg
        rfl
  | ok a =>
      constructor
      · intro h
        cases h
      · rintro ⟨f, hf, -⟩
        cases hf

namespace State

/-! ## The host's calls as changes of the state -/

theorem load_eq_ok_iff {program : List UInt8} {rng : Key} {s : State} :
    load program rng = .ok s ↔ program.length ≤ programLimit ∧ s = .fresh program rng := by
  unfold load
  by_cases h : programLimit < program.length
  · rw [if_pos h]
    simp only [reduceCtorEq, show ¬ program.length ≤ programLimit by omega, false_and]
  · rw [if_neg h]
    simp only [Except.ok.injEq, show program.length ≤ programLimit by omega, true_and,
      @eq_comm _ s]

theorem setKey_eq_ok_iff {s s' : State} {key : Int} {down : Bool} :
    s.setKey key down = .ok s' ↔
      ∃ k : Fin 16, (k.val : Int) = key ∧ s' = { s with keypad := s.keypad.set k down } := by
  unfold setKey
  split
  · rename_i h
    constructor
    · intro hs
      cases hs
      refine ⟨⟨key.toNat, by omega⟩, ?_, rfl⟩
      simp only
      omega
    · rintro ⟨k, rfl, rfl⟩
      rfl
  · rename_i h
    simp only [reduceCtorEq, false_iff, not_exists]
    rintro k ⟨rfl, -⟩
    exact h ⟨by omega, by omega⟩

theorem runFrame_eq_ok_iff {s s' : State} {n : Int} :
    s.runFrame n = .ok s' ↔ ∃ t, s.steps n.toNat = .ok t ∧ s' = t.tick := by
  unfold runFrame runInstructions
  cases s.steps n.toNat with
  | error f => simp
  | ok t => simp [eq_comm]

/-- What every successful step keeps holds after any number of them. -/
theorem steps_kept {P : State → Prop} (keep : ∀ {s s'}, s.step = .ok s' → P s → P s')
    {n : Nat} {s s' : State} (hn : s.steps n = .ok s') (h : P s) : P s' := by
  induction n generalizing s with
  | zero =>
      cases hn
      exact h
  | succ n ih =>
      rw [steps] at hn
      cases hs : s.step with
      | error f =>
          rw [hs] at hn
          cases hn
      | ok t =>
          rw [hs] at hn
          exact ih hn (keep hs h)

end State

namespace Call

/-- Whether a call runs instructions in whole steps only, so that no fetch is
without its instruction and no instruction without its fetch. -/
def isWhole : Call → Bool
  | fetch | execute _ => false
  | _ => true

/-- Whether a call runs instructions in whole steps only and at most one of
them. -/
def isSingle : Call → Bool
  | step | tick | reset | setKey _ _ => true
  | _ => false

/-- Whether a call runs at most one instruction, be it fetched or given as a
signed code of 32 bits. -/
def isAtomic : Call → Bool
  | execute code => code.isSigned32
  | c => c.isSingle

/-- Whether a call runs at most one instruction and never goes back to the
stored program. -/
def isPlain : Call → Bool
  | step | tick | execute _ | setKey _ _ => true
  | _ => false

/-- Whether a call runs at most one instruction. -/
def isElementary : Call → Bool
  | run _ | frame _ => false
  | _ => true

/-- Whether a call runs an instruction, fetched or handed in. -/
def isInstruction : Call → Bool
  | step | execute _ => true
  | _ => false

section Perform

variable {s s' : State}

theorem perform_step : perform s step = .ok s' ↔ s.step = .ok s' := liftFault_eq_ok_iff

theorem perform_tick : perform s tick = .ok s' ↔ s' = s.tick := by
  rw [perform, Except.ok.injEq, eq_comm]

theorem perform_reset :
    perform s reset = .ok s' ↔
      s.program.length ≤ programLimit ∧ s' = .fresh s.program s.rng := by
  rw [perform, liftFault_eq_ok_iff, State.reset, State.load_eq_ok_iff]

theorem perform_fetch :
    perform s fetch = .ok s' ↔ s.pc.toNat < 0xFFF ∧ s' = s.fetched := by
  rw [perform, State.fetch_eq]
  by_cases h : 0xFFF ≤ s.pc.toNat
  · rw [if_pos h]
    constructor
    · intro hs
      cases hs
    · rintro ⟨hlt, -⟩
      exact absurd h (Nat.not_le.mpr hlt)
  · rw [if_neg h]
    constructor
    · intro hs
      cases hs
      exact ⟨Nat.not_le.mp h, rfl⟩
    · rintro ⟨-, rfl⟩
      rfl

theorem given_eq_ok_iff {code : Code} :
    given code s = .ok s' ↔ code.isSigned32 = true ∧ s = s' := by
  unfold given
  cases code.isSigned32 <;> simp

theorem given_eq_error_iff {code : Code} {e : CallError} :
    given code s = .error e ↔ code.isSigned32 = false ∧ e = .wideCode code := by
  unfold given
  cases code.isSigned32 <;> simp [@eq_comm _ e]

theorem perform_execute {code : Code} :
    perform s (execute code) = .ok s' ↔ code.isSigned32 = true ∧ s.execute code = .ok s' := by
  rw [perform]
  cases s.execute code with
  | error f =>
      constructor
      · intro h
        cases h
      · rintro ⟨-, h⟩
        cases h
  | ok t =>
      rw [Except.ok.injEq]
      exact given_eq_ok_iff

/-- A code that is handed in fails with the fault that it meets, or because it is too
wide for a machine that it would run on. -/
theorem perform_execute_error_iff {code : Code} {e : CallError} :
    perform s (execute code) = .error e ↔ (∃ f, s.execute code = .error f ∧ e = .fault f) ∨
      (∀ f, s.execute code ≠ .error f) ∧ code.isSigned32 = false ∧ e = .wideCode code := by
  rw [perform]
  cases s.execute code with
  | error f =>
      constructor
      · intro h
        cases h
        exact .inl ⟨f, rfl, rfl⟩
      · rintro (⟨g, hg, rfl⟩ | ⟨hnone, -⟩)
        · cases hg
          rfl
        · exact absurd rfl (hnone f)
  | ok t =>
      have hgiven : given code t = .error e ↔ _ := given_eq_error_iff
      refine hgiven.trans ⟨fun h => .inr ⟨fun f hf => ?_, h⟩, ?_⟩
      · cases hf
      · rintro (⟨f, hf, -⟩ | ⟨-, h⟩)
        · cases hf
        · exact h

theorem perform_setKey {key : Int} {down : Bool} :
    perform s (setKey key down) = .ok s' ↔
      ∃ k : Fin 16, (k.val : Int) = key ∧ s' = { s with keypad := s.keypad.set k down } :=
  State.setKey_eq_ok_iff

theorem perform_run {n : Int} :
    perform s (run n) = .ok s' ↔ s.steps n.toNat = .ok s' := liftFault_eq_ok_iff

theorem perform_frame {n : Int} :
    perform s (frame n) = .ok s' ↔ ∃ t, s.steps n.toNat = .ok t ∧ s' = t.tick := by
  rw [perform, liftFault_eq_ok_iff, State.runFrame_eq_ok_iff]

end Perform

theorem perform_step_of_error {s : State} {f : Fault} (h : s.step = .error f) :
    perform s step = .error (.fault f) := by
  rw [perform, h]
  rfl

theorem next_of_ok {s s' : State} {c : Call} (h : c.perform s = .ok s') : c.next s = s' := by
  rw [next, h]

theorem next_of_error {s : State} {c : Call} {e : CallError} (h : c.perform s = .error e) :
    c.next s = s := by
  rw [next, h]

end Call

/-! ## Events -/

/-- What a host can tell of a call, apart from the state that it leads to. -/
structure Event where
  /-- The instruction that is fetched: where it stands and its word. -/
  fetched : Option Record
  /-- The instruction that is run, fetched or handed in by the host. -/
  executed : Option Instruction
  error : Option CallError
deriving DecidableEq, Repr

namespace Call

/-- What a call fetches. -/
def fetched? (s : State) : Call → Option Record
  | step => if s.pc.toNat < 0xFFF then some ⟨s.pc, s.nextWord⟩ else none
  | _ => none

/-- The code that a call asks the machine to run. -/
def code? (s : State) : Call → Option Code
  | step => some s.nextCode
  | execute code => some code
  | _ => none

/-- What happens in a call. -/
def event (s : State) (c : Call) : Event where
  fetched := c.fetched? s
  executed :=
    match c.perform s with
    | .ok _ => (c.code? s).bind fun code => (Op.ofCode? code).map (⟨·, code⟩)
    | .error _ => none
  error :=
    match c.perform s with
    | .ok _ => none
    | .error e => some e

/-- A call that fetches and runs the same in two states and fails in both alike
does the same in both. -/
theorem event_congr {s t : State} {c : Call} (hfetched : c.fetched? s = c.fetched? t)
    (hcode : c.code? s = c.code? t)
    (herror : ∀ e, c.perform s = .error e ↔ c.perform t = .error e) : c.event s = c.event t := by
  unfold event
  rw [hfetched, hcode]
  cases hs : c.perform s with
  | error e => rw [(herror e).mp hs]
  | ok s' =>
      cases ht : c.perform t with
      | error e =>
          rw [(herror e).mpr ht] at hs
          cases hs
      | ok t' => rfl

theorem executed_of_ok {s s' : State} {c : Call} {code : Code} {op : Op}
    (hs : c.perform s = .ok s') (hcode : c.code? s = some code) (hop : Op.ofCode? code = some op) :
    (c.event s).executed = some ⟨op, code⟩ := by
  rw [event, hs, hcode, Option.bind_some, hop]
  rfl

theorem executed_of_not_isInstruction {s : State} {c : Call} (hc : c.isInstruction = false) :
    (c.event s).executed = none := by
  have hcode : c.code? s = none := by
    cases c with
    | step | execute => cases hc
    | tick | reset | fetch | setKey | run | frame => rfl
  rw [event, hcode]
  cases c.perform s <;> rfl

/-- Only calls that run an instruction and succeed have run one. -/
theorem exists_ok_of_executed {s : State} {c : Call} {i : Instruction}
    (hi : (c.event s).executed = some i) : c.isInstruction ∧ ∃ s', c.perform s = .ok s' := by
  constructor
  · cases hc : c.isInstruction with
    | true => rfl
    | false =>
        rw [executed_of_not_isInstruction hc] at hi
        cases hi
  · apply exists_ok_of_ne_error
    intro e he
    rw [event, he] at hi
    cases hi

/-- The state in which a call runs its instruction: a step has fetched it. -/
def ready (s : State) : Call → State
  | step => s.fetched
  | _ => s

/-- An instruction that succeeds does what its operation does and is recorded. -/
theorem exists_executed_of_ok {s s' : State} {c : Call} (hc : c.isInstruction)
    (hs : c.perform s = .ok s') :
    ∃ i t, (c.event s).executed = some i ∧ s' = { (c.ready s).perform i with trace := t } := by
  cases c with
  | step =>
      obtain ⟨op, hop, -, hs'⟩ :=
        State.execute_eq_ok_iff.mp (State.execute_of_step (perform_step.mp hs))
      exact ⟨⟨op, s.nextCode⟩, _, executed_of_ok hs rfl hop, hs'⟩
  | execute code =>
      obtain ⟨op, hop, -, hs'⟩ := State.execute_eq_ok_iff.mp (perform_execute.mp hs).2
      exact ⟨⟨op, code⟩, _, executed_of_ok hs rfl hop, hs'⟩
  | tick | reset | fetch | setKey | run | frame => cases hc

end Call

namespace State

/-- What happens in a run, call by call. -/
def events : State → List Call → List Event
  | _, [] => []
  | s, c :: calls => c.event s :: (c.next s).events calls

/-! ## Invariants and notes -/

variable {γ : Type} {allowed : Call → Bool}

/-- Notes taken along a run: `note s c g` is what stands there after the call
`c` has succeeded on the state `s`, if `g` stood there before. -/
def track (note : State → Call → γ → γ) : State → List Call → γ → γ
  | _, [], g => g
  | s, c :: calls, g =>
    match c.perform s with
    | .ok s' => track note s' calls (note s c g)
    | .error _ => track note s calls g

section Cons

variable {s s' : State} {c : Call}

theorem after_cons_of_ok (hs : c.perform s = .ok s') (calls : List Call) :
    s.after (c :: calls) = s'.after calls := by
  show (c.next s).after calls = s'.after calls
  rw [Call.next_of_ok hs]

theorem after_cons_of_error {e : CallError} (hs : c.perform s = .error e) (calls : List Call) :
    s.after (c :: calls) = s.after calls := by
  show (c.next s).after calls = s.after calls
  rw [Call.next_of_error hs]

theorem track_cons_of_ok (note : State → Call → γ → γ) (hs : c.perform s = .ok s')
    (calls : List Call) (g : γ) :
    s.track note (c :: calls) g = s'.track note calls (note s c g) := by
  rw [track, hs]

theorem track_cons_of_error {e : CallError} (note : State → Call → γ → γ)
    (hs : c.perform s = .error e) (calls : List Call) (g : γ) :
    s.track note (c :: calls) g = s.track note calls g := by
  rw [track, hs]

end Cons

theorem after_append (s : State) (calls more : List Call) :
    s.after (calls ++ more) = (s.after calls).after more :=
  List.foldl_append

theorem track_append (note : State → Call → γ → γ) (s : State) (calls more : List Call) (g : γ) :
    s.track note (calls ++ more) g = (s.after calls).track note more (s.track note calls g) := by
  induction calls generalizing s g with
  | nil => rfl
  | cons c calls ih =>
      rw [List.cons_append]
      cases hs : c.perform s with
      | ok s' =>
          rw [track_cons_of_ok note hs, track_cons_of_ok note hs, after_cons_of_ok hs]
          exact ih s' _
      | error e =>
          rw [track_cons_of_error note hs, track_cons_of_error note hs, after_cons_of_error hs]
          exact ih s g

/-- A relation between state and notes that every successful call keeps holds
at the end of a run. -/
theorem track_kept {P : State → γ → Prop} {note : State → Call → γ → γ}
    (keep : ∀ {s s' c g}, allowed c → c.perform s = .ok s' → P s g → P s' (note s c g))
    {calls : List Call} (hcalls : ∀ c ∈ calls, allowed c) {s : State} {g : γ} (h : P s g) :
    P (s.after calls) (s.track note calls g) := by
  induction calls generalizing s g with
  | nil => exact h
  | cons c calls ih =>
      have hc : allowed c := hcalls c List.mem_cons_self
      have hrest : ∀ c ∈ calls, allowed c := fun c' hc' => hcalls c' (List.mem_cons_of_mem _ hc')
      cases hs : c.perform s with
      | ok s' =>
          rw [after_cons_of_ok hs, track_cons_of_ok note hs]
          exact ih hrest (keep hc hs h)
      | error e =>
          rw [after_cons_of_error hs, track_cons_of_error note hs]
          exact ih hrest h

/-- A property that every successful call keeps holds at the end of a run. -/
theorem after_kept {P : State → Prop}
    (keep : ∀ {s s' c}, allowed c → c.perform s = .ok s' → P s → P s')
    {calls : List Call} (hcalls : ∀ c ∈ calls, allowed c) {s : State} (h : P s) :
    P (s.after calls) := by
  induction calls generalizing s with
  | nil => exact h
  | cons c calls ih =>
      have hc : allowed c := hcalls c List.mem_cons_self
      have hrest : ∀ c ∈ calls, allowed c := fun c' hc' => hcalls c' (List.mem_cons_of_mem _ hc')
      cases hs : c.perform s with
      | ok s' =>
          rw [after_cons_of_ok hs]
          exact ih hrest (keep hc hs h)
      | error e =>
          rw [after_cons_of_error hs]
          exact ih hrest h

end State

end Chip8
