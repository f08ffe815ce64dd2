import Chip8.Proofs.Run

/-!
# Host events between instructions

The host ticks the timers and moves the keys, the program runs instructions. An
instruction that looks at neither timers nor keys does not notice what the host
has done in between (`Call.Unnoticed`), so it can be swapped with a tick and with
a key (`Call.Unnoticed.swaps`), errors included. Whatever the order in which
steps, keys and ticks come, the machine ends where it does if all steps come
first, then the keys, then the ticks, and each step does the same in both orders
(`State.host_events_commute`).
-/

namespace Chip8

/-- The operations that read or set a timer. -/
def Op.usesTimers : Op → Bool
  | .getDelay | .setDelay | .setSound => true
  | _ => false

/-- The operations that look at the keypad. -/
def Op.usesKeypad : Op → Bool
  | .skp | .sknp | .waitKey => true
  | _ => false

/-- Two calls that can be swapped in a state: both orders lead to the same
state, and in both each of the two fetches, runs and raises the same. -/
structure State.Swaps (s : State) (c d : Call) : Prop where
  next_eq : d.next (c.next s) = c.next (d.next s)
  event_fst : c.event (d.next s) = c.event s
  event_snd : d.event (c.next s) = d.event s

namespace Call

/-- A call whose effect shows in no instruction, unless in one of the operations
`seen`, and that happens in the same way in all states. -/
structure Unnoticed (seen : Op → Bool) (d : Call) : Prop where
  event_eq : ∀ s t, d.event s = d.event t
  pc_eq : ∀ s, (d.next s).pc = s.pc
  memory_eq : ∀ s, (d.next s).memory = s.memory
  stack_eq : ∀ s, (d.next s).stack = s.stack
  index_eq : ∀ s, (d.next s).index = s.index
  trace_eq : ∀ s, (d.next s).trace = s.trace
  fetched_eq : ∀ s, (d.next s).fetched = d.next s.fetched
  perform_eq : ∀ s i t, seen i.op = false →
    { (d.next s).perform i with trace := t } = d.next { s.perform i with trace := t }

theorem next_tick (s : State) : tick.next s = s.tick := rfl

theorem unnoticed_tick : tick.Unnoticed Op.usesTimers where
  event_eq _ _ := rfl
  pc_eq _ := rfl
  memory_eq _ := rfl
  stack_eq _ := rfl
  index_eq _ := rfl
  trace_eq _ := rfl
  fetched_eq _ := rfl
  perform_eq := by
    intro s i t hop
    simp only [next_tick]
    unfold State.perform
    cases h : i.op
    case getDelay | setDelay | setSound =>
      rw [h] at hop
      cases hop
    all_goals rfl

/-- A key call changes the keypad, if there is such a key, and nothing else. -/
theorem exists_next_setKey (key : Int) (down : Bool) :
    ∃ f : Keypad → Keypad,
      ∀ s, (setKey key down).next s = { s with keypad := f s.keypad } := by
  by_cases hkey : 0 ≤ key ∧ key < 16
  · refine ⟨(·.set ⟨key.toNat, by omega⟩ down), fun s => ?_⟩
    simp only [next, perform, State.setKey, dif_pos hkey]
  · refine ⟨id, fun s => ?_⟩
    simp only [next, perform, State.setKey, dif_neg hkey, id]

theorem event_setKey (key : Int) (down : Bool) (s t : State) :
    (setKey key down).event s = (setKey key down).event t := by
  refine event_congr rfl rfl fun e => ?_
  simp only [perform, State.setKey]
  split <;> simp

theorem unnoticed_setKey (key : Int) (down : Bool) :
    (setKey key down).Unnoticed Op.usesKeypad := by
  obtain ⟨f, hnext⟩ := exists_next_setKey key down
  exact
    { event_eq := event_setKey key down
      pc_eq := fun s => by rw [hnext]
      memory_eq := fun s => by rw [hnext]
      stack_eq := fun s => by rw [hnext]
      index_eq := fun s => by rw [hnext]
      trace_eq := fun s => by rw [hnext]
      fetched_eq := fun s => by rw [hnext, hnext]; rfl
      perform_eq := by
        intro s i t hop
        simp only [hnext]
        unfold State.perform
        cases h : i.op
        case skp | sknp | waitKey =>
          rw [h] at hop
          cases hop
        all_goals rfl }

namespace Unnoticed

variable {seen : Op → Bool} {d : Call} (h : d.Unnoticed seen)
include h

/-! ## One instruction -/

theorem instructionAddress_eq (s : State) :
    (d.next s).instructionAddress = s.instructionAddress := by
  rw [State.instructionAddress, State.instructionAddress, h.pc_eq]

theorem refusal?_eq (s : State) (i : Instruction) (a : Int) :
    (d.next s).refusal? i a = s.refusal? i a := by
  rw [State.refusal?, State.refusal?, h.stack_eq, h.index_eq]

theorem execute_error_iff (s : State) (code : Code) (f : Fault) :
    (d.next s).execute code = .error f ↔ s.execute code = .error f := by
  simp only [State.execute_eq_error_iff, h.instructionAddress_eq, h.refusal?_eq]

theorem execute_ok {s s' : State} {code : Code} (hs : s.execute code = .ok s')
    (hfree : ∀ op, Op.ofCode? code = some op → seen op = false) :
    (d.next s).execute code = .ok (d.next s') := by
  obtain ⟨op, hop, hrun, rfl⟩ := State.execute_eq_ok_iff.mp hs
  refine State.execute_eq_ok_iff.mpr ⟨op, hop, ?_, ?_⟩
  · rw [h.instructionAddress_eq, h.refusal?_eq]
    exact hrun
  · rw [h.instructionAddress_eq, h.trace_eq]
    exact (h.perform_eq s ⟨op, code⟩ _ (hfree op hop)).symm

theorem nextWord_eq (s : State) : (d.next s).nextWord = s.nextWord := by
  rw [State.nextWord, State.nextWord, h.memory_eq, h.pc_eq]

theorem nextCode_eq (s : State) : (d.next s).nextCode = s.nextCode := by
  rw [State.nextCode, State.nextCode, h.nextWord_eq]

theorem step_eq (s : State) :
    (d.next s).step = if 0xFFF ≤ s.pc.toNat then .error (.memoryAccess (s.pc.toNat + 1 : Nat) none)
      else (d.next s.fetched).execute s.nextCode := by
  rw [State.step_eq, h.pc_eq, h.fetched_eq, h.nextCode_eq]

theorem perform_error_iff {c : Call} (hc : c.isInstruction) (s : State) (e : CallError) :
    c.perform (d.next s) = .error e ↔ c.perform s = .error e := by
  cases c with
  | step =>
      simp only [perform, liftFault_eq_error_iff, h.step_eq, s.step_eq]
      split
      · exact Iff.rfl
      · simp only [h.execute_error_iff]
  | execute code => simp only [perform_execute_error_iff, ne_eq, h.execute_error_iff]
  | tick | reset | fetch | setKey | run | frame => cases hc

theorem perform_ok {c : Call} {s s' : State} (hc : c.isInstruction) (hs : c.perform s = .ok s')
    (hfree : ∀ i ∈ (c.event s).executed, seen i.op = false) :
    c.perform (d.next s) = .ok (d.next s') := by
  cases c with
  | step =>
      have hnext : ∀ op, Op.ofCode? s.nextCode = some op → seen op = false :=
        fun op hop => hfree ⟨op, s.nextCode⟩ (executed_of_ok hs rfl hop)
      rw [perform_step, s.step_eq] at hs
      rw [perform_step, h.step_eq]
      split at hs
      · cases hs
      · rw [if_neg ‹_›]
        exact h.execute_ok hs hnext
  | execute code =>
      have hnext : ∀ op, Op.ofCode? code = some op → seen op = false :=
        fun op hop => hfree ⟨op, code⟩ (executed_of_ok hs rfl hop)
      obtain ⟨hcode, hrun⟩ := perform_execute.mp hs
      exact perform_execute.mpr ⟨hcode, h.execute_ok hrun hnext⟩
  | tick | reset | fetch | setKey | run | frame => cases hc

/-- Whether an instruction succeeds or fails, and how, the host does not
change. -/
theorem event_next {c : Call} (hc : c.isInstruction) (s : State) :
    c.event (d.next s) = c.event s := by
  refine event_congr ?_ ?_ (h.perform_error_iff hc s)
  · cases c <;> simp only [fetched?, h.pc_eq, h.nextWord_eq]
  · cases c <;> simp only [code?, h.nextCode_eq]

/-- An instruction can be swapped with a call that it does not notice. -/
theorem swaps {c : Call} (hc : c.isInstruction) {s : State}
    (hfree : ∀ i ∈ (c.event s).executed, seen i.op = false) : s.Swaps c d where
  next_eq := by
    cases hs : c.perform s with
    | error e => rw [next_of_error hs, next_of_error ((h.perform_error_iff hc s e).mpr hs)]
    | ok s' => rw [next_of_ok hs, next_of_ok (h.perform_ok hc hs hfree)]
  event_fst := h.event_next hc s
  event_snd := h.event_eq _ _

/-! ## A run of instructions -/

/-- A call that no step notices can be put off until the steps are over. -/
theorem after_steps {n : Nat} {s : State}
    (hfree : ∀ e ∈ (d.next s).events (.replicate n .step), ∀ i ∈ e.executed, seen i.op = false) :
    (d.next s).after (.replicate n .step) = d.next (s.after (.replicate n .step)) ∧
      (d.next s).events (.replicate n .step) = s.events (.replicate n .step) := by
  -- by induction on the steps for all states: the call passes the first step, and
  -- what the others run is known from the run in which it comes first
  induction n generalizing s with
  | zero => exact ⟨rfl, rfl⟩
  | succ n ih =>
      rw [List.replicate_succ, State.events] at hfree
      have hevent := h.event_next (c := .step) rfl s
      have hswap := h.swaps (c := .step) (s := s) rfl fun i hi =>
        hfree _ List.mem_cons_self i (by rw [hevent]; exact hi)
      rw [← hswap.next_eq] at hfree
      obtain ⟨hend, hevents⟩ := ih fun e he => hfree e (List.mem_cons_of_mem _ he)
      constructor
      · show (step.next (d.next s)).after (.replicate n .step) = _
        rw [← hswap.next_eq, hend]
        rfl
      · rw [List.replicate_succ, State.events, State.events, ← hswap.next_eq, hevents, hevent]

end Unnoticed

end Call

/-! ## Interleavings -/

/-- A run in which `n` steps, the given keys in their order, and `m` ticks come in
any order. -/
inductive Interleaving : Nat → List (Int × Bool) → Nat → List Call → Prop
  | nil : Interleaving 0 [] 0 []
  | step {n keys m calls} (rest : Interleaving n keys m calls) :
      Interleaving (n + 1) keys m (.step :: calls)
  | setKey {n keys m calls} (key : Int) (down : Bool) (rest : Interleaving n keys m calls) :
      Interleaving n ((key, down) :: keys) m (.setKey key down :: calls)
  | tick {n keys m calls} (rest : Interleaving n keys m calls) :
      Interleaving n keys (m + 1) (.tick :: calls)

/-- The same run in order: first the steps, then the keys, then the ticks. -/
def inOrder (n : Nat) (keys : List (Int × Bool)) (m : Nat) : List Call :=
  .replicate n .step ++ (keys.map fun k => .setKey k.1 k.2) ++ .replicate m .tick

namespace State

/-- What happens in the steps of a run, one after the other. -/
def stepEvents : State → List Call → List Event
  | _, [] => []
  | s, c :: calls =>
    if c = .step then c.event s :: (c.next s).stepEvents calls else (c.next s).stepEvents calls

theorem mem_events_of_mem_stepEvents {s : State} {calls : List Call} {e : Event}
    (he : e ∈ s.stepEvents calls) : e ∈ s.events calls := by
  induction calls generalizing s with
  | nil => exact he
  | cons c calls ih =>
      rw [stepEvents] at he
      rw [events]
      split at he
      · rcases List.mem_cons.mp he with rfl | he
        · exact List.mem_cons_self
        · exact List.mem_cons_of_mem _ (ih he)
      · exact List.mem_cons_of_mem _ (ih he)

theorem stepEvents_of_not_mem {s : State} {calls : List Call} (h : .step ∉ calls) :
    s.stepEvents calls = [] := by
  induction calls generalizing s with
  | nil => rfl
  | cons c calls ih =>
      have hc : c ≠ .step := fun hc => h (hc ▸ List.mem_cons_self)
      rw [stepEvents, if_neg hc]
      exact ih fun hmem => h (List.mem_cons_of_mem _ hmem)

theorem stepEvents_steps_append (n : Nat) (s : State) {calls : List Call} (h : .step ∉ calls) :
    s.stepEvents (.replicate n .step ++ calls) = s.events (.replicate n .step) := by
  induction n generalizing s with
  | zero => exact stepEvents_of_not_mem h
  | succ n ih =>
      rw [List.replicate_succ, List.cons_append, stepEvents, if_pos rfl, events, ih]

/-- In order, the events of the steps are those of the steps alone. -/
theorem stepEvents_inOrder (s : State) (n : Nat) (keys : List (Int × Bool)) (m : Nat) :
    s.stepEvents (inOrder n keys m) = s.events (.replicate n .step) := by
  rw [inOrder, List.append_assoc]
  refine stepEvents_steps_append n s ?_
  intro h
  rcases List.mem_append.mp h with hkey | htick
  · obtain ⟨k, -, hk⟩ := List.mem_map.mp hkey
    cases hk
  · cases (List.mem_replicate.mp htick).2

/-- A tick and a key can always be swapped. -/
theorem swaps_tick_setKey (s : State) (key : Int) (down : Bool) :
    s.Swaps .tick (.setKey key down) where
  next_eq := by
    obtain ⟨f, hnext⟩ := Call.exists_next_setKey key down
    rw [hnext, hnext]
    rfl
  event_fst := rfl
  event_snd := Call.event_setKey key down _ _

theorem after_keys_tick (keys : List (Int × Bool)) (s : State) :
    (Call.tick.next s).after (keys.map fun k => .setKey k.1 k.2) =
      Call.tick.next (s.after (keys.map fun k => .setKey k.1 k.2)) := by
  induction keys generalizing s with
  | nil => rfl
  | cons k keys ih =>
      show (Call.next (Call.tick.next s) (.setKey k.1 k.2)).after _ = _
      rw [(swaps_tick_setKey s k.1 k.2).next_eq, ih]
      rfl

theorem after_inOrder (s : State) (n : Nat) (keys : List (Int × Bool)) (m : Nat) :
    s.after (inOrder n keys m) =
      ((s.after (.replicate n .step)).after (keys.map fun k => .setKey k.1 k.2)).after
        (.replicate m .tick) := by
  rw [inOrder, after_append, after_append]

/-- An interleaving whose steps look at neither timers nor keys can be put in
order. -/
theorem after_interleaving {n m : Nat} {keys : List (Int × Bool)} {calls : List Call}
    (h : Interleaving n keys m calls) {s : State}
    (hfree : ∀ e ∈ s.stepEvents calls, ∀ i ∈ e.executed,
      i.op.usesTimers = false ∧ i.op.usesKeypad = false) :
    s.after calls = s.after (inOrder n keys m) ∧
      s.stepEvents calls = s.stepEvents (inOrder n keys m) := by
  induction h generalizing s with
  | nil => exact ⟨rfl, rfl⟩
  | step rest ih =>
      rw [stepEvents, if_pos rfl] at hfree
      obtain ⟨hend, hevents⟩ := ih fun e he => hfree e (List.mem_cons_of_mem _ he)
      refine ⟨hend, ?_⟩
      rw [stepEvents, if_pos rfl, hevents, stepEvents_inOrder, stepEvents_inOrder]
      rfl
  | setKey key down rest ih =>
      obtain ⟨hend, hevents⟩ := ih hfree
      rw [stepEvents, if_neg (by simp), hevents, stepEvents_inOrder] at hfree
      -- the steps do not notice the key, so it waits until they are over
      obtain ⟨hsteps, hsame⟩ := (Call.unnoticed_setKey key down).after_steps
        fun e he i hi => (hfree e he i hi).2
      constructor
      · show (Call.next s (.setKey key down)).after _ = _
        rw [hend, after_inOrder, after_inOrder, hsteps]
        rfl
      · rw [stepEvents, if_neg (by simp), hevents, stepEvents_inOrder, stepEvents_inOrder, hsame]
  | tick rest ih =>
      obtain ⟨hend, hevents⟩ := ih hfree
      rw [stepEvents, if_neg (by simp), hevents, stepEvents_inOrder] at hfree
      obtain ⟨hsteps, hsame⟩ := Call.unnoticed_tick.after_steps
        fun e he i hi => (hfree e he i hi).1
      constructor
      · show (Call.next s .tick).after _ = _
        -- behind the steps the tick waits until the keys are over, too
        rw [hend, after_inOrder, after_inOrder, hsteps, after_keys_tick]
        rfl
      · rw [stepEvents, if_neg (by simp), hevents, stepEvents_inOrder, stepEvents_inOrder, hsame]

/-- **Host events commute with instructions that do not look at them.** An
instruction can be swapped with a tick unless it reads or sets a timer, and with
a key unless it looks at the keypad; ticks and keys can always be swapped. So
every interleaving of steps, keys and ticks in which no instruction of these six
operations runs ends in the state that the steps, then the keys and then the
ticks lead to, and each of its steps fetches, runs and raises what the same step
does there. -/
theorem host_events_commute (s : State) :
    (∀ c : Call, c.isInstruction → (∀ i ∈ (c.event s).executed, i.op.usesTimers = false) →
      s.Swaps c .tick) ∧
    (∀ (c : Call) (key : Int) (down : Bool), c.isInstruction →
      (∀ i ∈ (c.event s).executed, i.op.usesKeypad = false) → s.Swaps c (.setKey key down)) ∧
    (∀ (key : Int) (down : Bool), s.Swaps .tick (.setKey key down)) ∧
    ∀ n keys m calls, Interleaving n keys m calls →
      (∀ e ∈ s.events calls, ∀ i ∈ e.executed,
        i.op.usesTimers = false ∧ i.op.usesKeypad = false) →
      s.after calls = s.after (inOrder n keys m) ∧
        s.stepEvents calls = s.stepEvents (inOrder n keys m) := by
  refine ⟨?_, ?_, s.swaps_tick_setKey, ?_⟩
  · intro c hc hfree
    exact Call.unnoticed_tick.swaps hc hfree
  · intro c key down hc hfree
    exact (Call.unnoticed_setKey key down).swaps hc hfree
  · intro n keys m calls h hfree
    exact after_interleaving h fun e he => hfree e (mem_events_of_mem_stepEvents he)

/-- A step that sets a register and a return that fails, with a key and two ticks
around them. -/
theorem host_events_commute_failing_step :
    let s := { fresh [0x60, 0x05, 0x00, 0xEE] ⟨0, 7⟩ with delay := 9 }
    let calls : List Call := [.tick, .step, .setKey 3 true, .step, .tick]
    s.Swaps .step .tick ∧ s.after calls = s.after (inOrder 2 [(3, true)] 2) ∧
      (s.after (inOrder 2 [(3, true)] 2)).delay = 7 ∧
      (s.stepEvents (inOrder 2 [(3, true)] 2)).map (·.error) =
        [none, some (.fault (.stackUnderflow 0x202))] := by
  intro s calls
  obtain ⟨htick, -, -, horder⟩ := host_events_commute s
  obtain ⟨hfree, hnext, hdelay, herrors⟩ :
      (∀ e ∈ s.events calls, ∀ i ∈ e.executed,
        i.op.usesTimers = false ∧ i.op.usesKeypad = false) ∧
      (∀ i ∈ (Call.step.event s).executed, i.op.usesTimers = false) ∧
      (s.after calls).delay = 7 ∧
      (s.stepEvents calls).map (·.error) = [none, some (.fault (.stackUnderflow 0x202))] := by
    decide +kernel
  obtain ⟨hend, hsame⟩ := horder 2 [(3, true)] 2 calls
    (.tick (.step (.setKey 3 true (.step (.tick .nil))))) hfree
  refine ⟨htick .step rfl hnext, hend, ?_, ?_⟩
  · rw [← hend]
    exact hdelay
  · rw [← hsame]
    exact herrors

end State

end Chip8
