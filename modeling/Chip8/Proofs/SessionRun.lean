import Chip8.Proofs.Run
import Chip8.Session

/-!
# A session refines the engine

What a host asks of a session is read as calls of the engine: a step, a tick, a
reset and a key as the call of that name, and a frame as single steps up to the
first that fails, with a tick behind them if none fails (`State.script`). A
session is in the state that these calls lead to, and its count is the number
of steps among them that succeeded since the last reset
(`Session.session_follows_engine`). A frame of a session and a frame of the
engine agree if none of its instructions fails; otherwise they raise the same
fault, and the session keeps what ran before it.
-/

namespace Chip8

/-- What a host asks of a session. -/
inductive Request where
  | step
  | tick
  | reset
  | setKey (key : Int) (down : Bool)
  | frame (n : Int)
deriving DecidableEq, Repr

/-- The call of the engine that a request stands for, if it is a single one. -/
def Request.call? : Request → Option Call
  | step => some .step
  | tick => some .tick
  | reset => some .reset
  | setKey key down => some (.setKey key down)
  | frame _ => none

namespace State

/-! ## Requests as calls -/

/-- Single steps up to the first that fails, and a tick if none of them fails. -/
def frameCalls : Nat → State → List Call
  | 0, _ => [.tick]
  | n + 1, s =>
    match s.step with
    | .ok s' => .step :: s'.frameCalls n
    | .error _ => [.step]

/-- The calls of the engine that a request stands for. -/
def callsOf (s : State) : Request → List Call
  | .step => [.step]
  | .tick => [.tick]
  | .reset => [.reset]
  | .setKey key down => [.setKey key down]
  | .frame n => s.frameCalls n.toNat

/-- The calls of the engine that a list of requests stands for. -/
def script : State → List Request → List Call
  | _, [] => []
  | s, r :: requests => s.callsOf r ++ (s.after (s.callsOf r)).script requests

/-- The number of steps that have succeeded since the last reset. -/
def noteStep (_ : State) : Call → Nat → Nat
  | .step, count => count + 1
  | .reset, _ => 0
  | _, count => count

/-- The calls that requests stand for run single instructions. -/
theorem isElementary_of_mem_frameCalls {n : Nat} {s : State} {c : Call}
    (hc : c ∈ s.frameCalls n) : c.isElementary := by
  induction n generalizing s with
  | zero =>
      rw [List.mem_singleton.mp hc]
      rfl
  | succ n ih =>
      rw [frameCalls] at hc
      split at hc
      · rcases List.mem_cons.mp hc with rfl | hrest
        · rfl
        · exact ih hrest
      · rw [List.mem_singleton.mp hc]
        rfl

theorem isElementary_of_mem_script {requests : List Request} {s : State} {c : Call}
    (hc : c ∈ s.script requests) : c.isElementary := by
  induction requests generalizing s with
  | nil => cases hc
  | cons r requests ih =>
      rcases List.mem_append.mp hc with hfirst | hrest
      · cases r with
        | frame n => exact isElementary_of_mem_frameCalls hfirst
        | step | tick | reset | setKey =>
            rw [List.mem_singleton.mp hfirst]
            rfl
      · exact ih hrest

/-! ## Steps of the engine -/

theorem steps_succ_of_ok {s s' : State} (hs : s.step = .ok s') (n : Nat) :
    s.steps (n + 1) = s'.steps n := by
  rw [steps, hs]

theorem steps_succ_of_error {s : State} {f : Fault} (hs : s.step = .error f) (n : Nat) :
    s.steps (n + 1) = .error f := by
  rw [steps, hs]

theorem exists_fault_of_steps_error {n : Nat} {s : State} {f : Fault} (h : s.steps n = .error f) :
    ∃ k < n, ∃ t, s.steps k = .ok t ∧ t.step = .error f := by
  induction n generalizing s with
  | zero => cases h
  | succ n ih =>
      cases hs : s.step with
      | error g =>
          rw [steps_succ_of_error hs] at h
          cases h
          exact ⟨0, Nat.zero_lt_succ n, s, rfl, hs⟩
      | ok s' =>
          rw [steps_succ_of_ok hs] at h
          obtain ⟨k, hk, t, ht, hf⟩ := ih h
          exact ⟨k + 1, Nat.succ_lt_succ hk, t, by rw [steps_succ_of_ok hs, ht], hf⟩

theorem exists_fault_of_runFrame_error {n : Int} {s : State} {f : Fault}
    (h : s.runFrame n = .error f) :
    ∃ k : Nat, (k : Int) < n ∧ ∃ t, s.runInstructions k = .ok t ∧ t.step = .error f := by
  unfold runFrame runInstructions at h
  cases hn : s.steps n.toNat with
  | ok t =>
      rw [hn] at h
      cases h
  | error g =>
      rw [hn] at h
      cases h
      obtain ⟨k, hk, t, ht, hf⟩ := exists_fault_of_steps_error hn
      exact ⟨k, by omega, t, ht, hf⟩

end State

/-- The session and the error of a turn, without its reports. -/
def Turn.result (t : Turn) : Session × Option CallError := (t.session, t.error)

theorem Turn.result_andThen (t : Turn) (next : Session → Turn) :
    (t.andThen next).result =
      match t.result with
      | (m, some e) => (m, some e)
      | (m, none) => (next m).result := by
  obtain ⟨m, entries, _ | e⟩ := t <;> rfl

theorem Logged.result_turn_of_ok {l : Logged State} {s : State} (h : l.outcome = .ok s)
    (before : Session) (next : State → Session) : (l.turn before next).result = (next s, none) := by
  rw [turn, h]
  rfl

theorem Logged.result_turn_of_error {l : Logged State} {e : CallError} (h : l.outcome = .error e)
    (before : Session) (next : State → Session) :
    (l.turn before next).result = (before, some e) := by
  rw [turn, h]
  rfl

namespace Session

/-! ## Turns -/

/-- The turn of a request. -/
def answer (m : Session) : Request → Turn
  | .step => m.step
  | .tick => m.tick
  | .reset => m.reset
  | .setKey key down => m.setKey key down
  | .frame n => m.runFrame n

/-- The session after a list of requests. -/
def after (m : Session) (requests : List Request) : Session :=
  requests.foldl (fun m r => (m.answer r).session) m

variable {m : Session} {r : Request} {c : Call} {s' t : State} {f : Fault}

/-- A request that stands for a single call has the result of this call. -/
theorem result_answer_of_ok (hr : r.call? = some c) (hs : c.perform m.state = .ok s') :
    (m.answer r).result = (⟨s', State.noteStep m.state c m.count⟩, none) := by
  have houtcome := Console.outcome_report m.state c
  rw [hs] at houtcome
  cases r <;> cases hr
  case tick =>
    cases Call.perform_tick.mp hs
    rfl
  all_goals exact Logged.result_turn_of_ok houtcome _ _

theorem result_answer_of_error {e : CallError} (hr : r.call? = some c)
    (hs : c.perform m.state = .error e) : (m.answer r).result = (m, some e) := by
  have houtcome := Console.outcome_report m.state c
  rw [hs] at houtcome
  cases r <;> cases hr
  case tick => cases hs
  all_goals exact Logged.result_turn_of_error houtcome _ _

theorem result_step_of_ok (hs : m.state.step = .ok s') :
    m.step.result = (⟨s', m.count + 1⟩, none) :=
  result_answer_of_ok (r := .step) rfl (Call.perform_step.mpr hs)

theorem result_step_of_error (hs : m.state.step = .error f) :
    m.step.result = (m, some (.fault f)) :=
  result_answer_of_error (r := .step) rfl (Call.perform_step_of_error hs)

theorem result_steps_succ_of_ok (hs : m.state.step = .ok s') (n : Nat) :
    (m.steps (n + 1)).result = (steps n ⟨s', m.count + 1⟩).result := by
  rw [steps, Turn.result_andThen, result_step_of_ok hs]

theorem result_steps_succ_of_error (hs : m.state.step = .error f) (n : Nat) :
    (m.steps (n + 1)).result = (m, some (.fault f)) := by
  rw [steps, Turn.result_andThen, result_step_of_error hs]

theorem result_steps_of_ok {n : Nat} (h : m.state.steps n = .ok s') :
    (m.steps n).result = (⟨s', m.count + n⟩, none) := by
  induction n generalizing m with
  | zero =>
      cases h
      rfl
  | succ n ih =>
      cases hs : m.state.step with
      | error g =>
          rw [State.steps_succ_of_error hs] at h
          cases h
      | ok u =>
          rw [State.steps_succ_of_ok hs] at h
          rw [result_steps_succ_of_ok hs, ih h, Nat.add_assoc, Nat.add_comm 1 n]

/-- Steps that fail keep what ran before the failure. -/
theorem result_steps_of_fault {k n : Nat} (hk : k < n) (ht : m.state.steps k = .ok t)
    (hf : t.step = .error f) :
    (m.steps n).result = (⟨t, m.count + k⟩, some (.fault f)) ∧ m.state.steps n = .error f := by
  -- by induction on the number of steps that succeed; there is one more step
  -- than these, the one that fails
  obtain ⟨n, rfl⟩ := Nat.exists_eq_add_one_of_ne_zero (Nat.ne_zero_of_lt hk)
  induction k generalizing m n with
  | zero =>
      cases ht
      exact ⟨result_steps_succ_of_error hf n, State.steps_succ_of_error hf n⟩
  | succ k ih =>
      cases hs : m.state.step with
      | error g =>
          rw [State.steps_succ_of_error hs] at ht
          cases ht
      | ok u =>
          rw [State.steps_succ_of_ok hs] at ht ⊢
          obtain ⟨n, rfl⟩ := Nat.exists_eq_add_one_of_ne_zero (n := n) (by omega)
          have hrest := ih (m := ⟨u, m.count + 1⟩) ht n (by omega)
          rw [result_steps_succ_of_ok hs, Nat.add_comm k 1, ← Nat.add_assoc]
          exact hrest

/-! ## Frames -/

theorem result_runFrame_of_ok {n : Int} (h : m.state.runFrame n = .ok s') :
    (m.runFrame n).result = (⟨s', m.count + n.toNat⟩, none) := by
  obtain ⟨t, ht, rfl⟩ := State.runFrame_eq_ok_iff.mp h
  rw [runFrame, Turn.result_andThen, result_steps_of_ok ht]
  rfl

theorem result_runFrame_of_fault {n : Int} {k : Nat} (hk : (k : Int) < n)
    (ht : m.state.runInstructions k = .ok t) (hf : t.step = .error f) :
    (m.runFrame n).result = (⟨t, m.count + k⟩, some (.fault f)) ∧
      m.state.runFrame n = .error f := by
  obtain ⟨hsession, hengine⟩ := result_steps_of_fault (k := k) (n := n.toNat) (by omega) ht hf
  constructor
  · rw [runFrame, Turn.result_andThen, hsession]
  · rw [State.runFrame, State.runInstructions, hengine]

/-! ## Sessions as runs of the engine -/

/-- A frame is in the state that its calls lead to, and counts their steps. -/
theorem session_andThen_tick (n : Nat) (m : Session) :
    ((m.steps n).andThen tick).session =
      ⟨m.state.after (m.state.frameCalls n),
        m.state.track State.noteStep (m.state.frameCalls n) m.count⟩ := by
  have hresult : ∀ t : Turn, t.session = t.result.1 := fun _ => rfl
  -- a frame peels off its first step, so the tick stays behind the others
  induction n generalizing m with
  | zero => rfl
  | succ n ih =>
      rw [hresult, Turn.result_andThen, State.frameCalls]
      cases hs : m.state.step with
      | error f =>
          have hcall := Call.perform_step_of_error hs
          rw [result_steps_succ_of_error hs, State.after_cons_of_error hcall,
            State.track_cons_of_error _ hcall]
          rfl
      | ok s' =>
          have hcall := Call.perform_step.mpr hs
          rw [result_steps_succ_of_ok hs, State.after_cons_of_ok hcall,
            State.track_cons_of_ok _ hcall]
          have hrest := ih ⟨s', m.count + 1⟩
          rw [hresult, Turn.result_andThen] at hrest
          exact hrest

theorem callsOf_eq (hr : r.call? = some c) (s : State) : s.callsOf r = [c] := by
  cases r <;> cases hr <;> rfl

/-- After a request a session is in the state that its calls lead to, and has
counted their steps. -/
theorem session_answer (m : Session) (r : Request) :
    (m.answer r).session =
      ⟨m.state.after (m.state.callsOf r),
        m.state.track State.noteStep (m.state.callsOf r) m.count⟩ := by
  cases hr : r.call? with
  | none =>
      cases r <;> cases hr
      exact session_andThen_tick _ m
  | some c =>
      rw [callsOf_eq hr]
      show (m.answer r).result.1 = _
      cases hs : c.perform m.state with
      | ok s' =>
          rw [result_answer_of_ok hr hs, State.after_cons_of_ok hs, State.track_cons_of_ok _ hs]
          rfl
      | error e =>
          rw [result_answer_of_error hr hs, State.after_cons_of_error hs,
            State.track_cons_of_error _ hs]
          rfl

theorem after_eq (m : Session) (requests : List Request) :
    m.after requests =
      ⟨m.state.after (m.state.script requests),
        m.state.track State.noteStep (m.state.script requests) m.count⟩ := by
  induction requests generalizing m with
  | nil => rfl
  | cons r requests ih =>
      show (m.answer r).session.after requests = _
      rw [ih, session_answer, State.script, State.after_append, State.track_append]

theorem start_eq_ok {program : List UInt8} {rng : Key} {m₀ : Session}
    (h : (start program rng).outcome = .ok m₀) :
    ∃ s₀, State.load program rng = .ok s₀ ∧ m₀ = ⟨s₀, 0⟩ := by
  rw [start, Logged.outcome_bind, Console.outcome_load] at h
  cases hload : State.load program rng with
  | error f =>
      rw [hload] at h
      cases h
  | ok s₀ =>
      rw [hload] at h
      cases h
      exact ⟨s₀, rfl, rfl⟩

/-- **A session refines the engine.** After every list of requests a session is
in the state that the calls of the engine lead to which the requests stand for,
and its count is the number of steps that have succeeded since it was started or
reset. Each further request that stands for a single call has the result of this
call, and none of its effects if it fails. A frame without an error leads to the
state of the engine's frame. A frame fails exactly if one of its instructions
does: it keeps those before, has counted them, ticks no timer, and raises the
fault of the engine's frame. -/
theorem session_follows_engine {program : List UInt8} {rng : Key} {m₀ : Session}
    (hstart : (start program rng).outcome = .ok m₀) (requests : List Request) :
    ∃ s₀, State.load program rng = .ok s₀ ∧
    let m := m₀.after requests
    let calls := s₀.script requests
    m.state = s₀.after calls ∧ m.count = s₀.track State.noteStep calls 0 ∧
    (∀ r c, r.call? = some c →
      (∀ s', c.perform m.state = .ok s' →
        (m.answer r).session.state = s' ∧ (m.answer r).error = none) ∧
      (∀ e, c.perform m.state = .error e →
        (m.answer r).session = m ∧ (m.answer r).error = some e)) ∧
    ∀ n : Int,
      ((m.runFrame n).error = none →
        m.state.runFrame n = .ok (m.runFrame n).session.state ∧
        (m.runFrame n).session.count = m.count + n.toNat) ∧
      (∀ (k : Nat) (t : State) (f : Fault), (k : Int) < n →
        m.state.runInstructions k = .ok t → t.step = .error f →
        (m.runFrame n).session = ⟨t, m.count + k⟩ ∧
        (m.runFrame n).error = some (.fault f) ∧ m.state.runFrame n = .error f) ∧
      (∀ e, (m.runFrame n).error = some e →
        ∃ (k : Nat) (t : State) (f : Fault), (k : Int) < n ∧
          m.state.runInstructions k = .ok t ∧ t.step = .error f ∧ e = .fault f) := by
  obtain ⟨s₀, hload, rfl⟩ := start_eq_ok hstart
  refine ⟨s₀, hload, ?_⟩
  intro m calls
  have hm : m = ⟨s₀.after calls, s₀.track State.noteStep calls 0⟩ := after_eq ⟨s₀, 0⟩ requests
  refine ⟨by rw [hm], by rw [hm], fun r c hr => ⟨fun s' hs => ?_, fun e he => ?_⟩, fun n => ?_⟩
  · have hresult := result_answer_of_ok hr hs
    exact ⟨congrArg (·.1.state) hresult, congrArg (·.2) hresult⟩
  · have hresult := result_answer_of_error hr he
    exact ⟨congrArg (·.1) hresult, congrArg (·.2) hresult⟩
  · refine ⟨fun hnone => ?_, fun k t f hk ht hf => ?_, fun e he => ?_⟩
    · cases hframe : m.state.runFrame n with
      | ok s' =>
          have hresult := result_runFrame_of_ok hframe
          exact ⟨congrArg (fun p => Except.ok p.1.state) hresult.symm,
            congrArg (·.1.count) hresult⟩
      | error f =>
          obtain ⟨k, hk, t, ht, hf⟩ := State.exists_fault_of_runFrame_error hframe
          have hresult := (result_runFrame_of_fault hk ht hf).1
          have hsome : (m.runFrame n).error = some (.fault f) := congrArg (·.2) hresult
          rw [hnone] at hsome
          cases hsome
    · obtain ⟨hresult, hengine⟩ := result_runFrame_of_fault hk ht hf
      exact ⟨congrArg (·.1) hresult, congrArg (·.2) hresult, hengine⟩
    · cases hframe : m.state.runFrame n with
      | ok s' =>
          have hnone : (m.runFrame n).error = none :=
            congrArg (·.2) (result_runFrame_of_ok hframe)
          rw [hnone] at he
          cases he
      | error f =>
          obtain ⟨k, hk, t, ht, hf⟩ := State.exists_fault_of_runFrame_error hframe
          have hsome : (m.runFrame n).error = some (.fault f) :=
            congrArg (·.2) (result_runFrame_of_fault hk ht hf).1
          rw [hsome] at he
          exact ⟨k, t, f, hk, ht, hf, (Option.some.inj he).symm⟩

/-- A frame of five whose second instruction returns from nowhere, after a tick
and a key that there is not: the first instruction is kept and counted. -/
theorem session_follows_engine_partial_frame :
    let m := after ⟨.fresh [0x60, 0x01, 0x00, 0xEE] ⟨0, 7⟩, 0⟩ [.tick, .setKey 16 true]
    (m.runFrame 5).error = some (.fault (.stackUnderflow 0x202)) ∧
      m.state.runFrame 5 = .error (.stackUnderflow 0x202) ∧
      ∃ t, m.state.runInstructions 1 = .ok t ∧ (m.runFrame 5).session = ⟨t, 1⟩ := by
  intro m
  have hstart : (start [0x60, 0x01, 0x00, 0xEE] ⟨0, 7⟩).outcome = .ok ⟨.fresh _ _, 0⟩ := rfl
  obtain ⟨s₀, -, -, -, -, hframe⟩ := session_follows_engine hstart [.tick, .setKey 16 true]
  obtain ⟨-, hkept, hfails⟩ := hframe 5
  obtain ⟨herror, hcount⟩ : (m.runFrame 5).error = some (.fault (.stackUnderflow 0x202)) ∧
      (m.runFrame 5).session.count = 1 := by
    decide +kernel
  obtain ⟨k, t, f, hk, ht, hf, hfault⟩ := hfails _ herror
  cases hfault
  obtain ⟨hsession, -, hengine⟩ := hkept k t _ hk ht hf
  -- nothing was counted before the frame, so the count is the failing position
  have hone : k = 1 := by
    rw [hsession] at hcount
    exact (Nat.zero_add k).symm.trans hcount
  subst hone
  exact ⟨herror, hengine, t, ht, hsession⟩

end Session

end Chip8
