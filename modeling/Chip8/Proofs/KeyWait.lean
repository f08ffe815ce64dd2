import Chip8.Proofs.Frame
import Chip8.Proofs.Interleaving
import Chip8.Proofs.Timers
import Chip8.Proofs.TraceView

/-!
# Waiting for a key

A machine waits (`State.Waits`) while the next instruction asks for a key and no
key is down. A step then goes back to where it was, so all that happens to the
machine are the ticks of its timers and the records in its trace (`State.Idled`),
for as long as no key goes down. What the keys do in the meantime is known from
the last event of each (`State.isDown_after_keys`): once there is one that was
put down and stayed so, the next step takes the lowest of these and goes on
(`State.key_wait_stutters`).
-/

namespace Chip8

/-- The calls that move the keys one after the other. -/
def keyCalls (keys : List (Int × Bool)) : List Call := keys.map fun k => .setKey k.1 k.2

/-- The last event of a key, if there was one: whether it was put down. -/
def lastEvent? (keys : List (Int × Bool)) (key : Fin 16) : Option Bool :=
  keys.reverse.lookup (key.val : Int)

namespace State

/-- What the next step adds to the trace if it succeeds. -/
def nextRecord (s : State) : Record := ⟨s.pc, s.nextWord⟩

/-- The next instruction waits for a key, and no key is down. -/
structure Waits (s : State) : Prop where
  faces : s.Faces .waitKey
  up : ∀ key, s.keypad.isDown key = false

/-- What happens in a step that waits. -/
def waitEvent (s : State) : Event where
  fetched := some s.nextRecord
  executed := some ⟨.waitKey, s.nextCode⟩
  error := none

/-- `s'` is what has become of `s` in `n` steps and `m` ticks that have changed
nothing but timers and trace. -/
structure Idled (s : State) (n m : Nat) (s' : State) : Prop where
  timer : ∀ t : Timer, (t.value s').toNat = (t.value s).toNat - m
  trace : s'.trace = s.trace.pushAll (List.replicate n s.nextRecord)
  rest : s' = { s with delay := s'.delay, sound := s'.sound, trace := s'.trace }

/-! ## Nothing but timers and trace -/

section Idled

variable {s t u : State} {n m n' m' : Nat}

theorem idled_refl (s : State) : s.Idled 0 0 s := ⟨fun _ => rfl, rfl, rfl⟩

theorem idled_tick (s : State) : s.Idled 0 1 s.tick :=
  ⟨fun timer => timer.toNat_value_tick s, rfl, rfl⟩

theorem Idled.pc_eq (h : s.Idled n m t) : t.pc = s.pc := by
  rw [h.rest]

theorem Idled.nextCode_eq (h : s.Idled n m t) : t.nextCode = s.nextCode := by
  rw [h.rest]
  rfl

theorem Idled.nextRecord_eq (h : s.Idled n m t) : t.nextRecord = s.nextRecord := by
  rw [h.rest]
  rfl

theorem Idled.waitEvent_eq (h : s.Idled n m t) : t.waitEvent = s.waitEvent := by
  rw [h.rest]
  rfl

theorem Idled.waits (h : s.Idled n m t) (hs : s.Waits) : t.Waits := by
  rw [h.rest]
  exact ⟨hs.faces, hs.up⟩

theorem Idled.trans (h : s.Idled n m t) (h' : t.Idled n' m' u) :
    s.Idled (n + n') (m + m') u where
  timer := by
    intro timer
    rw [h'.timer, h.timer, Nat.sub_sub]
  trace := by
    rw [h'.trace, h.trace, h.nextRecord_eq, ← Trace.pushAll_append, List.replicate_append_replicate]
  rest := by
    have hrest := h'.rest
    rw [h.rest] at hrest
    exact hrest

end Idled

/-! ## Steps and ticks -/

section Wait

variable {s : State}

/-- A wait for a key is never refused. -/
theorem refusal?_waitKey (s : State) (c : Code) (a : Int) : s.refusal? ⟨.waitKey, c⟩ a = none :=
  refusal?_eq_none_of_not_mem (show Op.waitKey ∉ Op.refusable by decide) s a

/-- Without a key the step goes back to where it was. -/
theorem Waits.step_eq (h : s.Waits) :
    s.step = .ok { s with trace := s.trace.push s.nextRecord } := by
  have hnone : s.fetched.keypad.lowest? = none := Keypad.lowest?_eq_none_iff.mpr h.up
  have hback : s.fetched.pc - 2 = s.pc := instructionAddress_fetched s
  refine h.faces.step_eq_ok_iff.mpr ⟨refusal?_waitKey _ _ _, ?_⟩
  simp only [perform, awaitKey, hnone, Option.isSome_none, Bool.false_eq_true, if_false, hback]
  rfl

/-- With a key the step takes the lowest that is down and goes on. -/
theorem Faces.step_eq_of_key (h : s.Faces .waitKey) {key : Fin 16}
    (hkey : s.keypad.lowest? = some key) :
    s.step = .ok { s.setReg s.nextCode.x (UInt8.ofNat key.val) with
      pc := s.pc + 2, trace := s.trace.push s.nextRecord } := by
  have hlowest : s.fetched.keypad.lowest? = some key := hkey
  refine h.step_eq_ok_iff.mpr ⟨refusal?_waitKey _ _ _, ?_⟩
  simp only [perform, awaitKey, hlowest, Option.isSome_some, if_true]
  rfl

theorem Waits.idled_step (h : s.Waits) : s.Idled 1 0 (Call.step.next s) := by
  rw [Call.next_of_ok (Call.perform_step.mpr h.step_eq)]
  exact ⟨fun timer => by cases timer <;> rfl, rfl, rfl⟩

theorem Waits.event_eq (h : s.Waits) : Call.step.event s = s.waitEvent := by
  have hok := Call.perform_step.mpr h.step_eq
  have hfetched : Call.step.fetched? s = some s.nextRecord := if_pos h.faces.1
  have hexecuted := Call.executed_of_ok hok rfl h.faces.ofCode?_eq
  rw [Call.event, hok] at hexecuted ⊢
  rw [hfetched, waitEvent]
  exact congrArg (Event.mk _ · none) hexecuted

/-- A wait goes on through all steps and ticks. -/
theorem Waits.after_interleaving (h : s.Waits) {n m : Nat} {calls : List Call}
    (hcalls : Interleaving n [] m calls) :
    s.Idled n m (s.after calls) ∧ s.stepEvents calls = List.replicate n s.waitEvent := by
  generalize hkeys : [] = keys at hcalls
  induction hcalls generalizing s with
  | nil => exact ⟨idled_refl s, rfl⟩
  | step rest ih =>
      have hstep := h.idled_step
      obtain ⟨hidled, hevents⟩ := ih (hstep.waits h) hkeys
      have hboth := hstep.trans hidled
      rw [Nat.zero_add, Nat.add_comm] at hboth
      refine ⟨hboth, ?_⟩
      rw [stepEvents, if_pos rfl, hevents, hstep.waitEvent_eq, h.event_eq]
      rfl
  | setKey key down rest ih => cases hkeys
  | tick rest ih =>
      have htick := s.idled_tick
      obtain ⟨hidled, hevents⟩ := ih (htick.waits h) hkeys
      have hboth := htick.trans hidled
      rw [Nat.zero_add, Nat.add_comm] at hboth
      refine ⟨hboth, ?_⟩
      rw [stepEvents, if_neg (by simp), ← htick.waitEvent_eq]
      exact hevents

end Wait

/-! ## Keys -/

theorem isDown_next_setKey (s : State) (key : Int) (down : Bool) (k : Fin 16) :
    ((Call.setKey key down).next s).keypad.isDown k =
      if (k.val : Int) = key then down else s.keypad.isDown k := by
  by_cases hkey : 0 ≤ key ∧ key < 16
  · have hsame : (⟨key.toNat, by omega⟩ : Fin 16) = k ↔ (k.val : Int) = key := by
      rw [Fin.ext_iff]
      simp only
      omega
    simp only [Call.next, Call.perform, setKey, dif_pos hkey, Keypad.isDown_set, hsame]
  · have hother : (k.val : Int) ≠ key := by omega
    simp only [Call.next, Call.perform, setKey, dif_neg hkey, if_neg hother]

/-- A key is up or down as its last event has left it. -/
theorem isDown_after_keys (keys : List (Int × Bool)) (s : State) (k : Fin 16) :
    (s.after (keyCalls keys)).keypad.isDown k =
      (lastEvent? keys k).getD (s.keypad.isDown k) := by
  induction keys generalizing s with
  | nil => rfl
  | cons e keys ih =>
      obtain ⟨key, down⟩ := e
      show ((Call.next s (.setKey key down)).after (keyCalls keys)).keypad.isDown k = _
      rw [ih, isDown_next_setKey, lastEvent?, lastEvent?, List.reverse_cons, List.lookup_append]
      cases keys.reverse.lookup (k.val : Int) with
      | some later => rfl
      | none =>
          by_cases hk : (k.val : Int) = key
          · rw [if_pos hk, hk, List.lookup_cons_self]
            rfl
          · have hother : ((k.val : Int) == key) = false := beq_false_of_ne hk
            rw [if_neg hk, List.lookup_cons, hother]
            rfl

/-- Keys move nothing but the keypad. -/
theorem exists_after_keys (keys : List (Int × Bool)) (s : State) :
    ∃ keypad, s.after (keyCalls keys) = { s with keypad := keypad } := by
  induction keys generalizing s with
  | nil => exact ⟨s.keypad, rfl⟩
  | cons e keys ih =>
      obtain ⟨f, hnext⟩ := Call.exists_next_setKey e.1 e.2
      obtain ⟨keypad, hrest⟩ := ih (Call.next s (.setKey e.1 e.2))
      refine ⟨keypad, hrest.trans ?_⟩
      rw [hnext]

section Keys

variable {s : State} {keys : List (Int × Bool)}

/-- While a machine waits, the keys that are down are those that were put down
last. -/
theorem Waits.isDown_after_keys_iff (h : s.Waits) (k : Fin 16) :
    (s.after (keyCalls keys)).keypad.isDown k = true ↔ lastEvent? keys k = some true := by
  rw [isDown_after_keys, h.up]
  cases lastEvent? keys k <;> simp

/-- Once a key is down, the next step takes the least of those that were put down
last. -/
theorem Waits.step_after_keys (h : s.Waits)
    (hdown : ∃ k, (s.after (keyCalls keys)).keypad.isDown k = true) :
    ∃ key : Fin 16, lastEvent? keys key = some true ∧
      (∀ other < key, lastEvent? keys other ≠ some true) ∧
      (s.after (keyCalls keys)).step = .ok
        { (s.after (keyCalls keys)).setReg s.nextCode.x (UInt8.ofNat key.val) with
          pc := s.pc + 2, trace := (s.after (keyCalls keys)).trace.push s.nextRecord } := by
  obtain ⟨k, hk⟩ := hdown
  cases hkey : (s.after (keyCalls keys)).keypad.lowest? with
  | none =>
      rw [Keypad.lowest?_eq_none_iff.mp hkey k] at hk
      cases hk
  | some key =>
      obtain ⟨hpressed, hup⟩ := Keypad.lowest?_eq_some_iff.mp hkey
      refine ⟨key, (h.isDown_after_keys_iff key).mp hpressed, fun other hlt hother => ?_, ?_⟩
      · have hdown := (h.isDown_after_keys_iff other).mpr hother
        rw [hup other hlt] at hdown
        cases hdown
      · obtain ⟨keypad, hrest⟩ := exists_after_keys keys s
        rw [hrest] at hkey ⊢
        have hfaces : Faces { s with keypad := keypad } .waitKey := h.faces
        exact hfaces.step_eq_of_key hkey

/-- With all keys up again, nothing has happened. -/
theorem Waits.after_keys_of_up (h : s.Waits)
    (hup : ∀ k, (s.after (keyCalls keys)).keypad.isDown k = false) :
    s.after (keyCalls keys) = s := by
  obtain ⟨keypad, hrest⟩ := exists_after_keys keys s
  rw [hrest] at hup ⊢
  have hsame : keypad = s.keypad := Keypad.ext_isDown fun k => (hup k).trans (h.up k).symm
  rw [hsame]

end Keys

/-- **The key wait is a pure stutter.** A machine that waits for a key goes
through any interleaving of steps and ticks without getting on: each step succeeds
and fetches and runs the same instruction at the same place, and behind them only
the timers have run down and the trace has got their records. If keys are then
moved, once one of them is down the next step puts the least of those whose last
event was a press into `VX`, goes on behind the instruction and changes nothing
else but the trace; if all are up again, the wait goes on as if no key had been
touched. -/
theorem key_wait_stutters {s : State} (hwait : s.Waits) {n m : Nat} {calls : List Call}
    (hcalls : Interleaving n [] m calls) :
    let waited := s.after calls
    s.stepEvents calls = List.replicate n s.waitEvent ∧ s.Idled n m waited ∧
    waited.trace.records = Trace.latest (s.trace.records ++ List.replicate n s.nextRecord) ∧
    ∀ keys : List (Int × Bool),
      let t := waited.after (keyCalls keys)
      t = { waited with keypad := t.keypad } ∧
      ((∃ k, t.keypad.isDown k = true) →
        ∃ key : Fin 16, lastEvent? keys key = some true ∧
          (∀ other < key, lastEvent? keys other ≠ some true) ∧
          t.step = .ok { t.setReg s.nextCode.x (UInt8.ofNat key.val) with
            pc := s.pc + 2, trace := t.trace.push s.nextRecord } ∧
          (s.pc + 2).toNat = s.pc.toNat + 2) ∧
      ((∀ k, t.keypad.isDown k = false) →
        t.Waits ∧ ∀ {n' m' : Nat} {more : List Call}, Interleaving n' [] m' more →
          t.stepEvents more = List.replicate n' s.waitEvent ∧
            s.Idled (n + n') (m + m') (t.after more)) := by
  intro waited
  obtain ⟨hidled, hevents⟩ := hwait.after_interleaving hcalls
  have hstill : waited.Waits := hidled.waits hwait
  refine ⟨hevents, hidled, ?_, fun keys => ?_⟩
  · rw [hidled.trace, Trace.records_pushAll]
  · intro t
    obtain ⟨keypad, hrest⟩ := exists_after_keys keys waited
    refine ⟨by rw [show t = _ from hrest], fun hdown => ?_, fun hup => ?_⟩
    · obtain ⟨key, hpressed, hleast, hstep⟩ := hstill.step_after_keys hdown
      rw [hidled.nextCode_eq, hidled.pc_eq, hidled.nextRecord_eq] at hstep
      exact ⟨key, hpressed, hleast, hstep, hwait.faces.toNat_next⟩
    · have hsame : t = waited := hstill.after_keys_of_up hup
      refine ⟨hsame ▸ hstill, fun hmore => ?_⟩
      obtain ⟨hidled', hevents'⟩ := hstill.after_interleaving hmore
      rw [hsame, hevents', hidled.waitEvent_eq]
      exact ⟨rfl, hidled.trans hidled'⟩

/-- A wait for a key to put into `V3`, two steps and two ticks long. Of the three
keys that then go down the lowest is let go again, and the step takes the lower of
the other two; a key that is let go again is as if it had not been touched. -/
theorem key_wait_stutters_two_of_three :
    let s := { fresh [] ⟨0, 7⟩ with
      pc := 0, memory := (Memory.zero.write 0 0xF3).write 1 0x0A, delay := 1, sound := 5 }
    let waited := s.after [.step, .tick, .tick, .step]
    waited.delay = 0 ∧ waited.sound = 3 ∧
      (∃ t, (waited.after (keyCalls [(9, true), (2, true), (5, true), (2, false)])).step = .ok t ∧
        t.reg 3 = 5 ∧ t.pc = 2) ∧
      (waited.after (keyCalls [(9, true), (9, false)])).Waits := by
  intro s waited
  obtain ⟨hfaces, hup⟩ : s.Faces .waitKey ∧ ∀ key, s.keypad.isDown key = false := by
    decide +kernel
  obtain ⟨-, hidled, -, hkeys⟩ := key_wait_stutters ⟨hfaces, hup⟩
    (.step (.tick (.tick (.step .nil))))
  obtain ⟨hdown, hfive, hall⟩ :
      (∃ k, (waited.after (keyCalls [(9, true), (2, true), (5, true), (2, false)])).keypad.isDown k
        = true) ∧
      (∀ k, lastEvent? [(9, true), (2, true), (5, true), (2, false)] k = some true ∧
        (∀ other < k, lastEvent? [(9, true), (2, true), (5, true), (2, false)] other ≠ some true) →
        k = 5) ∧
      ∀ k, (waited.after (keyCalls [(9, true), (9, false)])).keypad.isDown k = false := by
    decide +kernel
  refine ⟨UInt8.toNat_inj.mp (hidled.timer .delay), UInt8.toNat_inj.mp (hidled.timer .sound), ?_,
    ((hkeys [(9, true), (9, false)]).2.2 hall).1⟩
  obtain ⟨key, hlast, hleast, hstep, -⟩ := (hkeys _).2.1 hdown
  obtain rfl := hfive key ⟨hlast, hleast⟩
  have hx : s.nextCode.x = 3 := by decide +kernel
  generalize waited.after (keyCalls [(9, true), (2, true), (5, true), (2, false)]) = t at hstep ⊢
  refine ⟨_, hstep, ?_, rfl⟩
  show (t.setReg s.nextCode.x (UInt8.ofNat 5)).reg 3 = 5
  rw [reg_setReg, if_pos hx]
  rfl

end State

end Chip8
