import Chip8.Call
import Chip8.Proofs.Grammar

/-!
# What one step does

The interface of `State.step` for everything that is proved about runs. A step
that succeeds has fetched a word, decoded it, found nothing to refuse, and
performed the operation on the state whose program counter has moved past the
word (`State.step_eq_ok_iff`); a step that fails does so at exactly one of these
points (`State.step_eq_error_iff`). Which fields an operation may touch is said
field by field, so that no later proof goes through the operations again.
-/

namespace Chip8

open Layout

namespace State

/-! ## What an operation does to single fields -/

section Perform

variable (s : State) (i : Instruction)

theorem program_perform : (s.perform i).program = s.program := by
  unfold perform
  split <;> rfl

theorem keypad_perform : (s.perform i).keypad = s.keypad := by
  unfold perform
  split <;> rfl

theorem display_perform :
    (s.perform i).display =
      if i.op = .cls then .dark
      else if i.op = .drw then s.display.xor (s.sprite i.x i.y i.n)
      else s.display := by
  unfold perform
  split <;> rename_i hop <;> simp only [hop] <;> rfl

theorem rng_perform : (s.perform i).rng = if i.op = .rnd then s.rng.next else s.rng := by
  unfold perform
  split <;> rename_i hop <;> simp only [hop] <;> rfl

theorem delay_perform :
    (s.perform i).delay = if i.op = .setDelay then s.reg i.x else s.delay := by
  unfold perform
  split <;> rename_i hop <;> simp only [hop] <;> rfl

theorem sound_perform :
    (s.perform i).sound = if i.op = .setSound then s.reg i.x else s.sound := by
  unfold perform
  split <;> rename_i hop <;> simp only [hop] <;> rfl

theorem index_perform :
    (s.perform i).index =
      if i.op = .ldI then i.nnn
      else if i.op = .addI then s.index + (s.reg i.x).toUInt16
      else if i.op = .font then UInt16.ofNat (fontStart + digitSize * (s.reg i.x).toNat)
      else s.index := by
  unfold perform
  split <;> rename_i hop <;> simp only [hop] <;> rfl

theorem memory_perform :
    (s.perform i).memory =
      if i.op = .bcd then s.memory.writeAll s.index.toNat (decimalDigits (s.reg i.x))
      else if i.op = .storeRegs then s.memory.writeAll s.index.toNat (s.firstRegs i.x)
      else s.memory := by
  unfold perform
  split <;> rename_i hop <;> simp only [hop] <;> rfl

/-- Only calls and returns touch the stack. -/
theorem stack_perform :
    (s.perform i).stack =
      if i.op = .call then s.stack.push s.pc
      else if i.op = .ret then s.stack.drop
      else s.stack := by
  unfold perform
  split <;> rename_i hop <;> simp only [hop] <;> rfl

/-- The program counter stays, passes over an instruction, goes back by one,
is set to an operand with or without the value of `V0`, or is taken from the
stack by a return. -/
theorem pc_perform_cases :
    (s.perform i).pc = s.pc ∨ (s.perform i).pc = s.pc + 2 ∨ (s.perform i).pc = s.pc - 2 ∨
      (s.perform i).pc = i.nnn ∨ (s.perform i).pc = i.nnn + (s.reg 0).toUInt16 ∨
      i.op = .ret ∧ (s.perform i).pc = s.stack.top := by
  have hskip : ∀ condition, (s.skipIf condition).pc = s.pc ∨ (s.skipIf condition).pc = s.pc + 2 := by
    intro condition
    cases condition
    · exact .inl rfl
    · exact .inr rfl
  have hwait : ∀ key, (s.awaitKey i.x key).pc = s.pc ∨ (s.awaitKey i.x key).pc = s.pc - 2 := by
    intro key
    cases key
    · exact .inr rfl
    · exact .inl rfl
  cases hop : i.op <;> rw [perform, hop]
  case ret => exact .inr (.inr (.inr (.inr (.inr ⟨rfl, rfl⟩))))
  case jp | call => exact .inr (.inr (.inr (.inl rfl)))
  case jpV0 => exact .inr (.inr (.inr (.inr (.inl rfl))))
  case seByte | sneByte | seReg | sneReg | skp | sknp =>
    rcases hskip _ with h | h
    · exact .inl h
    · exact .inr (.inl h)
  case waitKey =>
    rcases hwait _ with h | h
    · exact .inl h
    · exact .inr (.inr (.inl h))
  all_goals exact .inl rfl

end Perform

end State

/-! ## When an instruction is refused -/

/-- The operations that can be refused: those on the stack, and those with a memory operand. -/
def Op.refusable : List Op := [.call, .ret, .drw, .bcd, .storeRegs, .loadRegs]

/-- Four operations have a memory operand. -/
theorem Instruction.op_of_lastAddress? {i : Instruction} {index : UInt16} {last : Int}
    (h : i.lastAddress? index = some last) :
    i.op = .drw ∨ i.op = .bcd ∨ i.op = .storeRegs ∨ i.op = .loadRegs := by
  unfold lastAddress? at h
  split at h <;> simp_all

namespace State

/-- An instruction is refused for one of three reasons: a call finds no slot, a
return finds no address, or a memory operand ends behind the last address. -/
theorem refusal?_eq_some_iff {s : State} {i : Instruction} {a : Int} {f : Fault} :
    s.refusal? i a = some f ↔
      (i.op = .call ∧ s.stack.isFull = true ∧ f = .stackOverflow a) ∨
      (i.op = .ret ∧ s.stack.isEmpty = true ∧ f = .stackUnderflow a) ∨
      ∃ last, i.lastAddress? s.index = some last ∧ 0xFFF < last ∧
        f = .memoryAccess last (some i.code) := by
  by_cases hcall : i.op = .call
  · have hlast : i.lastAddress? s.index = none := by rw [Instruction.lastAddress?, hcall]
    cases hfull : s.stack.isFull <;> simp [refusal?, hcall, hlast, hfull, @eq_comm _ f]
  · by_cases hret : i.op = .ret
    · have hlast : i.lastAddress? s.index = none := by rw [Instruction.lastAddress?, hret]
      cases hempty : s.stack.isEmpty <;> simp [refusal?, hret, hlast, hempty, @eq_comm _ f]
    · cases hlast : i.lastAddress? s.index with
      | none => simp [refusal?, hcall, hret, hlast]
      | some last =>
        by_cases hout : (0xFFF : Int) < last <;>
          simp [refusal?, hcall, hret, hlast, lastAddress, hout, @eq_comm _ f]

theorem refusal?_eq_none_iff {s : State} {i : Instruction} {a : Int} :
    s.refusal? i a = none ↔
      (i.op = .call → s.stack.isFull = false) ∧ (i.op = .ret → s.stack.isEmpty = false) ∧
      ∀ last, i.lastAddress? s.index = some last → last ≤ 0xFFF := by
  simp only [Option.eq_none_iff_forall_ne_some, ne_eq, refusal?_eq_some_iff, not_or, not_and,
    not_exists]
  constructor
  · intro h
    refine ⟨fun hop => ?_, fun hop => ?_, fun last hlast => ?_⟩
    · exact Bool.eq_false_iff.mpr fun hfull => (h _).1 hop hfull rfl
    · exact Bool.eq_false_iff.mpr fun hempty => (h _).2.1 hop hempty rfl
    · exact Int.not_lt.mp fun hout => (h _).2.2 last hlast hout rfl
  · rintro ⟨hfull, hempty, hlast⟩ f
    refine ⟨fun hop h => ?_, fun hop h => ?_, fun last h hout => ?_⟩
    · exact absurd h (by simp [hfull hop])
    · exact absurd h (by simp [hempty hop])
    · exact absurd (hlast last h) (by omega)

/-- Only six operations can be refused. -/
theorem refusal?_eq_none_of_not_mem {i : Instruction} (hop : i.op ∉ Op.refusable) (s : State)
    (a : Int) : s.refusal? i a = none := by
  refine refusal?_eq_none_iff.mpr ⟨fun h => ?_, fun h => ?_, fun last hlast => ?_⟩
  · exact absurd (h ▸ by decide) hop
  · exact absurd (h ▸ by decide) hop
  · rcases Instruction.op_of_lastAddress? hlast with h | h | h | h <;>
      exact absurd (h ▸ by decide) hop

/-! ## When an instruction runs -/

theorem execute_eq_ok_iff {s s' : State} {c : Code} :
    s.execute c = .ok s' ↔ ∃ op, Op.ofCode? c = some op ∧
      s.refusal? ⟨op, c⟩ s.instructionAddress.toNat = none ∧
      s' = { s.perform ⟨op, c⟩ with trace := s.trace.push ⟨s.instructionAddress, c.word⟩ } := by
  unfold execute Instruction.decode
  cases hop : Op.ofCode? c with
  | none => simp
  | some op => cases hf : s.refusal? ⟨op, c⟩ s.instructionAddress.toNat <;> simp [hf, eq_comm]

theorem program_execute {s s' : State} {c : Code} (hs : s.execute c = .ok s') :
    s'.program = s.program := by
  obtain ⟨op, -, -, rfl⟩ := execute_eq_ok_iff.mp hs
  exact program_perform s ⟨op, c⟩

theorem execute_eq_error_iff {s : State} {c : Code} {f : Fault} :
    s.execute c = .error f ↔
      (Op.ofCode? c = none ∧ f = .unimplemented c (some s.instructionAddress.toNat)) ∨
      ∃ op, Op.ofCode? c = some op ∧
        s.refusal? ⟨op, c⟩ s.instructionAddress.toNat = some f := by
  unfold execute Instruction.decode
  cases hop : Op.ofCode? c with
  | none => simp [eq_comm]
  | some op => cases hf : s.refusal? ⟨op, c⟩ s.instructionAddress.toNat <;> simp [hf]

/-! ## Fetching -/

/-- Near memory, two further is no wrap. -/
theorem toNat_add_two {w : UInt16} (h : w.toNat ≤ 0x1001) : (w + 2).toNat = w.toNat + 2 := by
  rw [UInt16.toNat_add]
  exact Nat.mod_eq_of_lt (show w.toNat + 2 < 65536 by omega)

/-- The word that the next step fetches. -/
def nextWord (s : State) : UInt16 := s.memory.word s.pc.toNat

/-- The word that the next step fetches, as a code. -/
def nextCode (s : State) : Code := (s.nextWord.toNat : Int)

/-- The state after a fetch: the program counter has moved past the word. -/
def fetched (s : State) : State := { s with pc := s.pc + 2 }

@[simp] theorem word_nextCode (s : State) : s.nextCode.word = s.nextWord :=
  Code.word_toNat s.nextWord

/-- After a fetch the program counter points past the address it came from. -/
@[simp] theorem instructionAddress_fetched (s : State) : s.fetched.instructionAddress = s.pc := by
  show s.pc + 2 - 2 = s.pc
  rw [UInt16.add_sub_cancel]

theorem fetch_eq (s : State) :
    s.fetch = if 0xFFF ≤ s.pc.toNat then .error (.memoryAccess (s.pc.toNat + 1 : Nat) none)
      else .ok (s.fetched, s.nextWord) := by
  have hlimit : lastAddress < s.pc.toNat + 1 ↔ 0xFFF ≤ s.pc.toNat := by
    simp only [lastAddress]
    omega
  unfold fetch
  simp only [hlimit]
  rfl

/-- A step is a fetch and the execution of what was fetched. -/
theorem step_eq (s : State) :
    s.step = if 0xFFF ≤ s.pc.toNat then .error (.memoryAccess (s.pc.toNat + 1 : Nat) none)
      else s.fetched.execute s.nextCode := by
  unfold step
  rw [fetch_eq]
  by_cases h : 0xFFF ≤ s.pc.toNat
  · simp only [if_pos h]
  · simp only [if_neg h]
    rfl

/-- A step that succeeds runs what it has fetched. -/
theorem execute_of_step {s s' : State} (hs : s.step = .ok s') :
    s.fetched.execute s.nextCode = .ok s' := by
  rw [step_eq] at hs
  split at hs
  · cases hs
  · exact hs

theorem program_step {s s' : State} (hs : s.step = .ok s') : s'.program = s.program := by
  have h : s'.program = s.fetched.program := program_execute (execute_of_step hs)
  exact h

/-- The next step fetches a word with the pattern of an operation. -/
def Faces (s : State) (op : Op) : Prop := s.pc.toNat < 0xFFF ∧ op.Matches s.nextCode

instance (s : State) (op : Op) : Decidable (s.Faces op) :=
  inferInstanceAs (Decidable (_ ∧ _))

theorem Faces.toNat_next {s : State} {op : Op} (h : s.Faces op) :
    (s.pc + 2).toNat = s.pc.toNat + 2 :=
  toNat_add_two (Nat.le_trans (Nat.le_of_lt h.1) (by decide))

theorem Faces.unique {s : State} {op op' : Op} (h : s.Faces op) (h' : s.Faces op') : op = op' :=
  h.2.unique h'.2

theorem Faces.step_eq {s : State} {op : Op} (h : s.Faces op) :
    s.step = s.fetched.execute s.nextCode := by
  rw [State.step_eq, if_neg]
  exact Nat.not_le.mpr h.1

theorem Faces.ofCode?_eq {s : State} {op : Op} (h : s.Faces op) :
    Op.ofCode? s.nextCode = some op :=
  Op.ofCode?_word_eq_some_iff.mpr h.2

theorem Faces.step_eq_ok_iff {s s' : State} {op : Op} (h : s.Faces op) :
    s.step = .ok s' ↔ s.fetched.refusal? ⟨op, s.nextCode⟩ s.pc.toNat = none ∧
      s' = { s.fetched.perform ⟨op, s.nextCode⟩ with trace := s.trace.push ⟨s.pc, s.nextWord⟩ } := by
  rw [h.step_eq, execute_eq_ok_iff, instructionAddress_fetched, word_nextCode, h.ofCode?_eq]
  constructor
  · rintro ⟨op', hop', hrun, hs'⟩
    cases hop'
    exact ⟨hrun, hs'⟩
  · rintro ⟨hrun, hs'⟩
    exact ⟨op, rfl, hrun, hs'⟩

theorem Faces.step_eq_error_iff {s : State} {op : Op} {f : Fault} (h : s.Faces op) :
    s.step = .error f ↔ s.fetched.refusal? ⟨op, s.nextCode⟩ s.pc.toNat = some f := by
  rw [h.step_eq, execute_eq_error_iff, instructionAddress_fetched, h.ofCode?_eq]
  simp

/-- A step succeeds if it faces an operation that is not refused. -/
theorem step_eq_ok_iff {s s' : State} :
    s.step = .ok s' ↔ ∃ op, s.Faces op ∧
      s.fetched.refusal? ⟨op, s.nextCode⟩ s.pc.toNat = none ∧
      s' = { s.fetched.perform ⟨op, s.nextCode⟩ with trace := s.trace.push ⟨s.pc, s.nextWord⟩ } := by
  constructor
  · intro h
    rw [step_eq] at h
    by_cases hpc : 0xFFF ≤ s.pc.toNat
    · rw [if_pos hpc] at h
      cases h
    · rw [if_neg hpc] at h
      obtain ⟨op, hop, hrest⟩ := execute_eq_ok_iff.mp h
      have hfaces : s.Faces op := ⟨Nat.not_le.mp hpc, Op.ofCode?_word_eq_some_iff.mp hop⟩
      rw [instructionAddress_fetched, word_nextCode] at hrest
      exact ⟨op, hfaces, hrest⟩
  · rintro ⟨op, hfaces, hrest⟩
    exact hfaces.step_eq_ok_iff.mpr hrest

/-- A step fails because its word leaves memory, because the word has no
pattern, or because the operation that it faces is refused. -/
theorem step_eq_error_iff {s : State} {f : Fault} :
    s.step = .error f ↔
      (0xFFF ≤ s.pc.toNat ∧ f = .memoryAccess (s.pc.toNat + 1 : Nat) none) ∨
      (s.pc.toNat < 0xFFF ∧ (∀ op : Op, ¬ op.Matches s.nextCode) ∧
        f = .unimplemented s.nextCode (some s.pc.toNat)) ∨
      ∃ op, s.Faces op ∧ s.fetched.refusal? ⟨op, s.nextCode⟩ s.pc.toNat = some f := by
  constructor
  · intro h
    rw [step_eq] at h
    by_cases hpc : 0xFFF ≤ s.pc.toNat
    · rw [if_pos hpc] at h
      cases h
      exact .inl ⟨hpc, rfl⟩
    · have hlt := Nat.not_le.mp hpc
      rw [if_neg hpc] at h
      rcases execute_eq_error_iff.mp h with ⟨hnone, hf⟩ | ⟨op, hop, hrefused⟩
      · rw [instructionAddress_fetched] at hf
        exact .inr (.inl ⟨hlt, Op.ofCode?_word_eq_none_iff.mp hnone, hf⟩)
      · rw [instructionAddress_fetched] at hrefused
        exact .inr (.inr ⟨op, ⟨hlt, Op.ofCode?_word_eq_some_iff.mp hop⟩, hrefused⟩)
  · rintro (⟨hpc, rfl⟩ | ⟨hpc, hnone, rfl⟩ | ⟨op, hfaces, hrefused⟩)
    · rw [step_eq, if_pos hpc]
    · rw [step_eq, if_neg (Nat.not_le.mpr hpc), execute_eq_error_iff, instructionAddress_fetched]
      exact .inl ⟨Op.ofCode?_word_eq_none_iff.mpr hnone, rfl⟩
    · exact hfaces.step_eq_error_iff.mpr hrefused

end State

end Chip8
