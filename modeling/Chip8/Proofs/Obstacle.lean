import Chip8.Proofs.Subroutine
import Chip8.Proofs.TraceView

/-!
# What stops a step

Five things can stand in the way of a step (`Obstacle`): the program counter
has left memory, the word there is no instruction, a call finds every slot in
use, a return finds none in use, or a memory operand ends behind the last
address. Each has the fault that it raises, which names the instruction at the
program counter and not the address that a fetch has already moved on to. A
step that meets an obstacle raises its fault, a step that meets none succeeds
and is recorded, and no state has two obstacles (`State.step_fails_iff_blocked`).
-/

namespace Chip8

open Layout

/-- What can stand in the way of a step. -/
inductive Obstacle where
  /-- The word to fetch leaves memory. -/
  | pastEnd
  /-- The word has the pattern of no operation. -/
  | unknown
  /-- A call, and sixteen return addresses are pending. -/
  | full
  /-- A return, and no return address is pending. -/
  | empty
  /-- A memory operand that ends at `last`, behind the end of memory. -/
  | operand (last : Int)
deriving DecidableEq, Repr

namespace Obstacle

/-- Whether an obstacle stands in the way of the next step. -/
def Blocks (s : State) : Obstacle → Prop
  | pastEnd => 0xFFF ≤ s.pc.toNat
  | unknown => s.pc.toNat < 0xFFF ∧ ∀ op : Op, ¬ op.Matches s.nextCode
  | full => s.Faces .call ∧ s.stack.contents.length = 16
  | empty => s.Faces .ret ∧ s.stack.contents = []
  | operand last => 0xFFF < last ∧
      ∃ op, s.Faces op ∧ Instruction.lastAddress? ⟨op, s.nextCode⟩ s.index = some last

/-- The fault that an obstacle raises. -/
def fault (s : State) : Obstacle → Fault
  | pastEnd => .memoryAccess (s.pc.toNat + 1 : Nat) none
  | unknown => .unimplemented s.nextCode (some s.pc.toNat)
  | full => .stackOverflow s.pc.toNat
  | empty => .stackUnderflow s.pc.toNat
  | operand last => .memoryAccess last (some s.nextCode)

variable {s : State}

/-- Obstacles are told apart by their faults: of the two that are memory
accesses, one names a code. -/
theorem fault_injective {o o' : Obstacle} (h : o.fault s = o'.fault s) : o = o' := by
  cases o <;> cases o' <;> simp_all [fault]

/-- The operations whose memory operand can end behind the last address. -/
theorem faces_of_operand {last : Int} (h : (operand last).Blocks s) :
    s.Faces .drw ∨ s.Faces .bcd ∨ s.Faces .storeRegs ∨ s.Faces .loadRegs := by
  obtain ⟨-, op, hfaces, hlast⟩ := h
  rcases Instruction.op_of_lastAddress? hlast with hop | hop | hop | hop <;>
    simp only at hop <;> subst hop
  · exact .inl hfaces
  · exact .inr (.inl hfaces)
  · exact .inr (.inr (.inl hfaces))
  · exact .inr (.inr (.inr hfaces))

end Obstacle

namespace State

/-- A step raises the faults of the obstacles in its way and no others. -/
theorem step_eq_error_iff_blocks {s : State} (hplace : s.stack.InPlace) {f : Fault} :
    s.step = .error f ↔ ∃ o : Obstacle, o.Blocks s ∧ o.fault s = f := by
  rw [step_eq_error_iff]
  constructor
  · rintro (⟨hpc, rfl⟩ | ⟨hpc, hnone, rfl⟩ | ⟨op, hfaces, hrefused⟩)
    · exact ⟨.pastEnd, hpc, rfl⟩
    · exact ⟨.unknown, ⟨hpc, hnone⟩, rfl⟩
    · -- the operation is known, so it is one of its own obstacles
      rcases refusal?_eq_some_iff.mp hrefused with
        ⟨hop, hfull, rfl⟩ | ⟨hop, hempty, rfl⟩ | ⟨last, hlast, hout, rfl⟩
      · cases hop
        exact ⟨.full, ⟨hfaces, hplace.isFull_iff.mp hfull⟩, rfl⟩
      · cases hop
        exact ⟨.empty, ⟨hfaces, hplace.isEmpty_iff.mp hempty⟩, rfl⟩
      · exact ⟨.operand last, ⟨hout, op, hfaces, hlast⟩, rfl⟩
  · rintro ⟨o, ho, rfl⟩
    cases o with
    | pastEnd => exact .inl ⟨ho, rfl⟩
    | unknown => exact .inr (.inl ⟨ho.1, ho.2, rfl⟩)
    | full =>
        refine .inr (.inr ⟨.call, ho.1, refusal?_eq_some_iff.mpr ?_⟩)
        exact .inl ⟨rfl, hplace.isFull_iff.mpr ho.2, rfl⟩
    | empty =>
        refine .inr (.inr ⟨.ret, ho.1, refusal?_eq_some_iff.mpr ?_⟩)
        exact .inr (.inl ⟨rfl, hplace.isEmpty_iff.mpr ho.2, rfl⟩)
    | operand last =>
        obtain ⟨hout, op, hfaces, hlast⟩ := ho
        refine .inr (.inr ⟨op, hfaces, refusal?_eq_some_iff.mpr ?_⟩)
        exact .inr (.inr ⟨last, hlast, hout, rfl⟩)

/-- An obstacle in the way is what the fault of the step says, since no two
obstacles raise the same fault. -/
theorem step_eq_fault_iff {s : State} (hplace : s.stack.InPlace) {o : Obstacle} :
    s.step = .error (o.fault s) ↔ o.Blocks s := by
  rw [step_eq_error_iff_blocks hplace]
  constructor
  · rintro ⟨o', ho', hfault⟩
    rw [← Obstacle.fault_injective hfault]
    exact ho'
  · intro ho
    exact ⟨o, ho, rfl⟩

/-- **What a step can raise.** After every run of single calls a step fails
exactly if an obstacle is in its way: with the fault of that obstacle and no
other, and never are two in its way. Operands past the end of memory occur with
four operations only. A step without an obstacle succeeds and has recorded its
address and its word. -/
theorem step_fails_iff_blocked {program : List UInt8} {rng : Key} {s₀ : State}
    (hload : load program rng = .ok s₀) {calls : List Call} (hcalls : ∀ c ∈ calls, c.isSingle) :
    let s := s₀.after calls
    (∀ o : Obstacle, s.step = .error (o.fault s) ↔ o.Blocks s) ∧
    (∀ f, s.step = .error f → ∃ o : Obstacle, o.Blocks s ∧ o.fault s = f) ∧
    (∀ o o' : Obstacle, o.Blocks s → o'.Blocks s → o = o') ∧
    (∀ last, (Obstacle.operand last).Blocks s →
      0xFFF < last ∧ (s.Faces .drw ∨ s.Faces .bcd ∨ s.Faces .storeRegs ∨ s.Faces .loadRegs)) ∧
    ((∀ o : Obstacle, ¬ o.Blocks s) → ∃ s', s.step = .ok s') ∧
    ∀ s', s.step = .ok s' →
      s'.trace.records = Trace.latest (s.trace.records ++ [⟨s.pc, s.nextWord⟩]) := by
  intro s
  have hplace : s.stack.InPlace := (returns_after hload hcalls).inPlace
  refine ⟨fun o => step_eq_fault_iff hplace, fun f => (step_eq_error_iff_blocks hplace).mp,
    ?_, ?_, ?_, fun s' => records_step⟩
  · intro o o' ho ho'
    have hs := (step_eq_fault_iff hplace).mpr ho
    rw [(step_eq_fault_iff hplace).mpr ho'] at hs
    exact (Obstacle.fault_injective (Except.error.inj hs)).symm
  · intro last ho
    exact ⟨ho.1, Obstacle.faces_of_operand ho⟩
  · intro hclear
    apply exists_ok_of_ne_error
    intro f hs
    obtain ⟨o, ho, -⟩ := (step_eq_error_iff_blocks hplace).mp hs
    exact hclear o ho

/-- With `I` at the last address the three digits of `FX33` end at `0x1001`. -/
theorem step_fails_iff_blocked_digits_at_end :
    let s := (fresh [0xAF, 0xFF, 0xF3, 0x33] ⟨0, 7⟩).after [.step, .tick]
    (Obstacle.operand 0x1001).Blocks s ∧
      s.step = .error (.memoryAccess 0x1001 (some 0xF333)) := by
  intro s
  obtain ⟨hfaults, -⟩ :=
    step_fails_iff_blocked (show load [0xAF, 0xFF, 0xF3, 0x33] ⟨0, 7⟩ = .ok (fresh _ _) from rfl)
      (show ∀ c ∈ [.step, .tick], Call.isSingle c by decide)
  obtain ⟨hfaces, hlast, hcode⟩ : s.Faces .bcd ∧
      Instruction.lastAddress? ⟨.bcd, s.nextCode⟩ s.index = some 0x1001 ∧
      s.nextCode = 0xF333 := by
    decide +kernel
  have hblocks : (Obstacle.operand 0x1001).Blocks s := ⟨by decide, .bcd, hfaces, hlast⟩
  refine ⟨hblocks, ?_⟩
  rw [← hcode]
  exact (hfaults (.operand 0x1001)).mpr hblocks

end State

end Chip8
