import Chip8.Proofs.Bounds
import Chip8.Proofs.Frame
import Chip8.Proofs.Mnemonic

/-!
# Where a program goes on

A fetch moves the program counter past its word before the instruction runs, and
the instruction then leaves it, moves it on or back, or sets it. Seen from the word
itself this is a rule of its own (`State.goesOn?`): most instructions go on two
bytes further, a skip whose condition holds four, a wait without a key stays where
it is, and jumps, calls and returns go elsewhere. The rule is in natural numbers
and looks at the machine before the step only; `State.goes_on_after_step` says that
every step that succeeds follows it.

The skips come in pairs with opposite conditions (`Op.oppositeSkips`). Of two
machines that face the two skips of a pair, and agree in what a skip looks at,
exactly one passes over the next instruction.
-/

namespace Chip8

/-- The skips, each beside the one that skips when it does not. -/
def Op.oppositeSkips : List (Op × Op) :=
  [(.seByte, .sneByte), (.seReg, .sneReg), (.skp, .sknp)]

/-- Whether an operation passes over the next instruction under a condition. -/
def Op.isSkip : Op → Bool
  | .seByte | .sneByte | .seReg | .sneReg | .skp | .sknp => true
  | _ => false

namespace State

/-- Whether the key is down that the low digit of a register selects. -/
def selectsDown (s : State) (x : Fin 16) : Bool :=
  s.keypad.isDown ⟨(s.reg x).toNat % 16, Nat.mod_lt _ (by decide)⟩

/-- Whether an instruction is a skip whose condition holds. -/
def skips (s : State) (i : Instruction) : Bool :=
  match i.op with
  | .seByte => s.reg i.x = i.nn
  | .sneByte => s.reg i.x ≠ i.nn
  | .seReg => s.reg i.x = s.reg i.y
  | .sneReg => s.reg i.x ≠ s.reg i.y
  | .skp => s.selectsDown i.x
  | .sknp => !s.selectsDown i.x
  | _ => false

/-- The address of the instruction that comes after the given one, which stands at
the program counter. A return has none if there is no slot above the stack
pointer. -/
def goesOn? (s : State) (i : Instruction) : Option Nat :=
  match i.op with
  | .jp | .call => some i.nnn.toNat
  | .jpV0 => some (i.nnn.toNat + (s.reg 0).toNat)
  | .ret => s.stack.slots[(s.stack.pointer.toNat + 1) % 256]?.map UInt16.toNat
  | .waitKey => some (if ∀ key, s.keypad.isDown key = false then s.pc.toNat else s.pc.toNat + 2)
  | _ => some (if s.skips i then s.pc.toNat + 4 else s.pc.toNat + 2)

/-! ## Skips -/

section Skips

variable {s : State} {i : Instruction}

theorem perform_skip (hop : i.op.isSkip = true) : s.perform i = s.skipIf (s.skips i) := by
  cases h : i.op
  case seByte | seReg | skp | sknp =>
    rw [perform, skips, h]
    rfl
  case sneByte | sneReg =>
    rw [perform, skips, h]
    simp only [ne_eq, decide_not]
    rfl
  all_goals
    rw [h] at hop
    cases hop

/-- A skip has nothing that could be refused. -/
theorem not_mem_refusable_of_isSkip (hop : i.op.isSkip = true) : i.op ∉ Op.refusable := by
  intro hmem
  have hnone : ∀ op ∈ Op.refusable, op.isSkip = false := by decide
  exact absurd hop (Bool.eq_false_iff.mp (hnone _ hmem))

/-- Passing over an instruction, seen from the address of the skip. -/
theorem toNat_pc_skipIf (hpc : s.pc.toNat < 0xFFF) (condition : Bool) :
    (s.fetched.skipIf condition).pc.toNat =
      if condition then s.pc.toNat + 4 else s.pc.toNat + 2 := by
  have hw := unwrapped_of_pc_lt hpc
  have hfetched : s.fetched.pc.toNat = s.pc.toNat + 2 := hw.fetch
  cases condition
  · exact hfetched
  · exact hw.skip.trans (congrArg (· + 2) hfetched)

/-- Of two opposite skips with the same operands one passes over the next
instruction and the other does not. -/
theorem skips_opposite {t : State} {op op' : Op} {c d : Code} (hpair : (op, op') ∈ Op.oppositeSkips)
    (hoperands : Instruction.AlikeShown op c d) (hv : t.v = s.v) (hkeypad : t.keypad = s.keypad) :
    t.skips ⟨op', d⟩ = !s.skips ⟨op, c⟩ := by
  have hreg : ∀ x, t.reg x = s.reg x := fun x => by rw [reg, reg, hv]
  have hdown : ∀ x, t.selectsDown x = s.selectsDown x := fun x => by
    simp only [selectsDown, hreg, hkeypad]
  simp only [Op.oppositeSkips, List.mem_cons, Prod.mk.injEq, List.not_mem_nil, or_false] at hpair
  rcases hpair with ⟨rfl, rfl⟩ | ⟨rfl, rfl⟩ | ⟨rfl, rfl⟩
  · have hx : c.x = d.x := hoperands.x_eq (by decide)
    have hnn : c.nn = d.nn := hoperands.nn_eq (by decide)
    simp only [skips, Instruction.x, Instruction.nn, hreg, hx, hnn, ne_eq, decide_not]
  · have hx : c.x = d.x := hoperands.x_eq (by decide)
    have hy : c.y = d.y := hoperands.y_eq (by decide)
    simp only [skips, Instruction.x, Instruction.y, hreg, hx, hy, ne_eq, decide_not]
  · have hx : c.x = d.x := hoperands.x_eq (by decide)
    simp only [skips, Instruction.x, hdown, hx]

end Skips

/-! ## One step -/

variable {s s' : State} {op : Op}

/-- With an address left on the stack, the slot above the pointer holds it. -/
theorem getElem?_slots (hne : s.stack.contents ≠ []) :
    s.stack.slots[(s.stack.pointer.toNat + 1) % 256]? = some s.stack.top := by
  have hle := Stack.succ_pointer_le hne
  rw [← s.stack.toNat_pointer_succ, Stack.top]
  simp only [Nat.min_eq_left hle]
  exact Vector.getElem?_eq_getElem (Nat.lt_succ_of_le hle)

/-- What an instruction that is not refused makes of the program counter, which has
moved past it. -/
theorem goesOn?_eq_perform (hfaces : s.Faces op) (hplace : s.stack.InPlace)
    (hrun : s.fetched.refusal? ⟨op, s.nextCode⟩ s.pc.toNat = none) :
    s.goesOn? ⟨op, s.nextCode⟩ = some (s.fetched.perform ⟨op, s.nextCode⟩).pc.toNat := by
  have hw := unwrapped_of_pc_lt hfaces.1
  have hfetched : (s.pc + 2).toNat = s.pc.toNat + 2 := hw.fetch
  cases op
  case jp | call => rfl
  case jpV0 => exact congrArg some (hw.jump s.nextCode).symm
  case ret =>
    have hempty : s.stack.isEmpty = false := (refusal?_eq_none_iff.mp hrun).2.1 rfl
    have hslot := getElem?_slots (hplace.isEmpty_eq_false_iff.mp hempty)
    simp only [goesOn?, hslot]
    rfl
  case seByte | sneByte | seReg | sneReg | skp | sknp =>
    rw [perform_skip rfl, toNat_pc_skipIf hfaces.1]
    rfl
  case waitKey =>
    have hkeypad : s.fetched.keypad = s.keypad := rfl
    simp only [goesOn?, ← Keypad.lowest?_eq_none_iff]
    rcases perform_waitKey (s := s.fetched) (i := ⟨.waitKey, s.nextCode⟩) rfl with
      ⟨hpc, key, hkey, -⟩ | ⟨hpc, hkey, -⟩ <;> rw [hkeypad] at hkey
    · rw [hpc, hkey, if_neg nofun]
      exact congrArg some hfetched.symm
    · have hback : s.fetched.pc - 2 = s.pc := instructionAddress_fetched s
      rw [hpc, hback, if_pos hkey]
  -- all others leave the program counter where the fetch has put it
  all_goals exact congrArg some hfetched.symm

/-- A machine that faces a skip steps, and goes on where the condition says. -/
theorem step_skip (hfaces : s.Faces op) (hop : op.isSkip = true) :
    ∃ s', s.step = .ok s' ∧ s'.pc.toNat =
      if s.skips ⟨op, s.nextCode⟩ then s.pc.toNat + 4 else s.pc.toNat + 2 := by
  have hclear := refusal?_eq_none_of_not_mem (i := ⟨op, s.nextCode⟩)
    (not_mem_refusable_of_isSkip hop) s.fetched s.pc.toNat
  refine ⟨_, hfaces.step_eq_ok_iff.mpr ⟨hclear, rfl⟩, ?_⟩
  show (s.fetched.perform ⟨op, s.nextCode⟩).pc.toNat = _
  rw [perform_skip hop, toNat_pc_skipIf hfaces.1]
  rfl

/-- **Where a program goes on.** A step that succeeds has found a word in memory,
and goes on where the rule of its operation says: every part of the machine that
the rule looks at is as it was before the step, and no sum in it wraps. Two skips
with opposite conditions and the same operands, in machines whose registers and
keys are the same, both succeed, and exactly one of them passes over the next
instruction. -/
theorem goes_on_after_step :
    (∀ {s s' : State}, s.stack.InPlace → s.step = .ok s' →
      ∃ op, s.Faces op ∧ s.goesOn? ⟨op, s.nextCode⟩ = some s'.pc.toNat) ∧
    ∀ {s t : State} {op op' : Op}, (op, op') ∈ Op.oppositeSkips → s.Faces op → t.Faces op' →
      Instruction.AlikeShown op s.nextCode t.nextCode →
      t.pc = s.pc → t.v = s.v → t.keypad = s.keypad →
      ∃ s' t', s.step = .ok s' ∧ t.step = .ok t' ∧
        ((s'.pc.toNat = s.pc.toNat + 4 ∧ t'.pc.toNat = s.pc.toNat + 2) ∨
          (s'.pc.toNat = s.pc.toNat + 2 ∧ t'.pc.toNat = s.pc.toNat + 4)) := by
  constructor
  · intro s s' hplace hs
    obtain ⟨op, hfaces, hrun, rfl⟩ := step_eq_ok_iff.mp hs
    exact ⟨op, hfaces, goesOn?_eq_perform hfaces hplace hrun⟩
  · intro s t op op' hpair hfaces hfaces' hoperands hpc hv hkeypad
    have hskips : ∀ pair ∈ Op.oppositeSkips, pair.1.isSkip = true ∧ pair.2.isSkip = true := by
      decide
    obtain ⟨s', hs, hnext⟩ := step_skip hfaces (hskips _ hpair).1
    obtain ⟨t', ht, hnext'⟩ := step_skip hfaces' (hskips _ hpair).2
    rw [skips_opposite hpair hoperands hv hkeypad, hpc] at hnext'
    refine ⟨s', t', hs, ht, ?_⟩
    rw [hnext, hnext']
    cases s.skips ⟨op, s.nextCode⟩
    · exact .inr ⟨rfl, rfl⟩
    · exact .inl ⟨rfl, rfl⟩

/-- A return with all slots in use, where the pointer has wrapped, goes where the
last slot says. Of the two skips on the key that `1F` selects, which is down, the
first passes over the next instruction. -/
theorem goes_on_after_step_wrapped_pointer :
    let r := { fresh [] ⟨0, 7⟩ with
      pc := 0, memory := Memory.zero.write 1 0xEE
      stack := ⟨(Vector.replicate 16 0x222).set 0 0x345, 255⟩ }
    let s := { fresh [] ⟨0, 7⟩ with
      pc := 0, memory := (Memory.zero.write 0 0xE3).write 1 0x9E
      v := Vector.replicate 16 0x1F, keypad := Keypad.allUp.set 0xF true }
    let t := { s with memory := (Memory.zero.write 0 0xE3).write 1 0xA1 }
    (∃ r', r.step = .ok r' ∧ r'.pc.toNat = 0x345) ∧
      ∃ s' t', s.step = .ok s' ∧ t.step = .ok t' ∧ s'.pc.toNat = 4 ∧ t'.pc.toNat = 2 := by
  intro r s t
  obtain ⟨hok, hret, hreturn⟩ : r.step.isOk = true ∧ r.Faces .ret ∧
      r.goesOn? ⟨.ret, r.nextCode⟩ = some 0x345 := by
    decide +kernel
  obtain ⟨hskp, hsknp, hoperands, hskip⟩ : s.Faces .skp ∧ t.Faces .sknp ∧
      (∀ f ∈ Op.fields .skp, Instruction.field ⟨.skp, s.nextCode⟩ f =
        Instruction.field ⟨.skp, t.nextCode⟩ f) ∧
      s.goesOn? ⟨.skp, s.nextCode⟩ = some 4 := by
    decide +kernel
  refine ⟨?_, ?_⟩
  · obtain ⟨r', hr⟩ := exists_ok_of_isOk hok
    obtain ⟨op, hfaces, hnext⟩ := goes_on_after_step.1 (.inr rfl) hr
    obtain rfl := hfaces.unique hret
    exact ⟨r', hr, Option.some.inj (hnext.symm.trans hreturn)⟩
  · obtain ⟨s', t', hs, ht, hboth⟩ :=
      goes_on_after_step.2 (by decide) hskp hsknp hoperands rfl rfl rfl
    obtain ⟨op, hfaces, hnext⟩ := goes_on_after_step.1 (.inl (by decide)) hs
    obtain rfl := hfaces.unique hskp
    have hpc : s'.pc.toNat = 4 := Option.some.inj (hnext.symm.trans hskip)
    have hstart : s.pc.toNat = 0 := rfl
    exact ⟨s', t', hs, ht, hpc, by omega⟩

end State

end Chip8
