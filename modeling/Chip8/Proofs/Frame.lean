import Chip8.Proofs.Step

/-!
# What an instruction leaves alone

For each part of a machine the operations that may change it are few, and for
memory and registers they are confined to a few addresses and targets
(`State.Frame`). An instruction that runs changes nothing else
(`State.frame_of_execute`). The field lemmas of the operations carry most of it;
what is left are the registers, where the operations that set `VX`, report
through the flag register or load a row of registers are told apart, and the
addresses that an instruction stores to.
-/

namespace Chip8

open Layout

/-- The operations that set `VX`. -/
def Op.setsX : Op → Bool
  | .ldByte | .addByte | .ldReg | .or | .and | .xor | .addReg | .sub | .shr | .subn | .shl
  | .rnd | .getDelay | .waitKey => true
  | _ => false

/-- The operations that report through the flag register. -/
def Op.setsFlag : Op → Bool
  | .addReg | .sub | .shr | .subn | .shl | .drw => true
  | _ => false

namespace Instruction

/-- Whether a register is a target of an instruction: `VX` itself, or one of the
registers up to `VX` when they are loaded from memory. -/
def Targets (i : Instruction) (k : Fin 16) : Prop :=
  (i.op.setsX = true ∧ k = i.x) ∨ (i.op = .loadRegs ∧ k ≤ i.x)

/-- The addresses that an instruction stores to. -/
def stores (i : Instruction) (index : UInt16) : List Nat :=
  match i.op with
  | .bcd => List.range' index.toNat 3
  | .storeRegs => List.range' index.toNat (i.x.val + 1)
  | _ => []

instance (i : Instruction) (k : Fin 16) : Decidable (i.Targets k) :=
  inferInstanceAs (Decidable (_ ∨ _))

theorem mem_stores_iff {i : Instruction} {index : UInt16} {a : Nat} :
    a ∈ i.stores index ↔
      (i.op = .bcd ∧ index.toNat ≤ a ∧ a ≤ index.toNat + 2) ∨
      (i.op = .storeRegs ∧ index.toNat ≤ a ∧ a ≤ index.toNat + i.x.val) := by
  unfold stores
  split <;> rename_i hop
  · simp only [hop, List.mem_range'_1, true_and, reduceCtorEq, false_and, or_false]
    omega
  · simp only [hop, List.mem_range'_1, true_and, reduceCtorEq, false_and, false_or]
    omega
  · simp_all

end Instruction

namespace State

theorem length_firstRegs (s : State) (x : Fin 16) : (s.firstRegs x).length = x.val + 1 := by
  have hx := x.isLt
  simp only [firstRegs, List.length_take, Vector.length_toList]
  omega

theorem read_perform_of_not_mem {s : State} {i : Instruction} {a : Nat} (ha : a < 4096)
    (h : a ∉ i.stores s.index) : (s.perform i).memory.read a = s.memory.read a := by
  rw [memory_perform]
  split
  · rename_i hop
    rw [Instruction.stores, hop] at h
    exact Memory.read_writeAll_of_not_mem ha h _
  · split
    · rename_i hop
      rw [Instruction.stores, hop] at h
      refine Memory.read_writeAll_of_not_mem ha ?_ _
      rw [length_firstRegs]
      exact h
    · rfl

section Registers

variable {s : State} {i : Instruction} {k : Fin 16}

theorem reg_setReg_of_ne {x : Fin 16} {b : UInt8} (h : k ≠ x) : (s.setReg x b).reg k = s.reg k := by
  rw [reg_setReg, if_neg h.symm]

theorem reg_setFlagged_of_ne {x : Fin 16} {r : Flagged} (hx : k ≠ x) (hf : k ≠ flagRegister) :
    (s.setFlagged x r).reg k = s.reg k := by
  rw [setFlagged, setFlag, reg_setReg_of_ne hf, reg_setReg_of_ne hx]

theorem reg_awaitKey_of_ne {x : Fin 16} {key : Option (Fin 16)} (h : k ≠ x) :
    (s.awaitKey x key).reg k = s.reg k := by
  cases key with
  | none => rfl
  | some key => exact reg_setReg_of_ne h

theorem reg_perform_of_not_targets (hk : ¬ i.Targets k)
    (hflag : i.op.setsFlag = true → k ≠ flagRegister) : (s.perform i).reg k = s.reg k := by
  -- one case per way of writing registers: `VX`, `VX` with the flag, the flag
  -- alone, a row; what is left writes none
  have hx : i.op.setsX = true → k ≠ i.x := fun hset heq => hk (.inl ⟨hset, heq⟩)
  cases hop : i.op <;> rw [hop] at hx hflag <;> rw [perform, hop]
  case ldByte | addByte | ldReg | or | and | xor | getDelay => exact reg_setReg_of_ne (hx rfl)
  case rnd =>
    show (s.setReg i.x _).reg k = s.reg k
    exact reg_setReg_of_ne (hx rfl)
  case addReg | sub | shr | subn | shl => exact reg_setFlagged_of_ne (hx rfl) (hflag rfl)
  case drw =>
    show (setFlag _ _).reg k = s.reg k
    exact reg_setReg_of_ne (hflag rfl)
  case waitKey => exact reg_awaitKey_of_ne (hx rfl)
  case loadRegs =>
    have hle : ¬ k ≤ i.x := fun hle => hk (.inr ⟨hop, hle⟩)
    show (loadedRegs s.memory s.index.toNat s.v i.x).get k = s.v.get k
    rw [get_loadedRegs, if_neg hle]
  all_goals rfl

theorem perform_waitKey (hop : i.op = .waitKey) :
    ((s.perform i).pc = s.pc ∧
      ∃ key, s.keypad.lowest? = some key ∧ (s.perform i).reg i.x = UInt8.ofNat key.val) ∨
    ((s.perform i).pc = s.pc - 2 ∧ s.keypad.lowest? = none ∧ (s.perform i).v = s.v) := by
  rw [perform, hop]
  cases hkey : s.keypad.lowest? with
  | none => exact .inr ⟨rfl, rfl, rfl⟩
  | some key =>
      refine .inl ⟨rfl, key, rfl, ?_⟩
      show (s.setReg i.x _).reg i.x = _
      rw [reg_setReg, if_pos rfl]

end Registers

/-- How the state behind an instruction relates to the state before it: each
part is the same, or the operation is one of those that may change it. -/
structure Frame (i : Instruction) (s s' : State) : Prop where
  keypad : s'.keypad = s.keypad
  program : s'.program = s.program
  display : s'.display = s.display ∨ i.op = .cls ∨ i.op = .drw
  stack : s'.stack = s.stack ∨ i.op = .call ∨ i.op = .ret
  rng : s'.rng = s.rng ∨ i.op = .rnd
  delay : s'.delay = s.delay ∨ i.op = .setDelay
  sound : s'.sound = s.sound ∨ i.op = .setSound
  index : s'.index = s.index ∨ i.op = .ldI ∨ i.op = .addI ∨ i.op = .font
  memory : ∀ a < 4096, s'.memory.read a = s.memory.read a ∨
    (i.op = .bcd ∧ s.index.toNat ≤ a ∧ a ≤ s.index.toNat + 2) ∨
    (i.op = .storeRegs ∧ s.index.toNat ≤ a ∧ a ≤ s.index.toNat + i.x.val)
  reg : ∀ k ≠ flagRegister, s'.reg k = s.reg k ∨ i.Targets k
  flag : s'.reg flagRegister = s.reg flagRegister ∨
    i.op.setsFlag = true ∨ i.Targets flagRegister
  /-- These operations never report through the flag register. -/
  silent : i.op ∈ [.addByte, .ldReg, .or, .and, .xor] →
    s'.reg flagRegister = s.reg flagRegister ∨ i.x = flagRegister
  addI : i.op = .addI → s'.v = s.v
  /-- A wait sets `VX` or goes back, and never does both. -/
  wait : i.op = .waitKey →
    (s'.pc = s.pc ∧ ∃ key, s.keypad.lowest? = some key ∧ s'.reg i.x = UInt8.ofNat key.val) ∨
    (s'.pc = s.pc - 2 ∧ s'.pc ≠ s.pc ∧ s.keypad.lowest? = none ∧ s'.v = s.v)

theorem sub_two_ne (w : UInt16) : w - 2 ≠ w := by
  intro h
  have hback : w - 2 + 2 = w := UInt16.sub_add_cancel w 2
  have hnat := congrArg UInt16.toNat hback
  rw [h, UInt16.toNat_add, show (2 : UInt16).toNat = 2 from rfl] at hnat
  have hlt := w.toNat_lt
  omega

section Ite

variable {α : Type} {p q : Prop} [Decidable p]

theorem ite_eq_self_or (a b : α) : (if p then a else b) = b ∨ p := by
  split
  · exact .inr ‹p›
  · exact .inl rfl

theorem ite_eq_or {a b c : α} (h : b = c ∨ q) : (if p then a else b) = c ∨ p ∨ q := by
  split
  · exact .inr (.inl ‹p›)
  · exact h.imp_right .inr

end Ite

/-- What an operation does stays within the frame, and so does the record that
is added to the trace. -/
theorem frame_perform (s : State) (i : Instruction) (t : Trace) :
    Frame i s { s.perform i with trace := t } where
  keypad := keypad_perform s i
  program := program_perform s i
  display := by
    rw [display_perform]
    exact ite_eq_or (ite_eq_self_or _ _)
  stack := by
    rw [stack_perform]
    exact ite_eq_or (ite_eq_self_or _ _)
  rng := by
    rw [rng_perform]
    exact ite_eq_self_or _ _
  delay := by
    rw [delay_perform]
    exact ite_eq_self_or _ _
  sound := by
    rw [sound_perform]
    exact ite_eq_self_or _ _
  index := by
    rw [index_perform]
    exact ite_eq_or (ite_eq_or (ite_eq_self_or _ _))
  memory := by
    intro a ha
    by_cases hstored : a ∈ i.stores s.index
    · exact .inr (Instruction.mem_stores_iff.mp hstored)
    · exact .inl (read_perform_of_not_mem ha hstored)
  reg := by
    intro k hk
    by_cases htarget : i.Targets k
    · exact .inr htarget
    · exact .inl (reg_perform_of_not_targets htarget fun _ => hk)
  flag := by
    by_cases htarget : i.Targets flagRegister
    · exact .inr (.inr htarget)
    · by_cases hflag : i.op.setsFlag = true
      · exact .inr (.inl hflag)
      · exact .inl (reg_perform_of_not_targets htarget fun h => absurd h hflag)
  silent := by
    intro hop
    -- none of the five sets the flag or loads registers, so only `VX` is left
    have hsets : i.op.setsFlag = false ∧ i.op ≠ .loadRegs := by
      revert hop
      cases i.op <;> decide
    by_cases hx : i.x = flagRegister
    · exact .inr hx
    · refine .inl (reg_perform_of_not_targets ?_ fun hflag => ?_)
      · rintro (⟨-, heq⟩ | ⟨hload, -⟩)
        · exact hx heq.symm
        · exact hsets.2 hload
      · rw [hsets.1] at hflag
        cases hflag
  addI := by
    intro hop
    show (s.perform i).v = s.v
    rw [perform, hop]
  wait := by
    intro hop
    rcases perform_waitKey hop with hset | ⟨hpc, hkey, hv⟩
    · exact .inl hset
    · refine .inr ⟨hpc, ?_, hkey, hv⟩
      show (s.perform i).pc ≠ s.pc
      rw [hpc]
      exact sub_two_ne s.pc

/-- **Frame of every instruction.** A code that runs asks for an operation, and
the state behind it differs from the state before it only where the frame of
this operation lets it. -/
theorem frame_of_execute {s s' : State} {c : Code} (h : s.execute c = .ok s') :
    ∃ op, Op.ofCode? c = some op ∧ Frame ⟨op, c⟩ s s' := by
  obtain ⟨op, hop, -, rfl⟩ := execute_eq_ok_iff.mp h
  exact ⟨op, hop, frame_perform s ⟨op, c⟩ _⟩

/-- Three registers stored in the last three bytes of memory: the byte before
them, the flag register and the stack are as they were. -/
theorem frame_of_execute_store_at_end :
    let s := { fresh [0x12, 0x00] ⟨0, 7⟩ with index := 0xFFD, v := Vector.replicate 16 0xAB }
    ∃ s', s.execute 0xF255 = .ok s' ∧ s'.memory.read 0xFFF = 0xAB ∧
      s'.memory.read 0xFFC = s.memory.read 0xFFC ∧ s'.reg 0xF = s.reg 0xF ∧
      s'.stack = s.stack := by
  intro s
  have hrun : (s.execute 0xF255).toOption.map (·.memory.read 0xFFF) = some 0xAB := by
    decide +kernel
  cases hs : s.execute 0xF255 with
  | error f =>
      rw [hs] at hrun
      cases hrun
  | ok s' =>
      rw [hs] at hrun
      obtain ⟨op, hop, hframe⟩ := frame_of_execute hs
      have hstore : op = .storeRegs := by
        rw [show Op.ofCode? 0xF255 = some .storeRegs by decide +kernel] at hop
        exact (Option.some.inj hop).symm
      subst hstore
      refine ⟨s', rfl, Option.some.inj hrun, ?_, ?_, ?_⟩
      · rcases hframe.memory 0xFFC (by decide) with hsame | ⟨hop, -⟩ | ⟨-, hle, -⟩
        · exact hsame
        · cases hop
        · exact absurd hle (by decide)
      · rcases hframe.flag with hsame | hflag | htarget
        · exact hsame
        · cases hflag
        · exact absurd htarget (by decide +kernel)
      · rcases hframe.stack with hsame | hop | hop
        · exact hsame
        · cases hop
        · cases hop

end State

end Chip8
