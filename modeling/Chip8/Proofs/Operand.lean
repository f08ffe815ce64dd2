import Chip8.Proofs.Run

/-!
# Memory operands at the end of memory

The memory operand of an instruction is a row of addresses that begins at the index
register: one for each row of a sprite, three for the decimal digits, one for each
register that is stored or loaded (`Instruction.operand`). The check before an
instruction runs looks at one address only, the last one, and for operands that
are not empty this is enough: an instruction is refused exactly if its operand
leaves memory. A sprite without rows has no last address; the check takes the one
before the index, so such a sprite is refused, although it touches no memory, when
the index is past `0x1000` (`State.memory_fault_iff_operand_leaves`).
-/

namespace Chip8

open Layout

namespace Instruction

/-- How many bytes of memory an instruction reads or writes. -/
def operandSize (i : Instruction) : Nat :=
  match i.op with
  | .drw => i.n.val
  | .bcd => 3
  | .storeRegs | .loadRegs => i.x.val + 1
  | _ => 0

/-- The addresses that an instruction reads or writes. -/
def operand (i : Instruction) (index : UInt16) : List Nat :=
  List.range' index.toNat i.operandSize

/-- Whether an instruction reads or writes behind the last address. -/
def Leaves (i : Instruction) (index : UInt16) : Prop :=
  ∃ a ∈ i.operand index, lastAddress < a

/-- Whether an instruction draws a sprite without rows, placed more than one byte
behind the last address. -/
def DrawsNothingBehind (i : Instruction) (index : UInt16) : Prop :=
  i.op = .drw ∧ i.n = 0 ∧ lastAddress + 1 < index.toNat

instance (i : Instruction) (index : UInt16) : Decidable (i.Leaves index) :=
  inferInstanceAs (Decidable (∃ a ∈ i.operand index, _))

instance (i : Instruction) (index : UInt16) : Decidable (i.DrawsNothingBehind index) :=
  inferInstanceAs (Decidable (_ ∧ _))

variable {i : Instruction} {index : UInt16}

/-- The checked address is the last one of the operand, except for a sprite
without rows. -/
theorem last_cases {last : Int} (h : i.lastAddress? index = some last) :
    (∃ a ∈ i.operand index, last = (a : Int)) ∨
      (i.op = .drw ∧ i.n = 0 ∧ last = index.toNat - 1) := by
  have hmem : ∀ k, i.operandSize = k + 1 → index.toNat + k ∈ i.operand index := by
    intro k hk
    rw [operand, hk]
    exact List.mem_range'_1.mpr ⟨Nat.le_add_right _ _, by omega⟩
  unfold lastAddress? at h
  split at h <;> rename_i hop
  · cases h
    by_cases hn : i.n = 0
    · exact .inr ⟨hop, hn, by simp [hn]⟩
    · obtain ⟨k, hk⟩ := Nat.exists_eq_add_one_of_ne_zero (Fin.val_ne_zero_iff.mpr hn)
      refine .inl ⟨_, hmem k (by rw [operandSize, hop, hk]), ?_⟩
      rw [hk]
      omega
  · cases h
    exact .inl ⟨_, hmem 2 (by rw [operandSize, hop]), rfl⟩
  · cases h
    exact .inl ⟨_, hmem i.x.val (by rw [operandSize, hop]), rfl⟩
  · cases h
    exact .inl ⟨_, hmem i.x.val (by rw [operandSize, hop]), rfl⟩
  · cases h

/-- No address of an operand lies behind the checked one. -/
theorem exists_last_of_mem {a : Nat} (ha : a ∈ i.operand index) :
    ∃ last, i.lastAddress? index = some last ∧ (a : Int) ≤ last := by
  rw [operand, List.mem_range'_1] at ha
  cases hop : i.op
  case drw | bcd | storeRegs | loadRegs =>
    simp only [operandSize, hop] at ha
    rw [lastAddress?, hop]
    exact ⟨_, rfl, by omega⟩
  -- no other operation has an operand
  all_goals
    simp only [operandSize, hop] at ha
    omega

/-- The checked address is too high if the operand leaves memory, and for some
sprites without rows. -/
theorem last_high_iff :
    (∃ last, i.lastAddress? index = some last ∧ (lastAddress : Int) < last) ↔
      i.Leaves index ∨ i.DrawsNothingBehind index := by
  constructor
  · rintro ⟨last, hlast, hhigh⟩
    rcases last_cases hlast with ⟨a, ha, rfl⟩ | ⟨hop, hn, rfl⟩
    · exact .inl ⟨a, ha, by omega⟩
    · exact .inr ⟨hop, hn, by omega⟩
  · rintro (⟨a, ha, hhigh⟩ | ⟨hop, hn, hhigh⟩)
    · obtain ⟨last, hlast, hle⟩ := exists_last_of_mem ha
      exact ⟨last, hlast, by omega⟩
    · refine ⟨_, by rw [lastAddress?, hop], ?_⟩
      simp only [hn, Fin.val_zero]
      omega

end Instruction

namespace State

/-- An instruction raises a memory access for the checked address of its operand
and for no other. -/
theorem execute_eq_memoryAccess_iff {s : State} {c : Code} {op : Op}
    (hop : Op.ofCode? c = some op) {a : Int} {code : Option Code} :
    s.execute c = .error (.memoryAccess a code) ↔
      Instruction.lastAddress? ⟨op, c⟩ s.index = some a ∧ (lastAddress : Int) < a ∧
        code = some c := by
  rw [execute_eq_error_iff]
  constructor
  · rintro (⟨-, hf⟩ | ⟨op', hop', hrefused⟩)
    · cases hf
    · obtain rfl : op = op' := Option.some.inj (hop.symm.trans hop')
      rcases refusal?_eq_some_iff.mp hrefused with ⟨-, -, hf⟩ | ⟨-, -, hf⟩ | ⟨last, hlast, hout, hf⟩
      · cases hf
      · cases hf
      · cases hf
        exact ⟨hlast, hout, rfl⟩
  · rintro ⟨hlast, hout, rfl⟩
    exact .inr ⟨op, hop, refusal?_eq_some_iff.mpr (.inr (.inr ⟨a, hlast, hout, rfl⟩))⟩

/-- **Memory faults.** Of the instructions that the stack does not hold up, those
fail whose operand leaves memory, with an address of the operand behind the end of
memory, and besides them only the sprites without rows more than one byte behind
the last address, with the address before the index. All others succeed. -/
theorem memory_fault_iff_operand_leaves {s : State} {c : Code} {op : Op}
    (hop : Op.ofCode? c = some op) (hcall : op = .call → s.stack.isFull = false)
    (hret : op = .ret → s.stack.isEmpty = false) :
    let i : Instruction := ⟨op, c⟩
    ((∃ a code, s.execute c = .error (.memoryAccess a code)) ↔
      i.Leaves s.index ∨ i.DrawsNothingBehind s.index) ∧
    (∀ a code, s.execute c = .error (.memoryAccess a code) → code = some c ∧
      ((∃ b ∈ i.operand s.index, a = (b : Int) ∧ lastAddress < b) ∨
        (i.DrawsNothingBehind s.index ∧ a = s.index.toNat - 1))) ∧
    (¬ i.Leaves s.index → ¬ i.DrawsNothingBehind s.index → ∃ s', s.execute c = .ok s') := by
  intro i
  refine ⟨?_, ?_, ?_⟩
  · rw [← Instruction.last_high_iff]
    constructor
    · rintro ⟨a, code, h⟩
      obtain ⟨hlast, hhigh, -⟩ := (execute_eq_memoryAccess_iff hop).mp h
      exact ⟨a, hlast, hhigh⟩
    · rintro ⟨last, hlast, hhigh⟩
      exact ⟨last, some c, (execute_eq_memoryAccess_iff hop).mpr ⟨hlast, hhigh, rfl⟩⟩
  · intro a code h
    obtain ⟨hlast, hhigh, hcode⟩ := (execute_eq_memoryAccess_iff hop).mp h
    refine ⟨hcode, ?_⟩
    rcases Instruction.last_cases hlast with ⟨b, hb, rfl⟩ | ⟨hdraw, hn, rfl⟩
    · exact .inl ⟨b, hb, rfl, Int.ofNat_lt.mp hhigh⟩
    · exact .inr ⟨⟨hdraw, hn, by omega⟩, rfl⟩
  · intro hstays hbehind
    have hclear : s.refusal? i s.instructionAddress.toNat = none := by
      refine refusal?_eq_none_iff.mpr ⟨hcall, hret, fun last hlast => ?_⟩
      refine Int.not_lt.mp fun hhigh => ?_
      exact (Instruction.last_high_iff.mp ⟨last, hlast, hhigh⟩).elim hstays hbehind
    exact ⟨_, execute_eq_ok_iff.mpr ⟨op, hop, hclear, rfl⟩⟩

/-- With the index two bytes before the end of memory a sprite of three rows leaves
memory, and one of two rows does not. -/
theorem memory_fault_iff_operand_leaves_third_row :
    let s := { fresh [] ⟨0, 7⟩ with index := 0xFFE }
    s.execute 0xD123 = .error (.memoryAccess 0x1000 (some 0xD123)) ∧
      ∃ s', s.execute 0xD122 = .ok s' := by
  intro s
  obtain ⟨hop, hop', hoperand, hstays⟩ :
      Op.ofCode? 0xD123 = some .drw ∧ Op.ofCode? 0xD122 = some .drw ∧
      Instruction.operand ⟨.drw, 0xD123⟩ s.index = [0xFFE, 0xFFF, 0x1000] ∧
      ¬ Instruction.Leaves ⟨.drw, 0xD122⟩ s.index ∧
        ¬ Instruction.DrawsNothingBehind ⟨.drw, 0xD122⟩ s.index := by
    decide +kernel
  obtain ⟨hfails, hplace, -⟩ := memory_fault_iff_operand_leaves (s := s) hop (by simp) (by simp)
  obtain ⟨-, -, hsucceeds⟩ := memory_fault_iff_operand_leaves (s := s) hop' (by simp) (by simp)
  refine ⟨?_, hsucceeds hstays.1 hstays.2⟩
  obtain ⟨a, code, herror⟩ := hfails.mpr (.inl ⟨0x1000, by rw [hoperand]; decide, by decide⟩)
  obtain ⟨rfl, ⟨b, hb, rfl, hhigh⟩ | ⟨⟨-, hn, -⟩, -⟩⟩ := hplace a code herror
  · -- of the three rows only the last one lies behind the end
    rw [hoperand] at hb
    simp only [List.mem_cons, List.not_mem_nil, or_false, lastAddress] at hb hhigh
    obtain rfl : b = 0x1000 := by omega
    exact herror
  · exact absurd hn (by decide)

/-- A sprite without rows, with the index two bytes behind the last address, is
refused for the byte before the index, although its operand is empty. -/
theorem memory_fault_without_operand :
    let s := (fresh [] ⟨0, 7⟩).after [.execute 0xAFFF, .execute 0x6102, .execute 0xF11E]
    Instruction.operand ⟨.drw, 0xD120⟩ s.index = [] ∧
      s.execute 0xD120 = .error (.memoryAccess 0x1000 (some 0xD120)) := by
  intro s
  obtain ⟨hop, hoperand, hlast⟩ :
      Op.ofCode? 0xD120 = some .drw ∧ Instruction.operand ⟨.drw, 0xD120⟩ s.index = [] ∧
      Instruction.lastAddress? ⟨.drw, 0xD120⟩ s.index = some 0x1000 := by
    decide +kernel
  exact ⟨hoperand, (execute_eq_memoryAccess_iff hop).mpr ⟨hlast, by decide, rfl⟩⟩

end State

end Chip8
