import Chip8.Proofs.Frame

/-!
# Arithmetic with a flag

Five operations on two registers give a result and a flag: the sum with its carry,
the two differences with a flag that is up when nothing was borrowed, and the two
shifts with the bit that is shifted out. For each of them the operands, the result
and the flag satisfy an equation between natural numbers (`Op.Balances`), and one
byte and one flag only satisfy it. Both are computed from the registers as they
were, and the flag is written last, so the equation holds whichever registers
coincide (`State.flag_balances_result`); where the result and the flag go to the
same register, the flag stays.
-/

namespace Chip8

open Layout

namespace Op

/-- The operations that give a result and a flag. -/
def flagged : List Op := [.addReg, .sub, .shr, .subn, .shl]

/-- The equation between the operands `a` and `b` of an operation, its result `r`
and its flag `f`. -/
def Balances (op : Op) (a b r f : Nat) : Prop :=
  match op with
  | .addReg => r + 256 * f = a + b
  | .sub => (r : Int) = a - b + 256 * (1 - f) ∧ (f = 1 ↔ b ≤ a)
  | .shr => a = 2 * r + f
  | .subn => (r : Int) = b - a + 256 * (1 - f) ∧ (f = 1 ↔ a ≤ b)
  | .shl => 2 * a = r + 256 * f
  | _ => False

/-- One byte and one flag only satisfy the equation. -/
theorem Balances.unique {op : Op} {a b r f r' f' : Nat} (h : op.Balances a b r f) (hr : r < 256)
    (hf : f ≤ 1) (h' : op.Balances a b r' f') (hr' : r' < 256) (hf' : f' ≤ 1) :
    r' = r ∧ f' = f := by
  cases op <;> simp only [Balances] at h h'
  case addReg | sub | shr | subn | shl => omega

end Op

namespace Alu

variable (a b : UInt8)

/-- A flag as a number. -/
theorem toNat_decide (p : Prop) [Decidable p] : (decide p).toNat = if p then 1 else 0 := by
  by_cases h : p <;> simp [h]

theorem balances_add :
    Op.Balances .addReg a.toNat b.toNat (add a b).value.toNat (add a b).flag.toNat := by
  have ha := a.toNat_lt
  have hb := b.toNat_lt
  simp only [Op.Balances, add, UInt8.toNat_add, toNat_decide]
  split <;> omega

/-- What is borrowed comes back as 256, whichever operand is taken from the other. -/
theorem toNat_sub_borrow :
    ((sub a b).value.toNat : Int) = a.toNat - b.toNat + 256 * (1 - (sub a b).flag.toNat) ∧
      ((sub a b).flag.toNat = 1 ↔ b.toNat ≤ a.toNat) := by
  have ha := a.toNat_lt
  have hb := b.toNat_lt
  simp only [sub, UInt8.toNat_sub, UInt8.le_iff_toNat_le, toNat_decide]
  split <;> omega

theorem balances_sub :
    Op.Balances .sub a.toNat b.toNat (sub a b).value.toNat (sub a b).flag.toNat :=
  toNat_sub_borrow a b

theorem balances_subn :
    Op.Balances .subn a.toNat b.toNat (sub b a).value.toNat (sub b a).flag.toNat :=
  toNat_sub_borrow b a

theorem balances_shiftRight :
    Op.Balances .shr a.toNat b.toNat (shiftRight a).value.toNat (shiftRight a).flag.toNat := by
  have htwo : (2 : UInt8).toNat = 2 := rfl
  have hodd : a % 2 = 1 ↔ a.toNat % 2 = 1 := UInt8.toNat_inj.symm
  simp only [Op.Balances, shiftRight, UInt8.toNat_div, htwo, hodd, toNat_decide]
  split <;> omega

theorem balances_shiftLeft :
    Op.Balances .shl a.toNat b.toNat (shiftLeft a).value.toNat (shiftLeft a).flag.toNat := by
  have ha := a.toNat_lt
  have htwo : (2 : UInt8).toNat = 2 := rfl
  have hhigh : 128 ≤ a ↔ 128 ≤ a.toNat := UInt8.le_iff_toNat_le
  simp only [Op.Balances, shiftLeft, UInt8.toNat_mul, htwo, hhigh, toNat_decide]
  split <;> omega

end Alu

namespace State

theorem reg_setFlagged (s : State) (x : Fin 16) (r : Flagged) (k : Fin 16) :
    (s.setFlagged x r).reg k =
      if k = flagRegister then r.flag.toUInt8 else if k = x then r.value else s.reg k := by
  simp only [setFlagged, setFlag, reg_setReg, @eq_comm _ k]

/-- What an operation with a flag does: its result goes to `VX` and its flag, which
balances it, to the flag register. -/
theorem perform_flagged (s : State) {i : Instruction} (hop : i.op ∈ Op.flagged) :
    ∃ r : Flagged, s.perform i = s.setFlagged i.x r ∧
      i.op.Balances (s.reg i.x).toNat (s.reg i.y).toNat r.value.toNat r.flag.toNat := by
  simp only [Op.flagged, List.mem_cons, List.not_mem_nil, or_false] at hop
  rcases hop with h | h | h | h | h <;> rw [perform, h]
  · exact ⟨_, rfl, Alu.balances_add _ _⟩
  · exact ⟨_, rfl, Alu.balances_sub _ _⟩
  · exact ⟨_, rfl, Alu.balances_shiftRight _ _⟩
  · exact ⟨_, rfl, Alu.balances_subn _ _⟩
  · exact ⟨_, rfl, Alu.balances_shiftLeft _ _⟩

/-- **Arithmetic with a flag.** In every state and for all registers, the same or
not, such an instruction succeeds. One byte `r` and one flag `f` balance the values
that `VX` and `VY` had: `f` is what the flag register holds afterwards, also if it
is `VX`, `r` is in `VX` otherwise, and all other registers are as they were. -/
theorem flag_balances_result {s : State} {c : Code} {op : Op} (hop : Op.ofCode? c = some op)
    (hflagged : op ∈ Op.flagged) :
    ∃ s' r f, s.execute c = .ok s' ∧
      (r < 256 ∧ f ≤ 1 ∧ op.Balances (s.reg c.x).toNat (s.reg c.y).toNat r f) ∧
      (∀ r' f', r' < 256 → f' ≤ 1 → op.Balances (s.reg c.x).toNat (s.reg c.y).toNat r' f' →
        r' = r ∧ f' = f) ∧
      (s'.reg flagRegister).toNat = f ∧
      (c.x ≠ flagRegister → (s'.reg c.x).toNat = r) ∧
      ∀ k, k ≠ c.x → k ≠ flagRegister → s'.reg k = s.reg k := by
  obtain ⟨r, hperform, hbalances⟩ := s.perform_flagged (i := ⟨op, c⟩) hflagged
  have hnone : ∀ op ∈ Op.flagged, op ∉ Op.refusable := by decide
  have hclear := refusal?_eq_none_of_not_mem (i := ⟨op, c⟩) (hnone op hflagged) s
    s.instructionAddress.toNat
  have hbyte : r.value.toNat < 256 := r.value.toNat_lt
  have hbit : r.flag.toNat ≤ 1 := r.flag.toNat_le
  have hreg : ∀ k, (s.perform ⟨op, c⟩).reg k =
      if k = flagRegister then r.flag.toUInt8 else if k = c.x then r.value else s.reg k := by
    intro k
    rw [hperform, reg_setFlagged]
  refine ⟨_, r.value.toNat, r.flag.toNat, execute_eq_ok_iff.mpr ⟨op, hop, hclear, rfl⟩,
    ⟨hbyte, hbit, hbalances⟩, ?_, ?_, ?_, ?_⟩
  · intro r' f' hr' hf' h'
    exact hbalances.unique hbyte hbit h' hr' hf'
  · show ((s.perform ⟨op, c⟩).reg flagRegister).toNat = _
    rw [hreg, if_pos rfl]
    cases r.flag <;> rfl
  · intro hx
    show ((s.perform ⟨op, c⟩).reg c.x).toNat = _
    rw [hreg, if_neg hx, if_pos rfl]
  · intro k hx hflag
    show (s.perform ⟨op, c⟩).reg k = s.reg k
    rw [hreg, if_neg hflag, if_neg hx]

/-- With 200 in `VF` and 100 in `VA`: the sum in `VF` leaves its carry only, and the
difference in `VA` has borrowed, although the flag overwrites its second operand. -/
theorem flag_balances_result_flag_register :
    let s := ((fresh [] ⟨0, 7⟩).setReg 0xF 200).setReg 0xA 100
    (∃ s', s.execute 0x8FA4 = .ok s' ∧ (s'.reg 0xF).toNat = 1 ∧ s'.reg 0xA = 100) ∧
      ∃ s', s.execute 0x8AF5 = .ok s' ∧ (s'.reg 0xF).toNat = 0 ∧ (s'.reg 0xA).toNat = 156 := by
  intro s
  have hF : (s.reg 0xF).toNat = 200 := by decide
  have hA : (s.reg 0xA).toNat = 100 := by decide
  have hadd : Op.ofCode? 0x8FA4 = some .addReg := by decide +kernel
  have hsub : Op.ofCode? 0x8AF5 = some .sub := by decide +kernel
  constructor
  · obtain ⟨s', r, f, hrun, ⟨hr, hf, hsum⟩, -, hflag, -, hrest⟩ :=
      flag_balances_result (s := s) hadd (by decide)
    have hsum : r + 256 * f = (s.reg 0xF).toNat + (s.reg 0xA).toNat := hsum
    have hcarry : f = 1 := by omega
    exact ⟨s', hrun, hflag.trans hcarry, hrest 0xA (by decide +kernel) (by decide)⟩
  · obtain ⟨s', r, f, hrun, ⟨hr, hf, hdifference, hborrow⟩, -, hflag, hresult, -⟩ :=
      flag_balances_result (s := s) hsub (by decide)
    have hdifference : (r : Int) = (s.reg 0xA).toNat - (s.reg 0xF).toNat + 256 * (1 - f) :=
      hdifference
    have hborrow : f = 1 ↔ (s.reg 0xF).toNat ≤ (s.reg 0xA).toNat := hborrow
    have hdown : f = 0 := by omega
    have hbyte : r = 156 := by omega
    exact ⟨s', hrun, hflag.trans hdown, (hresult (by decide +kernel)).trans hbyte⟩

end State

end Chip8
