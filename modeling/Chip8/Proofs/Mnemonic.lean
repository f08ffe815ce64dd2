import Chip8.Proofs.FormatText
import Chip8.Proofs.Step

/-!
# A mnemonic tells what its instruction does

A mnemonic leaves digits of its code out: the last one of `5XY_` and `9XY_`, the
second register of a shift, all bits of a wide code but the low 16. No
instruction looks at what its mnemonic leaves out, neither when it is run
(`State.perform_eq_of_fields`) nor when it is refused
(`State.refusal?_eq_of_fields`). So codes with the same mnemonic do the same in
every state, but for the code itself, which the trace records and a fault names
(`State.execute_alike_of_mnemonic`).
-/

namespace Chip8

/-- The same fault of another code. -/
def Fault.withCode (c : Code) : Fault → Fault
  | unimplemented _ address => unimplemented c address
  | memoryAccess address (some _) => memoryAccess address (some c)
  | f => f

namespace Instruction

/-- Codes whose operands agree as far as the mnemonic of an operation shows
them. -/
def AlikeShown (op : Op) (c d : Code) : Prop :=
  ∀ f ∈ op.fields, field ⟨op, c⟩ f = field ⟨op, d⟩ f

section Shown

variable {op : Op} {c d : Code} (h : AlikeShown op c d)
include h

theorem AlikeShown.x_eq (hf : Field.x ∈ op.fields) : c.x = d.x := by
  have hx : (c.x.val : Int) = d.x.val := h .x hf
  omega

theorem AlikeShown.y_eq (hf : Field.y ∈ op.fields) : c.y = d.y := by
  have hy : (c.y.val : Int) = d.y.val := h .y hf
  omega

theorem AlikeShown.n_eq (hf : Field.n ∈ op.fields) : c.n = d.n := by
  have hn : (c.n.val : Int) = d.n.val := h .n hf
  omega

theorem AlikeShown.nn_eq (hf : Field.nn ∈ op.fields) : c.nn = d.nn := by
  have hnn : (c.nn.toNat : Int) = d.nn.toNat := h .nn hf
  exact UInt8.toNat_inj.mp (Int.ofNat_inj.mp hnn)

theorem AlikeShown.nnn_eq (hf : Field.nnn ∈ op.fields) : c.nnn = d.nnn := by
  have hnnn : (c.nnn.toNat : Int) = d.nnn.toNat := h .nnn hf
  exact UInt16.toNat_inj.mp (Int.ofNat_inj.mp hnnn)

/-- The memory operand starts at the index and ends where a shown operand says. -/
theorem AlikeShown.lastAddress?_eq (index : UInt16) :
    lastAddress? ⟨op, c⟩ index = lastAddress? ⟨op, d⟩ index := by
  cases op
  case drw => simp only [lastAddress?, n, h.n_eq (by decide)]
  case storeRegs | loadRegs => simp only [lastAddress?, x, h.x_eq (by decide)]
  all_goals rfl

end Shown

end Instruction

namespace State

open Instruction

variable {op : Op} {c d : Code}

/-- No operation looks at an operand that its mnemonic leaves out. -/
theorem perform_eq_of_fields (h : AlikeShown op c d) (s : State) :
    s.perform ⟨op, c⟩ = s.perform ⟨op, d⟩ := by
  -- the cases are grouped by the operands that the format shows; a shift reads
  -- `VX` only, so its second register does not count
  cases op
  case cls | ret => rfl
  case jp | call | ldI | jpV0 => simp only [perform, nnn, h.nnn_eq (by decide)]
  case seByte | sneByte | ldByte | addByte | rnd =>
    simp only [perform, x, nn, h.x_eq (by decide), h.nn_eq (by decide)]
  case seReg | sneReg | ldReg | or | and | xor | addReg | sub | subn =>
    simp only [perform, x, y, h.x_eq (by decide), h.y_eq (by decide)]
  case drw =>
    simp only [perform, x, y, n, h.x_eq (by decide), h.y_eq (by decide), h.n_eq (by decide)]
  all_goals simp only [perform, x, h.x_eq (by decide)]

/-- An instruction is refused for the same reason, in which its own code is
named. -/
theorem refusal?_eq_of_fields (h : AlikeShown op c d) (s : State) (a : Int) :
    s.refusal? ⟨op, d⟩ a = (s.refusal? ⟨op, c⟩ a).map (Fault.withCode d) := by
  simp only [refusal?, h.lastAddress?_eq]
  split
  · rfl
  · split
    · rfl
    · split
      · split <;> rfl
      · rfl

/-- A fault names the code of the instruction that is refused, or none. -/
theorem withCode_of_refusal? {s : State} {a : Int} {f : Fault}
    (h : s.refusal? ⟨op, c⟩ a = some f) : f.withCode c = f := by
  rcases refusal?_eq_some_iff.mp h with ⟨-, -, rfl⟩ | ⟨-, -, rfl⟩ | ⟨last, -, -, rfl⟩ <;> rfl

/-- The results of running two codes in a state that differ in nothing but these
codes: one names the one where the other names the other. -/
inductive AlikeButCode (s : State) (c d : Code) : Except Fault State → Except Fault State → Prop
  /-- The new records show different words. -/
  | ok (t : State) : AlikeButCode s c d
      (.ok { t with trace := s.trace.push ⟨s.instructionAddress, c.word⟩ })
      (.ok { t with trace := s.trace.push ⟨s.instructionAddress, d.word⟩ })
  /-- The faults, if they name a code, name different ones. -/
  | error (f : Fault) : AlikeButCode s c d (.error (f.withCode c)) (.error (f.withCode d))

theorem execute_alike_of_fields (hc : Op.ofCode? c = some op) (hd : Op.ofCode? d = some op)
    (h : AlikeShown op c d) (s : State) : AlikeButCode s c d (s.execute c) (s.execute d) := by
  cases hrefused : s.refusal? ⟨op, c⟩ s.instructionAddress.toNat with
  | none =>
      have hrun : s.refusal? ⟨op, d⟩ s.instructionAddress.toNat = none := by
        rw [refusal?_eq_of_fields h, hrefused]
        rfl
      rw [execute_eq_ok_iff.mpr ⟨op, hc, hrefused, rfl⟩, execute_eq_ok_iff.mpr ⟨op, hd, hrun, rfl⟩,
        perform_eq_of_fields h]
      exact .ok _
  | some f =>
      have hfail : s.refusal? ⟨op, d⟩ s.instructionAddress.toNat = some (f.withCode d) := by
        rw [refusal?_eq_of_fields h, hrefused]
        rfl
      have halike : AlikeButCode s c d (.error (f.withCode c)) (.error (f.withCode d)) := .error f
      rw [withCode_of_refusal? hrefused] at halike
      rw [execute_eq_error_iff.mpr (.inr ⟨op, hc, hrefused⟩),
        execute_eq_error_iff.mpr (.inr ⟨op, hd, hfail⟩)]
      exact halike

/-- **A mnemonic tells everything that its instruction does.** Two codes that
decode have the same mnemonic exactly if they ask for the same operation and
agree on the operands that its format shows. If so, they do the same in every
state: both run, and the states behind them differ in the new record's word
only, or both fail with the same fault, apart from the code that it names. -/
theorem execute_alike_of_mnemonic {a b : Option Int} {i j : Instruction}
    (hi : decode c a = .ok i) (hj : decode d b = .ok j) :
    (i.mnemonic = j.mnemonic ↔ i.op = j.op ∧ ∀ f ∈ i.op.fields, i.field f = j.field f) ∧
    (i.mnemonic = j.mnemonic → ∀ s : State, AlikeButCode s c d (s.execute c) (s.execute d)) := by
  refine ⟨mnemonic_eq_iff, fun htext s => ?_⟩
  obtain ⟨hop, hfields⟩ := mnemonic_eq_iff.mp htext
  obtain ⟨i, c'⟩ := i
  obtain ⟨j, d'⟩ := j
  obtain ⟨hc, rfl⟩ := decode_eq_ok_iff.mp hi
  obtain ⟨hd, rfl⟩ := decode_eq_ok_iff.mp hj
  obtain rfl : i = j := hop
  exact execute_alike_of_fields hc hd hfields s

/-- A shift with another second register, in a code that is negative. -/
theorem execute_alike_of_mnemonic_shift :
    let s := { fresh [0x12, 0x00] ⟨0, 7⟩ with v := Vector.replicate 16 0x81 }
    mnemonic ⟨.shr, 0x8126⟩ = mnemonic ⟨.shr, -0x7EBA⟩ ∧
      s.AlikeButCode 0x8126 (-0x7EBA) (s.execute 0x8126) (s.execute (-0x7EBA)) ∧
      (s.execute (-0x7EBA)).toOption.map (·.v.toList.take 2) = some [0x81, 0x40] := by
  intro s
  have hi : decode 0x8126 none = .ok ⟨.shr, 0x8126⟩ := rfl
  have hj : decode (-0x7EBA) (some 0x200) = .ok ⟨.shr, -0x7EBA⟩ := rfl
  obtain ⟨htext, halike⟩ := execute_alike_of_mnemonic hi hj
  have hsame : mnemonic ⟨.shr, 0x8126⟩ = mnemonic ⟨.shr, -0x7EBA⟩ :=
    htext.mpr ⟨rfl, by decide +kernel⟩
  exact ⟨hsame, halike hsame s, by decide +kernel⟩

end State

end Chip8
