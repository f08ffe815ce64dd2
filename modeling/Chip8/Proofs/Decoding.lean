import Chip8.Proofs.Grammar
import Mathlib.Data.Int.Bitwise

/-!
# Decoding any integer

`Instruction.decode_accepts_and_splits` is the contract of the decoder on codes
of any size and sign. `Code.Accepted` says in terms of the value of the low 16
bits which codes it takes; family `0` alone looks at the code as a whole, so
`00EE` is taken and `100EE` is not. What it takes it splits without loss: the
digits add up to the low 16 bits, and each of them, like each longer operand,
is what a mask and a shift cut out of the two's complement (`Code.CutOut`).
-/

namespace Chip8

namespace Code

theorem toNat_nnn_eq (c : Code) : c.nnn.toNat = 256 * c.x.val + c.nn.toNat := by
  have hnn := toNat_nn c
  have hnnn := toNat_nnn c
  simp only [x]
  omega

/-! ## Digits as bits -/

/-- The `n` bits of the two's complement from place `k` on: those under a mask of `n`
ones at that place, moved down. -/
def bits (c : Code) (k n : Nat) : Int := Int.land c ((2 ^ n - 1) <<< k : Nat) >>> k

/-- Bits are a quotient rounded down and a remainder. -/
theorem bits_eq (c : Code) (k n : Nat) : c.bits k n = (c / 2 ^ k % 2 ^ n : Int) := by
  unfold bits
  have hk : (0 : Int) < 2 ^ k := Int.pow_pos (by decide)
  have hn : (0 : Int) < 2 ^ n := Int.pow_pos (by decide)
  cases c with
  | ofNat m =>
      have hnat : (m &&& (2 ^ n - 1) <<< k) >>> k = m / 2 ^ k % 2 ^ n := by
        rw [Nat.shiftRight_and_distrib, Nat.shiftLeft_shiftRight, Nat.and_two_pow_sub_one_eq_mod,
          Nat.shiftRight_eq_div_pow]
      exact_mod_cast congrArg Int.ofNat hnat
  | negSucc m =>
      have hlt : m / 2 ^ k % 2 ^ n < 2 ^ n := Nat.mod_lt _ (Nat.two_pow_pos n)
      -- the two's complement of `-m - 1` has the bits of `m`, each the other way round
      have hnat : Nat.ldiff ((2 ^ n - 1) <<< k) m >>> k = 2 ^ n - (m / 2 ^ k % 2 ^ n + 1) := by
        refine Nat.eq_of_testBit_eq fun i => ?_
        rw [Nat.testBit_shiftRight, Nat.testBit_ldiff, Nat.testBit_shiftLeft,
          Nat.testBit_two_pow_sub_succ hlt, Nat.testBit_mod_two_pow, Nat.testBit_div_two_pow,
          Nat.testBit_two_pow_sub_one, Nat.add_comm i k, Nat.add_sub_cancel_left]
        by_cases hi : i < n <;> simp [hi]
      have hquotient : Int.negSucc m / 2 ^ k = Int.negSucc (m / 2 ^ k) := by
        rw [Int.negSucc_ediv _ hk, Int.negSucc_eq]
        push_cast
        rfl
      have hremainder : Int.negSucc (m / 2 ^ k) % 2 ^ n =
          ((2 ^ n - (m / 2 ^ k % 2 ^ n + 1) : Nat) : Int) := by
        rw [Int.negSucc_emod _ hn]
        push_cast [Nat.succ_le_of_lt hlt]
        omega
      rw [hquotient, hremainder, ← hnat]
      rfl

/-- The digits and operands of a code are bits of its two's complement. -/
structure CutOut (c : Code) : Prop where
  opcode : (c.opcode.val : Int) = c.bits 12 4
  x : (c.x.val : Int) = c.bits 8 4
  y : (c.y.val : Int) = c.bits 4 4
  n : (c.n.val : Int) = c.bits 0 4
  nn : (c.nn.toNat : Int) = c.bits 0 8
  nnn : (c.nnn.toNat : Int) = c.bits 0 12

theorem cutOut (c : Code) : c.CutOut where
  opcode := by
    rw [bits_eq, Code.opcode]
    simp only
    omega
  x := by
    rw [bits_eq, Code.x]
    simp only
    omega
  y := by
    rw [bits_eq, Code.y]
    simp only
    omega
  n := by
    rw [bits_eq, Code.n]
    simp only
    omega
  nn := by
    rw [bits_eq, toNat_nn]
    omega
  nnn := by
    rw [bits_eq, toNat_nnn]
    omega

/-! ## The accepted codes -/

/-- Whether a code belongs to the instruction set, told from the value of its low 16
bits, and in family `0` from the code as a whole. -/
def Accepted (c : Code) : Prop :=
  let low := (c % 65536).toNat
  let family := low / 4096
  (1 ≤ family ∧ family ≤ 7 ∨ family = 9 ∨ 0xA ≤ family ∧ family ≤ 0xD) ∨
    (family = 8 ∧ (low % 16 ≤ 7 ∨ low % 16 = 0xE)) ∨
    (family = 0xE ∧ (low % 256 = 0x9E ∨ low % 256 = 0xA1)) ∨
    (family = 0xF ∧ low % 256 ∈ [0x07, 0x0A, 0x15, 0x18, 0x1E, 0x29, 0x33, 0x55, 0x65]) ∨
    c = 0x00E0 ∨ c = 0x00EE

instance (c : Code) : Decidable c.Accepted := inferInstanceAs (Decidable (_ ∨ _))

end Code

namespace Op

theorem isSome_ofArithmetic? :
    ∀ n : Fin 16, (ofArithmetic? n.val).isSome = true ↔ n.val ≤ 7 ∨ n.val = 0xE := by
  decide

theorem isSome_ofKeypad? (b : Nat) : (ofKeypad? b).isSome = true ↔ b = 0x9E ∨ b = 0xA1 := by
  unfold ofKeypad?
  split <;> simp_all

theorem isSome_ofTransfer? (b : Nat) :
    (ofTransfer? b).isSome = true ↔
      b ∈ [0x07, 0x0A, 0x15, 0x18, 0x1E, 0x29, 0x33, 0x55, 0x65] := by
  unfold ofTransfer?
  split <;> simp_all

/-- The codes that ask for an operation are the accepted ones. -/
theorem isSome_ofCode?_iff {c : Code} : (ofCode? c).isSome = true ↔ c.Accepted := by
  have hfamily : (c % 65536).toNat / 4096 = c.opcode.val := by
    simp only [Code.opcode]
    omega
  have hdigit : (c % 65536).toNat % 16 = c.n.val := by
    simp only [Code.n]
    omega
  have hbyte : (c % 65536).toNat % 256 = c.nn.toNat := by
    have hnn := c.toNat_nn
    omega
  -- no other family looks at the code as a whole
  have hsystem : c.opcode.val ≠ 0 → ¬ (c = 0x00E0 ∨ c = 0x00EE) := by
    rintro h (rfl | rfl) <;> exact h rfl
  simp only [Code.Accepted, hfamily, hdigit, hbyte]
  unfold ofCode?
  split
  case h_1 h =>
    rw [h]
    by_cases hcls : c = 0x00E0
    · simp [hcls]
    · by_cases hret : c = 0x00EE
      · simp [hret]
      · simp [hcls, hret]
  case h_9 h =>
    have hs := hsystem (by omega)
    rw [isSome_ofArithmetic?, h]
    simp [hs]
  case h_15 h =>
    have hs := hsystem (by omega)
    rw [isSome_ofKeypad?, h]
    simp [hs]
  case h_16 =>
    have h : c.opcode.val = 15 := by
      have hlt := c.opcode.isLt
      simp only [imp_false] at *
      omega
    have hs := hsystem (by omega)
    rw [isSome_ofTransfer?, h]
    simp [hs]
  -- the families of a single operation
  all_goals
    rename_i h
    simp [h]

end Op

namespace Instruction

/-! ## The decoder -/

/-- The operands of an instruction give back the low 16 bits of the code that it was
decoded from, and the instruction keeps that code. -/
structure SplitFrom (i : Instruction) (c : Code) : Prop where
  code : i.code = c
  digits : (4096 * i.opcode.val + 256 * i.x.val + 16 * i.y.val + i.n.val : Int) = c % 65536
  nn : i.nn.toNat = 16 * i.y.val + i.n.val
  nnn : i.nnn.toNat = 256 * i.x.val + i.nn.toNat
  cutOut : i.code.CutOut

theorem splitFrom_code (i : Instruction) : i.SplitFrom i.code where
  code := rfl
  digits := i.code.digits_eq
  nn := i.code.toNat_nn_eq
  nnn := i.code.toNat_nnn_eq
  cutOut := i.code.cutOut

/-- Two instructions agree in everything but the code they keep. -/
structure SameParts (i j : Instruction) : Prop where
  op : i.op = j.op
  opcode : i.opcode = j.opcode
  x : i.x = j.x
  y : i.y = j.y
  n : i.n = j.n
  nn : i.nn = j.nn
  nnn : i.nnn = j.nnn

/-- The operands of a code are those of its low 16 bits. -/
theorem sameParts_low (op : Op) (c : Code) : SameParts ⟨op, c % 65536⟩ ⟨op, c⟩ := by
  have hdigits := c.digits_word
  rw [c.toNat_word] at hdigits
  obtain ⟨hopcode, hx, hy, hn⟩ := hdigits
  refine ⟨rfl, hopcode, hx, hy, hn, ?_, ?_⟩
  · show UInt8.ofNat (c % 65536 % 256).toNat = _
    rw [Int.emod_emod_of_dvd c (by decide)]
    rfl
  · show UInt16.ofNat (c % 65536 % 4096).toNat = _
    rw [Int.emod_emod_of_dvd c (by decide)]
    rfl

theorem exists_decode_iff {c : Code} {address : Option Int} :
    (∃ i, decode c address = .ok i) ↔ c.Accepted := by
  rw [← Op.isSome_ofCode?_iff, Option.isSome_iff_exists]
  constructor
  · rintro ⟨i, hi⟩
    exact ⟨i.op, (decode_eq_ok_iff.mp hi).1⟩
  · rintro ⟨op, hop⟩
    exact ⟨⟨op, c⟩, decode_eq_ok_iff.mpr ⟨hop, rfl⟩⟩

/-- What a code of any size decodes to, its low 16 bits decode to as well. -/
theorem decode_low {c : Code} {address : Option Int} {i : Instruction}
    (h : decode c address = .ok i) (address' : Option Int) :
    decode (c % 65536) address' = .ok ⟨i.op, c % 65536⟩ := by
  have hop := Op.ofCode?_word (decode_eq_ok_iff.mp h).1
  rw [c.toNat_word] at hop
  exact decode_eq_ok_iff.mpr ⟨hop, rfl⟩

/-- The contract of the decoder, for every integer and every address. It takes the accepted
codes and refuses each other one, naming it and the address. No two patterns overlap; what is
decoded has the operation whose pattern the code matches, keeps the code, and splits its low
16 bits without loss, so that these alone decode to the same parts. -/
theorem decode_accepts_and_splits (c : Code) (address : Option Int) :
    ((∃ i, decode c address = .ok i) ↔ c.Accepted) ∧
      (¬ c.Accepted → decode c address = .error (.unimplemented c address)) ∧
      (∀ op op' : Op, op.Matches c → op'.Matches c → op = op') ∧
      ∀ i, decode c address = .ok i →
        i.op.Matches c ∧ i.SplitFrom c ∧
          ∀ address', ∃ j, decode (c % 65536) address' = .ok j ∧ j.code = c % 65536 ∧
            j.SameParts i := by
  refine ⟨exists_decode_iff, fun hc => ?_, fun op op' => Op.Matches.unique, fun i hi => ?_⟩
  · rw [← Op.isSome_ofCode?_iff, Option.not_isSome_iff_eq_none] at hc
    exact decode_eq_error_iff.mpr ⟨hc, rfl⟩
  · obtain ⟨op, code⟩ := i
    obtain ⟨hop, rfl⟩ := decode_eq_ok_iff.mp hi
    exact ⟨(Op.matches_of_ofCode? hop).1, splitFrom_code _, fun address' =>
      ⟨_, decode_low hi address', rfl, sameParts_low op code⟩⟩

/-- A negative code whose low 16 bits read `8146` is taken and split, and the code `100EE` is
refused although its low half is a return. -/
theorem decode_accepts_and_splits_wide :
    ((∃ i, decode (-0x7EBA) none = .ok i ∧ i.SplitFrom (-0x7EBA)) ∧
      decode 0x100EE (some 0x200) = .error (.unimplemented 0x100EE (some 0x200))) := by
  obtain ⟨i, hi⟩ := (decode_accepts_and_splits (-0x7EBA) none).1.mpr (by decide)
  have hsplit := ((decode_accepts_and_splits (-0x7EBA) none).2.2.2 i hi).2.1
  exact ⟨⟨i, hi, hsplit⟩, (decode_accepts_and_splits 0x100EE (some 0x200)).2.1 (by decide)⟩

end Instruction

end Chip8
