import Chip8.Instruction
import Chip8.Layout

/-!
# The grammar as patterns

`Op.ofCode?` looks codes up family by family. Here the same grammar is a table
of patterns, one for each operation: four digits of which some are fixed and
the others free. `Op.ofCode?_eq_some_iff` ties the two together, for codes of
any size: a code asks for the operation whose pattern its low 16 bits match,
and in family `0` the code has to be those 16 bits and nothing else.
-/

namespace Chip8

namespace Code

theorem toNat_nn_eq (c : Code) : c.nn.toNat = 16 * c.y.val + c.n.val := by
  have h := toNat_nn c
  simp only [y, n]
  omega

/-- The low 16 bits are made of the four digits. -/
theorem digits_eq (c : Code) :
    (4096 * c.opcode.val + 256 * c.x.val + 16 * c.y.val + c.n.val : Int) = c % 65536 := by
  simp only [opcode, x, y, n]
  omega

/-- The digits of a code are those of its low 16 bits. -/
theorem digits_word (c : Code) :
    opcode (c.word.toNat : Int) = c.opcode ∧ x (c.word.toNat : Int) = c.x ∧
      y (c.word.toNat : Int) = c.y ∧ n (c.word.toNat : Int) = c.n := by
  have h := toNat_word c
  simp only [opcode, x, y, n, Fin.mk.injEq]
  omega

@[simp] theorem word_toNat (w : UInt16) : word (w.toNat : Int) = w := by
  apply UInt16.toNat_inj.mp
  have h := toNat_word (w.toNat : Int)
  have hw := w.toNat_lt
  omega

end Code

namespace Op

/-- The digits of an operation, the highest first; `none` stands for a digit
that is free. -/
def pattern : Op → List (Option (Fin 16))
  | cls => [some 0x0, some 0x0, some 0xE, some 0x0]
  | ret => [some 0x0, some 0x0, some 0xE, some 0xE]
  | jp => [some 0x1, none, none, none]
  | call => [some 0x2, none, none, none]
  | seByte => [some 0x3, none, none, none]
  | sneByte => [some 0x4, none, none, none]
  | seReg => [some 0x5, none, none, none]
  | ldByte => [some 0x6, none, none, none]
  | addByte => [some 0x7, none, none, none]
  | ldReg => [some 0x8, none, none, some 0x0]
  | or => [some 0x8, none, none, some 0x1]
  | and => [some 0x8, none, none, some 0x2]
  | xor => [some 0x8, none, none, some 0x3]
  | addReg => [some 0x8, none, none, some 0x4]
  | sub => [some 0x8, none, none, some 0x5]
  | shr => [some 0x8, none, none, some 0x6]
  | subn => [some 0x8, none, none, some 0x7]
  | shl => [some 0x8, none, none, some 0xE]
  | sneReg => [some 0x9, none, none, none]
  | ldI => [some 0xA, none, none, none]
  | jpV0 => [some 0xB, none, none, none]
  | rnd => [some 0xC, none, none, none]
  | drw => [some 0xD, none, none, none]
  | skp => [some 0xE, none, some 0x9, some 0xE]
  | sknp => [some 0xE, none, some 0xA, some 0x1]
  | getDelay => [some 0xF, none, some 0x0, some 0x7]
  | waitKey => [some 0xF, none, some 0x0, some 0xA]
  | setDelay => [some 0xF, none, some 0x1, some 0x5]
  | setSound => [some 0xF, none, some 0x1, some 0x8]
  | addI => [some 0xF, none, some 0x1, some 0xE]
  | font => [some 0xF, none, some 0x2, some 0x9]
  | bcd => [some 0xF, none, some 0x3, some 0x3]
  | storeRegs => [some 0xF, none, some 0x5, some 0x5]
  | loadRegs => [some 0xF, none, some 0x6, some 0x5]

/-- Whether the low 16 bits of a code have the fixed digits of an operation. -/
def Matches (op : Op) (c : Code) : Prop :=
  ∀ p ∈ op.pattern.zip [c.opcode, c.x, c.y, c.n], p.1 = none ∨ p.1 = some p.2

instance (op : Op) (c : Code) : Decidable (op.Matches c) :=
  inferInstanceAs (Decidable (∀ p ∈ op.pattern.zip _, _))

/-- Only the low 16 bits of a code are compared with a pattern. -/
theorem matches_word (op : Op) (c : Code) : op.Matches (c.word.toNat : Int) ↔ op.Matches c := by
  obtain ⟨h3, h2, h1, h0⟩ := c.digits_word
  unfold Matches
  rw [h3, h2, h1, h0]

/-- What it means to match, digit by digit. -/
theorem matches_iff {op : Op} {c : Code} {p3 p2 p1 p0 : Option (Fin 16)}
    (hp : op.pattern = [p3, p2, p1, p0]) :
    op.Matches c ↔ (p3 = none ∨ p3 = some c.opcode) ∧ (p2 = none ∨ p2 = some c.x) ∧
      (p1 = none ∨ p1 = some c.y) ∧ (p0 = none ∨ p0 = some c.n) := by
  simp [Matches, hp]

section Digits

variable {op : Op} {c : Code} {d : Fin 16} {p3 p2 p1 p0 : Option (Fin 16)}

theorem Matches.opcode_eq (h : op.Matches c) (hp : op.pattern = [some d, p2, p1, p0]) :
    c.opcode = d := by
  obtain ⟨h3, -, -, -⟩ := (matches_iff hp).mp h
  simpa [eq_comm] using h3

theorem Matches.x_eq (h : op.Matches c) (hp : op.pattern = [p3, some d, p1, p0]) : c.x = d := by
  obtain ⟨-, h2, -, -⟩ := (matches_iff hp).mp h
  simpa [eq_comm] using h2

theorem Matches.y_eq (h : op.Matches c) (hp : op.pattern = [p3, p2, some d, p0]) : c.y = d := by
  obtain ⟨-, -, h1, -⟩ := (matches_iff hp).mp h
  simpa [eq_comm] using h1

theorem Matches.n_eq (h : op.Matches c) (hp : op.pattern = [p3, p2, p1, some d]) : c.n = d := by
  obtain ⟨-, -, -, h0⟩ := (matches_iff hp).mp h
  simpa [eq_comm] using h0

end Digits

/-- The operations on two registers are told apart by the last digit. -/
theorem ofArithmetic?_eq_some_iff {op : Op} {n : Fin 16} :
    ofArithmetic? n.val = some op ↔ op.pattern = [some 0x8, none, none, some n] := by
  constructor
  · intro h
    unfold ofArithmetic? at h
    split at h <;> cases h <;>
      simp only [pattern, List.cons.injEq, Option.some.injEq, Fin.ext_iff, true_and, and_true] <;>
      omega
  · intro h
    cases op <;> simp [pattern] at h <;> subst h <;> rfl

/-- The skips on the keypad are told apart by the last two digits. -/
theorem ofKeypad?_eq_some_iff {op : Op} {y n : Fin 16} :
    ofKeypad? (16 * y.val + n.val) = some op ↔ op.pattern = [some 0xE, none, some y, some n] := by
  constructor
  · intro h
    unfold ofKeypad? at h
    split at h <;> cases h <;>
      simp only [pattern, List.cons.injEq, Option.some.injEq, Fin.ext_iff, true_and, and_true] <;>
      omega
  · intro h
    cases op <;> simp [pattern] at h <;> obtain ⟨rfl, rfl⟩ := h <;> rfl

/-- The operations of the last family are told apart by the last two digits. -/
theorem ofTransfer?_eq_some_iff {op : Op} {y n : Fin 16} :
    ofTransfer? (16 * y.val + n.val) = some op ↔ op.pattern = [some 0xF, none, some y, some n] := by
  constructor
  · intro h
    unfold ofTransfer? at h
    split at h <;> cases h <;>
      simp only [pattern, List.cons.injEq, Option.some.injEq, Fin.ext_iff, true_and, and_true] <;>
      omega
  · intro h
    cases op <;> simp [pattern] at h <;> obtain ⟨rfl, rfl⟩ := h <;> rfl

/-- A code that asks for an operation matches its pattern, and in family `0`
it has no bits but the low 16. -/
theorem matches_of_ofCode? {op : Op} {c : Code} (h : ofCode? c = some op) :
    op.Matches c ∧ (c.opcode = 0 → (c.word.toNat : Int) = c) := by
  have hwide : c.opcode.val ≠ 0 → c.opcode = 0 → (c.word.toNat : Int) = c := by
    intro hne h0
    exact absurd (congrArg Fin.val h0) hne
  unfold ofCode? at h
  split at h
  case h_1 =>
    -- family `0`: the code itself is known
    split at h
    · rename_i hc
      subst hc
      cases h
      decide +kernel
    · split at h
      · rename_i hc
        subst hc
        cases h
        decide +kernel
      · cases h
  case h_9 hf =>
    have hp := ofArithmetic?_eq_some_iff.mp h
    exact ⟨(matches_iff hp).mpr ⟨.inr (congrArg some (Fin.ext hf.symm)), .inl rfl, .inl rfl,
      .inr rfl⟩, hwide (by omega)⟩
  case h_15 hf =>
    rw [c.toNat_nn_eq] at h
    have hp := ofKeypad?_eq_some_iff.mp h
    exact ⟨(matches_iff hp).mpr ⟨.inr (congrArg some (Fin.ext hf.symm)), .inl rfl, .inr rfl,
      .inr rfl⟩, hwide (by omega)⟩
  case h_16 =>
    rw [c.toNat_nn_eq] at h
    have hp := ofTransfer?_eq_some_iff.mp h
    have hf : c.opcode.val = 15 := by
      have hlt := c.opcode.isLt
      simp only [imp_false] at *
      omega
    exact ⟨(matches_iff hp).mpr ⟨.inr (congrArg some (Fin.ext hf.symm)), .inl rfl, .inr rfl,
      .inr rfl⟩, hwide (by omega)⟩
  all_goals
    -- the families of a single operation
    rename_i hf
    cases h
    exact ⟨(matches_iff rfl).mpr ⟨.inr (congrArg some (Fin.ext hf.symm)), .inl rfl, .inl rfl,
      .inl rfl⟩, hwide (by omega)⟩

/-- In family `0` the pattern fixes all digits, so it fixes the code. -/
theorem eq_of_system {c : Code} {d : Fin 16} (hlow : c.opcode = 0 → (c.word.toNat : Int) = c)
    (hopcode : c.opcode = 0) (hx : c.x = 0) (hy : c.y = 0xE) (hn : c.n = d) :
    c = (0x00E0 + d.val : Nat) := by
  have hdigits := c.digits_eq
  have hword := c.toNat_word
  have hc := hlow hopcode
  rw [hopcode, hx, hy, hn] at hdigits
  have : (c.word.toNat : Int) = (0x00E0 + d.val : Nat) := by
    have h0 : (0 : Fin 16).val = 0 := rfl
    have hE : (0xE : Fin 16).val = 14 := rfl
    rw [hword, ← hdigits, h0, hE]
    omega
  rw [← hc, this]

/-- The codes that ask for an operation: those that match its pattern and, if
the pattern belongs to family `0`, have no bits but the low 16. -/
theorem ofCode?_eq_some_iff {op : Op} {c : Code} :
    ofCode? c = some op ↔ op.Matches c ∧ (c.opcode = 0 → (c.word.toNat : Int) = c) := by
  refine ⟨matches_of_ofCode?, ?_⟩
  rintro ⟨h, hlow⟩
  cases op
  case cls | ret =>
    rw [eq_of_system hlow (h.opcode_eq rfl) (h.x_eq rfl) (h.y_eq rfl) (h.n_eq rfl)]
    rfl
  case ldReg | or | and | xor | addReg | sub | shr | subn | shl =>
    unfold ofCode?
    rw [h.opcode_eq rfl]
    refine ofArithmetic?_eq_some_iff.mpr ?_
    rw [h.n_eq rfl]
    rfl
  case skp | sknp =>
    unfold ofCode?
    rw [h.opcode_eq rfl, c.toNat_nn_eq]
    refine ofKeypad?_eq_some_iff.mpr ?_
    rw [h.y_eq rfl, h.n_eq rfl]
    rfl
  case getDelay | waitKey | setDelay | setSound | addI | font | bcd | storeRegs | loadRegs =>
    unfold ofCode?
    rw [h.opcode_eq rfl, c.toNat_nn_eq]
    refine ofTransfer?_eq_some_iff.mpr ?_
    rw [h.y_eq rfl, h.n_eq rfl]
    rfl
  all_goals
    unfold ofCode?
    rw [h.opcode_eq rfl]
    rfl

/-- A word of memory asks for the operation whose pattern it matches. -/
theorem ofCode?_word_eq_some_iff {op : Op} {w : UInt16} :
    ofCode? (w.toNat : Int) = some op ↔ op.Matches (w.toNat : Int) := by
  rw [ofCode?_eq_some_iff, Code.word_toNat]
  exact ⟨fun h => h.1, fun h => ⟨h, fun _ => rfl⟩⟩

theorem ofCode?_word_eq_none_iff {w : UInt16} :
    ofCode? (w.toNat : Int) = none ↔ ∀ op : Op, ¬ op.Matches (w.toNat : Int) := by
  simp only [Option.eq_none_iff_forall_ne_some, ne_eq, ofCode?_word_eq_some_iff]

/-- What a code of any size asks for, its low 16 bits ask for as well. -/
theorem ofCode?_word {op : Op} {c : Code} (h : ofCode? c = some op) :
    ofCode? (c.word.toNat : Int) = some op := by
  rw [ofCode?_word_eq_some_iff, matches_word]
  exact (matches_of_ofCode? h).1

/-- No code matches two patterns. -/
theorem Matches.unique {op op' : Op} {c : Code} (h : op.Matches c) (h' : op'.Matches c) :
    op = op' := by
  have hop : ofCode? (c.word.toNat : Int) = some op :=
    ofCode?_word_eq_some_iff.mpr ((matches_word op c).mpr h)
  have hop' : ofCode? (c.word.toNat : Int) = some op' :=
    ofCode?_word_eq_some_iff.mpr ((matches_word op' c).mpr h')
  rw [hop] at hop'
  exact Option.some.inj hop'

end Op

end Chip8
