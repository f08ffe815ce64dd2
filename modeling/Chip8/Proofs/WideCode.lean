import Chip8.Proofs.Decoding
import Chip8.Proofs.Mnemonic

/-!
# Codes of more than 16 bits

A host may run a code of any size and sign. In every family but `0` such a code
does what its low 16 bits do (`State.sameOutcome_low`): the bits above are seen by
the faults alone, which name the code as it was given. Family `0` looks at the code
as a whole, so outside of 16 bits it holds no instruction at all. Both together are
`State.execute_follows_low_bits`.
-/

namespace Chip8

namespace Op

/-- Only family `0` looks at more than the low 16 bits. -/
theorem ofCode?_low {c : Code} (h : c.opcode ≠ 0) : ofCode? (c % 65536) = ofCode? c := by
  have hcode : ofCode? (c % 65536) = ofCode? (c.word.toNat : Int) := by rw [c.toNat_word]
  refine Option.ext fun op => ?_
  rw [hcode, ofCode?_word_eq_some_iff, matches_word, ofCode?_eq_some_iff]
  exact ⟨fun hop => ⟨hop, fun h0 => absurd h0 h⟩, fun hop => hop.1⟩

/-- In family `0` a code outside of 16 bits asks for nothing. -/
theorem ofCode?_eq_none_of_wide {c : Code} (h : c.opcode = 0) (hwide : ¬ (0 ≤ c ∧ c ≤ 0xFFFF)) :
    ofCode? c = none := by
  refine Option.eq_none_iff_forall_ne_some.mpr fun op hop => hwide ?_
  have hlow := (ofCode?_eq_some_iff.mp hop).2 h
  have hlt := c.word.toNat_lt
  have hrange : 0 ≤ (c.word.toNat : Int) ∧ (c.word.toNat : Int) ≤ 0xFFFF := by omega
  rwa [hlow] at hrange

end Op

theorem Code.word_low (c : Code) : Code.word (c % 65536) = c.word := by
  rw [← c.toNat_word, word_toNat]

/-- No operand reaches beyond the low 16 bits. -/
theorem Instruction.alikeShown_low (op : Op) (c : Code) : AlikeShown op c (c % 65536) := by
  have hparts := sameParts_low op c
  intro f _
  cases f
  case x => exact congrArg (fun d : Fin 16 => (d.val : Int)) hparts.x.symm
  case y => exact congrArg (fun d : Fin 16 => (d.val : Int)) hparts.y.symm
  case n => exact congrArg (fun d : Fin 16 => (d.val : Int)) hparts.n.symm
  case nn => exact congrArg (fun b : UInt8 => (b.toNat : Int)) hparts.nn.symm
  case nnn => exact congrArg (fun w : UInt16 => (w.toNat : Int)) hparts.nnn.symm

namespace State

open Instruction

/-- The results of running two codes that do the same: one state, or faults of one
kind at one address, of which each names its own code if that kind names one. -/
inductive SameOutcome (c d : Code) : Except Fault State → Except Fault State → Prop
  | ok (t : State) : SameOutcome c d (.ok t) (.ok t)
  | unimplemented (address : Int) : SameOutcome c d
      (.error (.unimplemented c (some address))) (.error (.unimplemented d (some address)))
  | stackOverflow (address : Int) : SameOutcome c d
      (.error (.stackOverflow address)) (.error (.stackOverflow address))
  | stackUnderflow (address : Int) : SameOutcome c d
      (.error (.stackUnderflow address)) (.error (.stackUnderflow address))
  | memoryAccess (address : Int) : SameOutcome c d
      (.error (.memoryAccess address (some c))) (.error (.memoryAccess address (some d)))

variable {c : Code}

/-- Outside of family `0` a code does what its low 16 bits do. -/
theorem sameOutcome_low (h : c.opcode ≠ 0) (s : State) :
    SameOutcome c (c % 65536) (s.execute c) (s.execute (c % 65536)) := by
  have hlow := Op.ofCode?_low h
  cases hop : Op.ofCode? c with
  | none =>
      rw [hop] at hlow
      rw [execute_eq_error_iff.mpr (.inl ⟨hop, rfl⟩), execute_eq_error_iff.mpr (.inl ⟨hlow, rfl⟩)]
      exact .unimplemented _
  | some op =>
      -- one operation with the same operands: neither what it does nor whether it is refused
      -- hangs on the code beyond them
      rw [hop] at hlow
      have halike := alikeShown_low op c
      have hrefusal := refusal?_eq_of_fields halike s s.instructionAddress.toNat
      cases hrefused : s.refusal? ⟨op, c⟩ s.instructionAddress.toNat with
      | none =>
          rw [hrefused] at hrefusal
          rw [execute_eq_ok_iff.mpr ⟨op, hop, hrefused, rfl⟩,
            execute_eq_ok_iff.mpr ⟨op, hlow, hrefusal, rfl⟩, c.word_low,
            perform_eq_of_fields halike]
          exact .ok _
      | some f =>
          rw [hrefused] at hrefusal
          rw [execute_eq_error_iff.mpr (.inr ⟨op, hop, hrefused⟩),
            execute_eq_error_iff.mpr (.inr ⟨op, hlow, hrefusal⟩)]
          rcases refusal?_eq_some_iff.mp hrefused with ⟨-, -, rfl⟩ | ⟨-, -, rfl⟩ | ⟨last, -, -, rfl⟩
          · exact .stackOverflow _
          · exact .stackUnderflow _
          · exact .memoryAccess last

/-- **A wide code does what its low 16 bits do, or nothing.** A code whose bits 12 to 15
are not all zero leads in every state where the low 16 bits of its two's complement lead:
to the same state, trace included, or to a fault of the same kind at the same address, which
differs in the code at most and then names the wide one. If those bits are zero and the code
does not fit 16 bits, it is refused as unimplemented under its full value, whatever its low
half reads, and no instruction is decoded from it, so the display is not cleared and
nothing returns. -/
theorem execute_follows_low_bits (s : State) (c : Code) :
    (c.bits 12 4 ≠ 0 →
      SameOutcome c (c % 65536) (s.execute c) (s.execute (c % 65536))) ∧
    (c.bits 12 4 = 0 → ¬ (0 ≤ c ∧ c ≤ 0xFFFF) →
      s.execute c = .error (.unimplemented c (some s.instructionAddress.toNat)) ∧
        ∀ op : Op, Op.ofCode? c ≠ some op) := by
  have hopcode := c.cutOut.opcode
  constructor
  · intro hbits
    refine sameOutcome_low (fun h => hbits ?_) s
    rw [← hopcode, h]
    rfl
  · intro hbits hwide
    have hfamily : c.opcode = 0 := by
      rw [hbits] at hopcode
      exact Fin.ext (Int.ofNat_inj.mp hopcode)
    have hnone := Op.ofCode?_eq_none_of_wide hfamily hwide
    exact ⟨execute_eq_error_iff.mpr (.inl ⟨hnone, rfl⟩), Option.eq_none_iff_forall_ne_some.mp hnone⟩

/-- `FX33` with three bytes that end behind the last address, written as a negative code; a
load of a register, written with bits above the low 16; and a code whose low half is a
return. -/
theorem execute_follows_low_bits_signs :
    let s := { fresh [] ⟨0, 7⟩ with index := 0xFFE }
    (SameOutcome (-0xECD) 0xF133 (s.execute (-0xECD)) (s.execute 0xF133) ∧
        s.execute (-0xECD) = .error (.memoryAccess 0x1000 (some (-0xECD)))) ∧
      (SameOutcome 0x16005 0x6005 (s.execute 0x16005) (s.execute 0x6005) ∧
        (s.execute 0x16005).toOption.map (fun t => (t.reg 0, t.traceLines)) =
          some (5, ["1FE-6005 LD   V0,#05"])) ∧
      s.execute 0x100EE = .error (.unimplemented 0x100EE (some 0x1FE)) := by
  intro s
  have hnegative := (execute_follows_low_bits s (-0xECD)).1 (by rw [Code.bits_eq]; decide)
  have hwide := (execute_follows_low_bits s 0x16005).1 (by rw [Code.bits_eq]; decide)
  have hrefused := (execute_follows_low_bits s 0x100EE).2 (by rw [Code.bits_eq]; decide) (by decide)
  have haddress : s.instructionAddress.toNat = 0x1FE := by decide
  rw [haddress] at hrefused
  exact ⟨⟨hnegative, by decide +kernel⟩, ⟨hwide, by decide +kernel⟩, hrefused.1⟩

end State

end Chip8
