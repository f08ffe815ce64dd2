import Chip8.Proofs.RegisterTransfer

/-!
# Decimal digits in memory

An instruction writes the value of a register in decimal, one digit a byte. What it
leaves behind is known as a relation (`State.DigitsStored`): three digits that are
such and make up the value, and nothing else changed. Digits with these two
properties are unique, so the bytes tell the value and the value the bytes, and a
load of three registers finds the digits again (`State.digits_stored_exact`).
-/

namespace Chip8

section Digits

variable (b : UInt8)

/-- Every digit is one. -/
theorem le_nine_of_mem_decimalDigits {d : UInt8} (hd : d ∈ decimalDigits b) : d.toNat ≤ 9 := by
  have hb := b.toNat_lt
  have hhundred : (100 : UInt8).toNat = 100 := rfl
  have hten : (10 : UInt8).toNat = 10 := rfl
  simp only [decimalDigits, List.mem_cons, List.not_mem_nil, or_false] at hd
  rcases hd with rfl | rfl | rfl
  · rw [UInt8.toNat_div, hhundred]
    omega
  · rw [UInt8.toNat_mod, hten]
    omega
  · rw [UInt8.toNat_mod, hten]
    omega

/-- The digits make up the byte. -/
theorem value_decimalDigits :
    100 * (b / 100).toNat + 10 * (b / 10 % 10).toNat + (b % 10).toNat = b.toNat := by
  have hhundred : (100 : UInt8).toNat = 100 := rfl
  have hten : (10 : UInt8).toNat = 10 := rfl
  rw [UInt8.toNat_div, UInt8.toNat_mod, UInt8.toNat_div, UInt8.toNat_mod, hhundred, hten]
  omega

end Digits

namespace State

/-- `s'` differs from `s` by the decimal digits of `VX` that are stored at the
index, as far as memory, registers and index go. -/
structure DigitsStored (s : State) (x : Fin 16) (s' : State) : Prop where
  digit : ∀ k < 3, (s'.memory.read (s.index.toNat + k)).toNat ≤ 9
  value : 100 * (s'.memory.read s.index.toNat).toNat +
    10 * (s'.memory.read (s.index.toNat + 1)).toNat +
    (s'.memory.read (s.index.toNat + 2)).toNat = (s.reg x).toNat
  memory : ∀ a < 4096, a < s.index.toNat ∨ s.index.toNat + 2 < a →
    s'.memory.read a = s.memory.read a
  reg : ∀ j, s'.reg j = s.reg j
  index : s'.index = s.index

variable {s s' t t' : State} {c d : Code} {x : Fin 16}

theorem digitsStored_perform (hfits : s.index.toNat ≤ 0xFFD) (trace : Trace) :
    s.DigitsStored c.x { s.perform ⟨.bcd, c⟩ with trace := trace } := by
  have hread : ∀ k (hk : k < 3), (s.perform ⟨.bcd, c⟩).memory.read (s.index.toNat + k) =
      (decimalDigits (s.reg c.x))[k] := by
    intro k hk
    exact Memory.read_writeAll_add (List.getElem?_eq_getElem hk) (by omega) s.memory
  constructor
  case digit =>
    intro k hk
    show ((s.perform ⟨.bcd, c⟩).memory.read _).toNat ≤ 9
    rw [hread k hk]
    exact le_nine_of_mem_decimalDigits _ (List.getElem_mem _)
  case value =>
    show 100 * ((s.perform ⟨.bcd, c⟩).memory.read (s.index.toNat + 0)).toNat +
      10 * ((s.perform ⟨.bcd, c⟩).memory.read (s.index.toNat + 1)).toNat +
      ((s.perform ⟨.bcd, c⟩).memory.read (s.index.toNat + 2)).toNat = (s.reg c.x).toNat
    rw [hread 0 (by decide), hread 1 (by decide), hread 2 (by decide)]
    exact value_decimalDigits (s.reg c.x)
  case memory =>
    intro a ha hout
    refine read_perform_of_not_mem (i := ⟨.bcd, c⟩) ha fun hmem => ?_
    obtain ⟨-, hle, hlast⟩ | ⟨hop, -⟩ := Instruction.mem_stores_iff.mp hmem
    · omega
    · cases hop
  case reg => exact fun _ => rfl
  case index => rfl

/-- With room for three digits nothing is refused. -/
theorem execute_bcd (hop : Op.ofCode? c = some .bcd) (hfits : s.index.toNat ≤ 0xFFD) :
    ∃ s', s.execute c = .ok s' ∧ s.DigitsStored c.x s' := by
  refine ⟨_, execute_eq_ok_iff.mpr ⟨.bcd, hop, ?_, rfl⟩, digitsStored_perform hfits _⟩
  refine refusal?_eq_none_iff.mpr ⟨nofun, nofun, fun last hlast => ?_⟩
  have hend : (s.index.toNat + 2 : Int) = last := Option.some.inj hlast
  omega

/-- The digits of two machines are the same if and only if the values are. -/
theorem DigitsStored.digits_eq_iff (h : s.DigitsStored x s') (h' : t.DigitsStored x t')
    (hindex : t.index = s.index) :
    (∀ k < 3, t'.memory.read (s.index.toNat + k) = s'.memory.read (s.index.toNat + k)) ↔
      t.reg x = s.reg x := by
  have hvalue := h.value
  have hvalue' := h'.value
  rw [hindex] at hvalue'
  constructor
  · intro hsame
    have hfirst : t'.memory.read s.index.toNat = s'.memory.read s.index.toNat :=
      hsame 0 (by decide)
    rw [hfirst, hsame 1 (by decide), hsame 2 (by decide), hvalue] at hvalue'
    exact (UInt8.toNat_inj.mp hvalue').symm
  · intro hreg k hk
    have hdigit := h.digit
    have hdigit' := h'.digit
    rw [hreg] at hvalue'
    rw [hindex] at hdigit'
    -- three digits that make up the same number are the same from the first on
    have h0 := hdigit 0 (by decide)
    have h1 := hdigit 1 (by decide)
    have h2 := hdigit 2 (by decide)
    have h0' := hdigit' 0 (by decide)
    have h1' := hdigit' 1 (by decide)
    have h2' := hdigit' 2 (by decide)
    rw [Nat.add_zero] at h0 h0'
    apply UInt8.toNat_inj.mp
    match k, hk with
    | 0, _ => rw [Nat.add_zero]; omega
    | 1, _ => omega
    | 2, _ => omega

/-- **Decimal digits are exact and in place.** With the index at most `FFD` the
instruction succeeds: the three bytes from the index on are at most nine and make up
the value of `VX`, and every other byte, all registers and the index are as they
were. A load of three registers behind it succeeds, gives registers that make up the
value that `VX` had, whichever register that was, and leaves memory alone. On
another machine with that index, such as one that differs only in `VX`, the three
bytes are the same if and only if the values of `VX` are. -/
theorem digits_stored_exact (hop : Op.ofCode? c = some .bcd) (hfits : s.index.toNat ≤ 0xFFD) :
    ∃ s', s.execute c = .ok s' ∧ s.DigitsStored c.x s' ∧
      (∀ d, Op.ofCode? d = some .loadRegs → d.x = 2 →
        ∃ t, s'.execute d = .ok t ∧
          100 * (t.reg 0).toNat + 10 * (t.reg 1).toNat + (t.reg 2).toNat = (s.reg c.x).toNat ∧
          t.memory = s'.memory) ∧
      ∀ t : State, t.index = s.index →
        ∃ t', t.execute c = .ok t' ∧
          ((∀ k < 3, t'.memory.read (s.index.toNat + k) = s'.memory.read (s.index.toNat + k)) ↔
            t.reg c.x = s.reg c.x) := by
  obtain ⟨s', hs, hstored⟩ := execute_bcd hop hfits
  refine ⟨s', hs, hstored, fun d hload hx => ?_, fun t hindex => ?_⟩
  · have hroom : s'.index.toNat + d.x.val ≤ 0xFFF := by
      rw [hstored.index, hx]
      exact Nat.add_le_add_right hfits 2
    obtain ⟨t, ht, hloaded⟩ := execute_loadRegs hload hroom
    rw [hx] at hloaded
    refine ⟨t, ht, ?_, hloaded.memory⟩
    rw [hloaded.loaded 0 (by decide), hloaded.loaded 1 (by decide), hloaded.loaded 2 (by decide),
      hstored.index]
    exact hstored.value
  · obtain ⟨t', ht, hstored'⟩ := execute_bcd (s := t) hop (hindex ▸ hfits)
    exact ⟨t', ht, hstored.digits_eq_iff hstored' hindex⟩

/-- The digits of `V1` in the last three bytes of memory, loaded into `V0` to `V2`,
so over `V1` itself; a machine with another value there writes other bytes. -/
theorem digits_stored_exact_at_end :
    let s := { fresh [] ⟨0, 7⟩ with index := 0xFFD }.setReg 1 209
    ∃ s' t t', s.execute 0xF133 = .ok s' ∧ s'.execute 0xF265 = .ok t ∧
      100 * (t.reg 0).toNat + 10 * (t.reg 1).toNat + (t.reg 2).toNat = 209 ∧
      (s.setReg 1 29).execute 0xF133 = .ok t' ∧
      ¬ ∀ k < 3, t'.memory.read (0xFFD + k) = s'.memory.read (0xFFD + k) := by
  intro s
  obtain ⟨s', hs, -, hload, hother⟩ := digits_stored_exact (s := s) (c := 0xF133)
    (by decide +kernel) (by decide +kernel)
  obtain ⟨t, ht, hvalue, -⟩ := hload 0xF265 (by decide +kernel) (by decide +kernel)
  obtain ⟨t', ht', hsame⟩ := hother (s.setReg 1 29) rfl
  refine ⟨s', t, t', hs, ht, hvalue.trans (by decide +kernel), ht', fun hbytes => ?_⟩
  exact absurd (hsame.mp hbytes) (by decide +kernel)

end State

end Chip8
