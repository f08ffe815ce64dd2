import Chip8.Proofs.Run

/-!
# Loading a program

A program that fits is loaded into a machine that is new in every other respect:
memory holds the font, the program and zeros (`Memory.Image`). So a fetch inside
the program reads its bytes, at odd places too, and memory tells the program up to
zeros at its end, which cannot be told from the zeros behind it
(`State.load_places_program`).
-/

namespace Chip8

open Layout

/-- Rows of bytes that are the same up to zeros at their ends. -/
def SameUpToZeros (p q : List UInt8) : Prop :=
  ∃ m n, p ++ List.replicate m 0 = q ++ List.replicate n 0

/-- Zeros at the end read like the nothing behind them. -/
theorem getElem?_append_zeros (p : List UInt8) (m k : Nat) :
    (p ++ List.replicate m 0)[k]?.getD 0 = p[k]?.getD 0 := by
  by_cases hk : k < p.length
  · rw [List.getElem?_append_left hk]
  · rw [List.getElem?_append_right (Nat.not_lt.mp hk), List.getElem?_replicate,
      List.getElem?_eq_none (Nat.not_lt.mp hk)]
    split <;> rfl

theorem sameUpToZeros_iff {p q : List UInt8} :
    SameUpToZeros p q ↔ ∀ k : Nat, p[k]?.getD 0 = q[k]?.getD 0 := by
  constructor
  · rintro ⟨m, n, h⟩ k
    rw [← getElem?_append_zeros p m, h, getElem?_append_zeros]
  · intro h
    -- each of the two is filled up to the length of both together
    refine ⟨q.length, p.length, List.ext_getElem (by simp [Nat.add_comm]) fun k hk hk' => ?_⟩
    have hsame := h k
    rw [← getElem?_append_zeros p q.length, ← getElem?_append_zeros q p.length,
      List.getElem?_eq_getElem hk, List.getElem?_eq_getElem hk'] at hsame
    exact hsame

namespace Memory

/-- What memory holds when a program has been loaded: the font, the program, and
zeros everywhere else. -/
structure Image (m : Memory) (program : List UInt8) : Prop where
  font : ∀ k < 80, font[k]? = some (m.read (0x100 + k))
  bytes : ∀ k < program.length, program[k]? = some (m.read (0x200 + k))
  zero : ∀ a < 4096, ¬ (0x100 ≤ a ∧ a < 0x150) → ¬ (0x200 ≤ a ∧ a < 0x200 + program.length) →
    m.read a = 0

theorem read_load_eq {a : Nat} (ha : a < 4096) (program : List UInt8) :
    (load program).read a =
      if 0x200 ≤ a then program[a - 0x200]?.getD 0
      else if 0x100 ≤ a then Layout.font[a - 0x100]?.getD 0 else 0 := by
  rw [load, read_writeAll ha, read_writeAll ha, read_zero]
  by_cases hprogram : 0x200 ≤ a
  · have hstart : programStart ≤ a := hprogram
    -- the font ends long before
    have hfont : Layout.font[a - fontStart]? = none := List.getElem?_eq_none (by
      rw [length_font, digitSize, fontStart]
      omega)
    rw [if_pos hstart, if_pos hprogram, hfont, Option.getD_none, ite_self]
    rfl
  · have hstart : ¬ programStart ≤ a := hprogram
    rw [if_neg hstart, if_neg hprogram]
    rfl

theorem image_load {program : List UInt8} (hfits : program.length ≤ 3584) :
    (load program).Image program where
  font := by
    intro k hk
    have hfont : k < Layout.font.length := hk
    rw [read_load_eq (by omega), if_neg (by omega), if_pos (by omega), Nat.add_sub_cancel_left,
      List.getElem?_eq_getElem hfont]
    rfl
  bytes := by
    intro k hk
    rw [read_load_eq (by omega), if_pos (by omega), Nat.add_sub_cancel_left,
      List.getElem?_eq_getElem hk]
    rfl
  zero := by
    intro a ha hfont hprogram
    rw [read_load_eq ha]
    split
    · rw [List.getElem?_eq_none (by omega)]
      rfl
    · split
      · rw [List.getElem?_eq_none (by rw [length_font, digitSize]; omega)]
        rfl
      · rfl

/-- Memory tells a program up to zeros at its end. -/
theorem load_eq_load_iff {p q : List UInt8} (hp : p.length ≤ 3584) (hq : q.length ≤ 3584) :
    load p = load q ↔ SameUpToZeros p q := by
  rw [sameUpToZeros_iff]
  constructor
  · intro h k
    by_cases hk : 0x200 + k < 4096
    · have hread := congrArg (·.read (0x200 + k)) h
      simp only [read_load_eq hk, Nat.le_add_right, if_true, Nat.add_sub_cancel_left] at hread
      exact hread
    · rw [List.getElem?_eq_none (by omega), List.getElem?_eq_none (by omega)]
  · intro h
    refine ext_read fun a ha => ?_
    rw [read_load_eq ha, read_load_eq ha, h]

end Memory

namespace State

theorem load_eq_error_iff {program : List UInt8} {rng : Key} {f : Fault} :
    load program rng = .error f ↔
      3584 < program.length ∧ f = .programTooLarge program.length 3584 := by
  rw [load, show programLimit = 3584 from rfl]
  split <;> simp [*, eq_comm]

/-- A fetch inside the program reads its bytes. -/
theorem fetch_fresh {program : List UInt8} (hfits : program.length ≤ 3584) (rng : Key) {o : Nat}
    {high low : UInt8} (hhigh : program[o]? = some high) (hlow : program[o + 1]? = some low) :
    fetch { fresh program rng with pc := UInt16.ofNat (0x200 + o) } =
      .ok ({ fresh program rng with pc := UInt16.ofNat (0x200 + o + 2) },
        wordOfBytes high low) := by
  obtain ⟨ho, rfl⟩ := List.getElem?_eq_some_iff.mp hhigh
  obtain ⟨ho', rfl⟩ := List.getElem?_eq_some_iff.mp hlow
  have hpc : (UInt16.ofNat (0x200 + o)).toNat = 0x200 + o := by
    rw [UInt16.toNat_ofNat']
    exact Nat.mod_eq_of_lt (by omega)
  have hnext : UInt16.ofNat (0x200 + o) + 2 = UInt16.ofNat (0x200 + o + 2) :=
    (UInt16.ofNat_add (0x200 + o) 2).symm
  have hword : (Memory.load program).word (0x200 + o) = wordOfBytes program[o] program[o + 1] := by
    rw [Memory.word, ← Memory.read_load ho hfits, ← Memory.read_load ho' hfits]
    rfl
  rw [fetch_eq, fetched, nextWord]
  simp only [hpc, hnext]
  rw [if_neg (by omega), ← hword]
  rfl

/-- **Loading a program.** A program is refused if and only if it is longer than
3584 bytes, with its length and this limit in the error. Any other is loaded: memory
holds the font, the program and zeros, the program is stored, and every other part
of the machine is new. A fetch at any place inside the program reads the two bytes
there, the high one first, moves the program counter past them and changes nothing
else, and another program that is loaded gives the same memory if and only if the
two are the same up to zeros at their ends. -/
theorem load_places_program (program : List UInt8) (rng : Key) :
    (load program rng = .error (.programTooLarge program.length 3584) ↔
      3584 < program.length) ∧
    (program.length ≤ 3584 → ∃ s, load program rng = .ok s ∧
      s.memory.Image program ∧
      s = { rng := rng, memory := s.memory, pc := 0x200, display := .dark, stack := .empty,
            delay := 0, sound := 0, keypad := .allUp, v := Vector.replicate 16 0, index := 0,
            trace := .empty, program := program } ∧
      (∀ (o : Nat) (high low : UInt8), program[o]? = some high → program[o + 1]? = some low →
        ∃ word : UInt16, word.toNat = 256 * high.toNat + low.toNat ∧
          fetch { s with pc := UInt16.ofNat (0x200 + o) } =
            .ok ({ s with pc := UInt16.ofNat (0x200 + o + 2) }, word)) ∧
      ∀ (other : List UInt8) (rng' : Key) (t : State), load other rng' = .ok t →
        (t.memory = s.memory ↔ SameUpToZeros other program)) := by
  constructor
  · rw [load_eq_error_iff]
    exact and_iff_left rfl
  · intro hfits
    refine ⟨fresh program rng, load_eq_ok_iff.mpr ⟨hfits, rfl⟩, Memory.image_load hfits, rfl, ?_, ?_⟩
    · intro o high low hhigh hlow
      exact ⟨_, toNat_wordOfBytes high low, fetch_fresh hfits rng hhigh hlow⟩
    · intro other rng' t ht
      obtain ⟨hother, rfl⟩ := load_eq_ok_iff.mp ht
      exact Memory.load_eq_load_iff hother hfits

/-- Five bytes, the last two of them zero: the word at the odd place one, and the
program without the zeros, which gives the same memory. -/
theorem load_places_program_odd_place :
    let program : List UInt8 := [0xA2, 0xF0, 0x12, 0, 0]
    ∃ s t, load program ⟨0, 7⟩ = .ok s ∧ s.memory.read 0x202 = 0x12 ∧ s.memory.read 0x14F = 0x80 ∧
      (∃ fetched word, fetch { s with pc := 0x201 } = .ok (fetched, word) ∧
        word.toNat = 0xF012 ∧ fetched.pc = 0x203) ∧
      load [0xA2, 0xF0, 0x12] ⟨0, 7⟩ = .ok t ∧ t.memory = s.memory := by
  intro program
  obtain ⟨s, hs, himage, -, hfetch, hsame⟩ :=
    (load_places_program program ⟨0, 7⟩).2 (by decide)
  obtain ⟨word, hword, hfetched⟩ := hfetch 1 0xF0 0x12 rfl rfl
  have ht : load [0xA2, 0xF0, 0x12] ⟨0, 7⟩ = .ok (fresh [0xA2, 0xF0, 0x12] ⟨0, 7⟩) := rfl
  refine ⟨s, _, hs, ?_, ?_, ⟨_, word, hfetched, hword, rfl⟩, ht, (hsame _ _ _ ht).mpr ⟨2, 0, rfl⟩⟩
  · exact (Option.some.inj (himage.bytes 2 (by decide))).symm
  · exact (Option.some.inj (himage.font 79 (by decide))).symm

end State

end Chip8
