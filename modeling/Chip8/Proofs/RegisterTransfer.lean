import Chip8.Proofs.Frame

/-!
# Registers stored and loaded

Two instructions move the registers `V0` to `VX` to memory at the index and back.
As long as the last of their addresses is in memory both succeed, and what they do
is exact: `State.RegsStored` and `State.RegsLoaded` say it for every byte and every
register. From these two relations alone it follows that a load brings back what a
store has put down, and that a store behind a load changes nothing
(`State.store_load_inverse`).

A machine that moves all sixteen registers at once, each in a lane of its own, has
more lanes than bytes near the end of memory. It reads the last byte in each lane
that lies behind the end, but what such a lane writes is lost, and the lanes
between `VX` and the end put back what they have read. So the bytes are the same
(`State.writeAll_lanes`).
-/

namespace Chip8

open Layout

namespace State

/-- `s'` differs from `s` by the registers up to `VX` that are stored at the index. -/
structure RegsStored (s : State) (x : Fin 16) (s' : State) : Prop where
  stored : ∀ j ≤ x, s'.memory.read (s.index.toNat + j.val) = s.reg j
  memory : ∀ a < 4096, (∀ j ≤ x, a ≠ s.index.toNat + j.val) →
    s'.memory.read a = s.memory.read a
  reg : ∀ j, s'.reg j = s.reg j
  index : s'.index = s.index

/-- `s'` differs from `s` by the registers up to `VX` that are loaded from the index. -/
structure RegsLoaded (s : State) (x : Fin 16) (s' : State) : Prop where
  loaded : ∀ j ≤ x, s'.reg j = s.memory.read (s.index.toNat + j.val)
  reg : ∀ j, x < j → s'.reg j = s.reg j
  memory : s'.memory = s.memory
  index : s'.index = s.index

/-- What all sixteen lanes write together: the registers up to `VX`, and behind
them what the lanes have read. -/
def lanes (s : State) (x : Fin 16) : List UInt8 :=
  List.ofFn fun j : Fin 16 => if j ≤ x then s.reg j else s.memory.read (s.index.toNat + j.val)

/-! ## Bytes and lanes -/

section Bytes

variable {s : State} {x : Fin 16}

theorem getElem?_firstRegs {j : Fin 16} (hj : j ≤ x) :
    (s.firstRegs x)[j.val]? = some (s.reg j) := by
  have hlt : j.val < x.val + 1 := Nat.lt_succ_of_le hj
  rw [firstRegs, List.getElem?_take_of_lt hlt, Vector.getElem?_toList]
  exact Vector.getElem?_eq_getElem j.isLt

theorem getElem?_firstRegs_of_lt {j : Fin 16} (hj : x < j) : (s.firstRegs x)[j.val]? = none :=
  List.getElem?_eq_none (s.length_firstRegs x ▸ Nat.succ_le_of_lt hj)

theorem getElem?_lanes (j : Fin 16) :
    (s.lanes x)[j.val]? =
      some (if j ≤ x then s.reg j else s.memory.read (s.index.toNat + j.val)) := by
  rw [lanes, List.getElem?_ofFn, dif_pos j.isLt]

/-- Writing all lanes is writing the registers up to `VX`. -/
theorem writeAll_lanes :
    s.memory.writeAll s.index.toNat (s.lanes x) =
      s.memory.writeAll s.index.toNat (s.firstRegs x) := by
  refine Memory.ext_read fun a ha => ?_
  by_cases hlane : ∃ j : Fin 16, a = s.index.toNat + j.val
  · obtain ⟨j, rfl⟩ := hlane
    have hle : s.index.toNat ≤ s.index.toNat + j.val := Nat.le_add_right _ _
    rw [Memory.read_writeAll ha, Memory.read_writeAll ha, if_pos hle, if_pos hle,
      Nat.add_sub_cancel_left, getElem?_lanes]
    by_cases hj : j ≤ x
    · rw [getElem?_firstRegs hj, if_pos hj]
    · rw [getElem?_firstRegs_of_lt (Fin.not_le.mp hj), if_neg hj]
      rfl
  · have hout : ∀ n ≤ 16, a ∉ List.range' s.index.toNat n := by
      intro n hn hmem
      rw [List.mem_range'_1] at hmem
      exact hlane ⟨⟨a - s.index.toNat, by omega⟩, by simp only; omega⟩
    rw [Memory.read_writeAll_of_not_mem ha, Memory.read_writeAll_of_not_mem ha]
    · rw [length_firstRegs]
      exact hout _ x.isLt
    · rw [lanes, List.length_ofFn]
      exact hout 16 (Nat.le_refl 16)

end Bytes

/-! ## One transfer -/

section Transfer

variable {s : State} {c : Code}

/-- A transfer whose last address is in memory is not refused. -/
theorem refusal?_transfer {op : Op} (hop : op = .storeRegs ∨ op = .loadRegs)
    (hfits : s.index.toNat + c.x.val ≤ 0xFFF) (a : Int) : s.refusal? ⟨op, c⟩ a = none := by
  refine refusal?_eq_none_iff.mpr ⟨?_, ?_, fun last hlast => ?_⟩
  · rcases hop with rfl | rfl <;> exact nofun
  · rcases hop with rfl | rfl <;> exact nofun
  · have hend : (s.index.toNat + c.x.val : Int) = last := by
      rcases hop with rfl | rfl <;> exact Option.some.inj hlast
    omega

theorem regsStored_perform (hfits : s.index.toNat + c.x.val ≤ 0xFFF) (t : Trace) :
    s.RegsStored c.x { s.perform ⟨.storeRegs, c⟩ with trace := t } where
  stored := by
    intro j hj
    have hlt : s.index.toNat + j.val < 4096 := by
      have hle : j.val ≤ c.x.val := hj
      omega
    exact Memory.read_writeAll_add (getElem?_firstRegs hj) hlt s.memory
  memory := by
    intro a ha hout
    refine read_perform_of_not_mem (i := ⟨.storeRegs, c⟩) ha fun hmem => ?_
    obtain ⟨hop, -⟩ | ⟨-, hle, hlast⟩ := Instruction.mem_stores_iff.mp hmem
    · cases hop
    · have hx := c.x.isLt
      have hlast : a ≤ s.index.toNat + c.x.val := hlast
      refine hout ⟨a - s.index.toNat, by omega⟩ (Fin.le_def.mpr ?_) ?_ <;> simp only <;> omega
  reg := fun _ => rfl
  index := rfl

theorem regsLoaded_perform (s : State) (c : Code) (t : Trace) :
    s.RegsLoaded c.x { s.perform ⟨.loadRegs, c⟩ with trace := t } where
  loaded := fun j hj => (get_loadedRegs s.memory s.index.toNat s.v c.x j).trans (if_pos hj)
  reg := fun j hj =>
    (get_loadedRegs s.memory s.index.toNat s.v c.x j).trans (if_neg (Fin.not_le.mpr hj))
  memory := rfl
  index := rfl

theorem execute_storeRegs (hop : Op.ofCode? c = some .storeRegs)
    (hfits : s.index.toNat + c.x.val ≤ 0xFFF) :
    ∃ s', s.execute c = .ok s' ∧ s.RegsStored c.x s' ∧
      s'.memory = s.memory.writeAll s.index.toNat (s.lanes c.x) :=
  ⟨_, execute_eq_ok_iff.mpr ⟨.storeRegs, hop, refusal?_transfer (.inl rfl) hfits _, rfl⟩,
    regsStored_perform hfits _, writeAll_lanes.symm⟩

theorem execute_loadRegs (hop : Op.ofCode? c = some .loadRegs)
    (hfits : s.index.toNat + c.x.val ≤ 0xFFF) :
    ∃ s', s.execute c = .ok s' ∧ s.RegsLoaded c.x s' :=
  ⟨_, execute_eq_ok_iff.mpr ⟨.loadRegs, hop, refusal?_transfer (.inr rfl) hfits _, rfl⟩,
    regsLoaded_perform s c _⟩

end Transfer

/-! ## There and back -/

section Inverse

variable {s s' t t' : State} {x : Fin 16}

/-- A load finds what a store has put down, whatever the registers were in
between. -/
theorem RegsStored.reg_of_load (h : s.RegsStored x s') (hmemory : t.memory = s'.memory)
    (hindex : t.index = s'.index) (h' : t.RegsLoaded x t') : ∀ j ≤ x, t'.reg j = s.reg j := by
  intro j hj
  rw [h'.loaded j hj, hmemory, hindex, h.index]
  exact h.stored j hj

/-- A store puts back what a load has taken from there. -/
theorem RegsLoaded.memory_of_store (h : s.RegsLoaded x s') (h' : s'.RegsStored x t) :
    t.memory = s.memory := by
  refine Memory.ext_read fun a ha => ?_
  by_cases hin : ∃ j ≤ x, a = s'.index.toNat + j.val
  · obtain ⟨j, hj, rfl⟩ := hin
    rw [h'.stored j hj, h.loaded j hj, h.index]
  · have hout : ∀ j ≤ x, a ≠ s'.index.toNat + j.val := fun j hj heq => hin ⟨j, hj, heq⟩
    rw [h'.memory a ha hout, h.memory]

end Inverse

/-- **Registers stored and loaded.** With the last address in memory a store
succeeds, puts the registers up to `VX` down at the index and changes nothing else
of memory, registers and index; the bytes are those of all sixteen lanes at once,
also where some of these lie behind the end. A load of the same registers succeeds
in every machine with that memory and index, whatever its registers are, and brings
them back. A load succeeds as well, takes the registers up to `VX` from memory and
changes nothing else of these; a store behind it succeeds and leaves memory as it
was before both. -/
theorem store_load_inverse {s : State} {c d : Code} (hstore : Op.ofCode? c = some .storeRegs)
    (hload : Op.ofCode? d = some .loadRegs) (hx : d.x = c.x)
    (hfits : s.index.toNat + c.x.val ≤ 0xFFF) :
    (∃ s', s.execute c = .ok s' ∧ s.RegsStored c.x s' ∧
      s'.memory = s.memory.writeAll s.index.toNat (s.lanes c.x) ∧
      ∀ t : State, t.memory = s'.memory → t.index = s'.index →
        ∃ t', t.execute d = .ok t' ∧ ∀ j ≤ c.x, t'.reg j = s.reg j) ∧
    (∃ s', s.execute d = .ok s' ∧ s.RegsLoaded c.x s' ∧
      ∃ t, s'.execute c = .ok t ∧ t.memory = s.memory) := by
  constructor
  · obtain ⟨s', hs, hstored, hlanes⟩ := execute_storeRegs hstore hfits
    refine ⟨s', hs, hstored, hlanes, fun t hmemory hindex => ?_⟩
    have hfits' : t.index.toNat + d.x.val ≤ 0xFFF := by
      rw [hindex, hstored.index, hx]
      exact hfits
    obtain ⟨t', ht, hloaded⟩ := execute_loadRegs hload hfits'
    rw [hx] at hloaded
    exact ⟨t', ht, hstored.reg_of_load hmemory hindex hloaded⟩
  · rw [← hx] at hfits
    obtain ⟨s', hs, hloaded⟩ := execute_loadRegs hload hfits
    rw [hx] at hloaded hfits
    rw [← hloaded.index] at hfits
    obtain ⟨t, ht, hstored, -⟩ := execute_storeRegs hstore hfits
    exact ⟨s', hs, hloaded, t, ht, hloaded.memory_of_store hstored⟩

/-- Three registers at the last three bytes of memory: stored, cleared and loaded
again; and loaded and stored again. -/
theorem store_load_inverse_at_end :
    let s := ({ fresh [] ⟨0, 7⟩ with index := 0xFFD }.setReg 0 0xAB).setReg 2 0xCD
    (∃ s' t', s.execute 0xF255 = .ok s' ∧ s'.memory.read 0xFFF = 0xCD ∧
      { s' with v := Vector.replicate 16 0 }.execute 0xF265 = .ok t' ∧
        t'.reg 0 = 0xAB ∧ t'.reg 2 = 0xCD) ∧
      ∃ s' t, s.execute 0xF265 = .ok s' ∧ s'.execute 0xF255 = .ok t ∧ t.memory = s.memory := by
  intro s
  obtain ⟨⟨s', hs, hstored, -, hback⟩, r, hr, -, r', hr', hsame⟩ :=
    store_load_inverse (s := s) (c := 0xF255) (d := 0xF265) (by decide +kernel)
      (by decide +kernel) (by decide +kernel) (by decide +kernel)
  obtain ⟨t', ht, hreg⟩ := hback { s' with v := Vector.replicate 16 0 } rfl rfl
  exact ⟨⟨s', t', hs, hstored.stored 2 (by decide +kernel), ht, hreg 0 (by decide +kernel),
    hreg 2 (by decide +kernel)⟩, r, r', hr, hr', hsame⟩

end State

end Chip8
