import Chip8.Proofs.Frame
import Mathlib.Data.List.Dedup

/-!
# Sprites drawn one after the other

Drawing flips pixels, so a pixel that many sprites cover comes out lit or dark by
how many they are: only whether each sprite was drawn an odd number of times
counts, not in which order (`State.draws_combine_by_parity`). What carries this
over from pictures to instructions is that a draw changes nothing that a sprite is
made of: memory, the index, and all registers but the flag (`State.SameSprites`).
Instructions whose sprite stands where the flag register says are left out.

The flag tells of the last draw only, and it does hang on the order: it says
whether that draw turned a pixel off.
-/

namespace Chip8

open Layout

namespace Display

/-- Flips in `d` the pixels of some pictures, one picture after the other. -/
def overlay (d : Display) (pictures : List Display) : Display := pictures.foldl xor d

/-- A pixel changes if an odd number of the pictures have it lit. -/
theorem lit_overlay (d : Display) (pictures : List Display) (x : Fin 64) (y : Fin 32) :
    (d.overlay pictures).lit x y = (d.lit x y != (pictures.countP (·.lit x y) % 2 == 1)) := by
  induction pictures generalizing d with
  | nil => simp [overlay]
  | cons e rest ih =>
    have hrest : (d.overlay (e :: rest)).lit x y = _ := ih (d.xor e)
    rw [hrest, lit_xor, List.countP_cons]
    rcases Nat.mod_two_eq_zero_or_one (rest.countP (·.lit x y)) with hcount | hcount <;>
      cases he : e.lit x y <;> cases d.lit x y <;> simp [hcount, Nat.add_mod]

theorem xor_xor_self (d e : Display) : (d.xor e).xor e = d := by
  refine ext_lit fun x y => ?_
  rw [lit_xor, lit_xor]
  cases d.lit x y <;> cases e.lit x y <;> rfl

/-- A picture meets a display if flipping it turns a lit pixel off. -/
theorem meets_iff_turns_off {d e : Display} :
    d.meets e = true ↔ ∃ x y, d.lit x y = true ∧ (d.xor e).lit x y = false := by
  rw [meets_iff]
  refine exists_congr fun x => exists_congr fun y => and_congr_right fun hd => ?_
  rw [lit_xor, hd]
  cases e.lit x y <;> simp

end Display

/-! ## What comes an odd number of times -/

section Parity

variable {α : Type} [DecidableEq α] {l : List α} {a b : α}

/-- The members of a list that come in it an odd number of times, each once. -/
def oddOnes (l : List α) : List α := l.dedup.filter fun a => l.count a % 2 = 1

theorem mem_oddOnes : a ∈ oddOnes l ↔ l.count a % 2 = 1 := by
  rw [oddOnes, List.mem_filter, List.mem_dedup, decide_eq_true_eq]
  refine and_iff_right_of_imp fun h => List.count_pos_iff.mp ?_
  omega

theorem nodup_oddOnes (l : List α) : (oddOnes l).Nodup := (List.nodup_dedup l).filter _

/-- One more of an item turns it from odd to even or back, and no other. -/
theorem mem_oddOnes_cons :
    b ∈ oddOnes (a :: l) ↔ if b = a then b ∉ oddOnes l else b ∈ oddOnes l := by
  rw [mem_oddOnes, mem_oddOnes]
  by_cases h : b = a
  · rw [h, List.count_cons_self, if_pos rfl]
    omega
  · rw [List.count_cons_of_ne (Ne.symm h), if_neg h]

/-- Whether an odd number of members have a property can be told from those that
come an odd number of times. -/
theorem countP_oddOnes (p : α → Bool) (l : List α) :
    (oddOnes l).countP p % 2 = l.countP p % 2 := by
  induction l with
  | nil => rfl
  | cons a l ih =>
    -- the two lists of odd ones differ in `a` only, which is in exactly one of them
    by_cases ha : a ∈ oddOnes l
    · have hmore : a ∉ oddOnes (a :: l) := by simp [mem_oddOnes_cons, ha]
      have hperm : (oddOnes l).Perm (a :: oddOnes (a :: l)) := by
        refine (List.perm_ext_iff_of_nodup (nodup_oddOnes l)
          (List.nodup_cons.mpr ⟨hmore, nodup_oddOnes _⟩)).mpr fun b => ?_
        by_cases hb : b = a <;> simp [mem_oddOnes_cons, hb, ha]
      rw [hperm.countP_eq, List.countP_cons] at ih
      rw [List.countP_cons]
      omega
    · have hperm : (oddOnes (a :: l)).Perm (a :: oddOnes l) := by
        refine (List.perm_ext_iff_of_nodup (nodup_oddOnes _)
          (List.nodup_cons.mpr ⟨ha, nodup_oddOnes l⟩)).mpr fun b => ?_
        by_cases hb : b = a <;> simp [mem_oddOnes_cons, hb, ha]
      rw [hperm.countP_eq, List.countP_cons, List.countP_cons]
      omega

end Parity

namespace State

/-! ## One draw -/

/-- The sprite that a code draws, on a dark display. -/
def picture (s : State) (c : Code) : Display := s.sprite c.x c.y c.n

/-- A code that draws a sprite which lies in memory, placed by other registers than
the flag. -/
structure Draws (s : State) (c : Code) : Prop where
  op : Op.ofCode? c = some .drw
  x_ne : c.x ≠ flagRegister
  y_ne : c.y ≠ flagRegister
  inside : s.index.toNat + c.n.val ≤ 0x1000

instance (s : State) (c : Code) : Decidable (s.Draws c) :=
  decidable_of_iff (Op.ofCode? c = some .drw ∧ c.x ≠ flagRegister ∧ c.y ≠ flagRegister ∧
      s.index.toNat + c.n.val ≤ 0x1000)
    ⟨fun ⟨hop, hx, hy, hinside⟩ => ⟨hop, hx, hy, hinside⟩,
      fun ⟨hop, hx, hy, hinside⟩ => ⟨hop, hx, hy, hinside⟩⟩

/-- Two states that have the same of what sprites are made of. -/
structure SameSprites (s t : State) : Prop where
  memory_eq : t.memory = s.memory
  index_eq : t.index = s.index
  reg_eq : ∀ j ≠ flagRegister, t.reg j = s.reg j

variable {s t u : State} {c : Code} {cs : List Code}

theorem SameSprites.trans (h : SameSprites s t) (h' : SameSprites t u) : SameSprites s u where
  memory_eq := h'.memory_eq.trans h.memory_eq
  index_eq := h'.index_eq.trans h.index_eq
  reg_eq j hj := (h'.reg_eq j hj).trans (h.reg_eq j hj)

theorem SameSprites.draws (h : SameSprites s t) (hc : s.Draws c) : t.Draws c where
  op := hc.op
  x_ne := hc.x_ne
  y_ne := hc.y_ne
  inside := by
    rw [h.index_eq]
    exact hc.inside

theorem SameSprites.picture_eq (h : SameSprites s t) (hc : s.Draws c) :
    t.picture c = s.picture c := by
  rw [picture, sprite, h.memory_eq, h.index_eq, h.reg_eq _ hc.x_ne, h.reg_eq _ hc.y_ne]
  rfl

/-- What a draw does: it flips the pixels of its sprite and tells in the flag whether
they met lit ones. -/
structure Flips (s : State) (c : Code) (t : State) : Prop where
  display_eq : t.display = s.display.xor (s.picture c)
  flag_eq : t.reg flagRegister = (s.display.meets (s.picture c)).toUInt8
  same : SameSprites s t

theorem Draws.exists_execute (hc : s.Draws c) : ∃ t, s.execute c = .ok t ∧ Flips s c t := by
  have hclear : s.refusal? ⟨.drw, c⟩ s.instructionAddress.toNat = none := by
    refine refusal?_eq_none_iff.mpr ⟨nofun, nofun, fun last hlast => ?_⟩
    have hend : (s.index.toNat + c.n.val - 1 : Int) = last := Option.some.inj hlast
    have hinside := hc.inside
    omega
  refine ⟨_, execute_eq_ok_iff.mpr ⟨.drw, hc.op, hclear, rfl⟩, ?_⟩
  refine ⟨rfl, ?_, rfl, rfl, fun j hj => ?_⟩
  · show (s.draw (s.picture c)).reg flagRegister = _
    rw [draw, setFlag, reg_setReg, if_pos rfl]
  · show (s.draw (s.picture c)).reg j = s.reg j
    exact reg_setReg_of_ne hj

/-- The flag is set if the draw turned a lit pixel off. -/
theorem Flips.flag_iff (h : Flips s c t) :
    t.reg flagRegister = 1 ↔ ∃ x y, s.display.lit x y = true ∧ t.display.lit x y = false := by
  rw [h.flag_eq, h.display_eq, ← Display.meets_iff_turns_off]
  cases s.display.meets (s.picture c) <;> decide

/-- The second of two equal draws takes back the first. -/
theorem Flips.again (hc : s.Draws c) (h : Flips s c t) (h' : Flips t c u) :
    u.display = s.display := by
  rw [h'.display_eq, h.same.picture_eq hc, h.display_eq, Display.xor_xor_self]

/-! ## Many draws -/

/-- Runs instructions with given codes, one after the other. -/
def executeAll (s : State) (cs : List Code) : Except Fault State := cs.foldlM execute s

theorem executeAll_cons (ht : s.execute c = .ok t) : s.executeAll (c :: cs) = t.executeAll cs := by
  rw [executeAll, List.foldlM_cons, ht]
  rfl

theorem executeAll_append_singleton (ht : s.executeAll cs = .ok t) :
    s.executeAll (cs ++ [c]) = t.execute c := by
  rw [executeAll] at ht
  rw [executeAll, List.foldlM_append, ht]
  show [c].foldlM execute t = t.execute c
  rw [List.foldlM_cons]
  cases t.execute c <;> rfl

/-- Draws one after the other all run, and lay their sprites over the display. -/
theorem exists_executeAll (hcs : ∀ c ∈ cs, s.Draws c) :
    ∃ t, s.executeAll cs = .ok t ∧ t.display = s.display.overlay (cs.map s.picture) ∧
      SameSprites s t := by
  induction cs generalizing s with
  | nil => exact ⟨s, rfl, rfl, rfl, rfl, fun _ _ => rfl⟩
  | cons c rest ih =>
    obtain ⟨t, ht, hflips⟩ := (hcs c List.mem_cons_self).exists_execute
    have hrest : ∀ c' ∈ rest, s.Draws c' := fun c' hc' => hcs c' (List.mem_cons_of_mem _ hc')
    obtain ⟨u, hu, hdisplay, hsame⟩ := ih fun c' hc' => hflips.same.draws (hrest c' hc')
    have hpictures : rest.map t.picture = rest.map s.picture :=
      List.map_congr_left fun c' hc' => hflips.same.picture_eq (hrest c' hc')
    refine ⟨u, (executeAll_cons ht).trans hu, ?_, hflips.same.trans hsame⟩
    rw [hdisplay, hpictures, hflips.display_eq]
    rfl

/-- Whether a pixel changes is told by the parity of the sprites that cover it. -/
theorem overlay_congr {cs cs' : List Code}
    (h : ∀ p : Code → Bool, cs.countP p % 2 = cs'.countP p % 2) :
    s.display.overlay (cs.map s.picture) = s.display.overlay (cs'.map s.picture) := by
  refine Display.ext_lit fun x y => ?_
  rw [Display.lit_overlay, Display.lit_overlay, List.countP_map, List.countP_map, h]

/-- **Sprites are flipped.** Instructions that draw sprites lying in memory, placed
by other registers than the flag, all run, one after the other; at the end the
display of the beginning has the sprites flipped that came an odd number of times.
So their order does not matter, and drawing them once more in any order gives the
display of the beginning. The flag is set after a draw if that draw turned a lit
pixel off; after a second one like it, if the first had lit a dark pixel. -/
theorem draws_combine_by_parity {s : State} {cs : List Code} (hcs : ∀ c ∈ cs, s.Draws c) :
    ∃ t, s.executeAll cs = .ok t ∧
      t.display = s.display.overlay ((oddOnes cs).map s.picture) ∧
      (∀ cs', cs'.Perm cs →
        (∃ t', s.executeAll cs' = .ok t' ∧ t'.display = t.display) ∧
        ∃ t', s.executeAll (cs ++ cs') = .ok t' ∧ t'.display = s.display) ∧
      ∀ c, s.Draws c →
        ∃ u, s.executeAll (cs ++ [c]) = .ok u ∧ t.execute c = .ok u ∧
          (u.reg flagRegister = 0 ∨ u.reg flagRegister = 1) ∧
          (u.reg flagRegister = 1 ↔
            ∃ x y, t.display.lit x y = true ∧ u.display.lit x y = false) ∧
          ∃ v, u.execute c = .ok v ∧
            (v.reg flagRegister = 1 ↔
              ∃ x y, t.display.lit x y = false ∧ u.display.lit x y = true) := by
  obtain ⟨t, ht, hdisplay, hsame⟩ := exists_executeAll hcs
  refine ⟨t, ht, ?_, fun cs' hperm => ⟨?_, ?_⟩, fun c hc => ?_⟩
  · rw [hdisplay]
    exact overlay_congr fun p => (countP_oddOnes p cs).symm
  · have hcs' : ∀ c ∈ cs', s.Draws c := fun c hc => hcs c (hperm.mem_iff.mp hc)
    obtain ⟨t', ht', hdisplay', -⟩ := exists_executeAll hcs'
    refine ⟨t', ht', ?_⟩
    rw [hdisplay', hdisplay]
    exact overlay_congr fun p => by rw [hperm.countP_eq]
  · have hboth : ∀ c ∈ cs ++ cs', s.Draws c := by
      intro c hc
      rcases List.mem_append.mp hc with hc | hc
      · exact hcs c hc
      · exact hcs c (hperm.mem_iff.mp hc)
    obtain ⟨t', ht', hdisplay', -⟩ := exists_executeAll hboth
    refine ⟨t', ht', ?_⟩
    -- every sprite comes an even number of times, as often as in no draws at all
    rw [hdisplay']
    show _ = s.display.overlay (([] : List Code).map s.picture)
    refine overlay_congr fun p => ?_
    rw [List.countP_append, hperm.countP_eq, List.countP_nil]
    omega
  · have hc' : t.Draws c := hsame.draws hc
    obtain ⟨u, hu, hflips⟩ := hc'.exists_execute
    obtain ⟨v, hv, hflips'⟩ := (hflips.same.draws hc').exists_execute
    refine ⟨u, (executeAll_append_singleton ht).trans hu, hu, ?_, hflips.flag_iff, v, hv, ?_⟩
    · rw [hflips.flag_eq]
      cases t.display.meets (t.picture c)
      · exact .inl rfl
      · exact .inr rfl
    · rw [hflips'.flag_iff, hflips.again hc' hflips']
      exact exists_congr fun x => exists_congr fun y => and_comm

/-- Two rows of pixels that both stick out on the right, one of them drawn twice with
the other one between: the other one is left. Drawing the first a third time turns
its two pixels off. -/
theorem draws_combine_by_parity_at_edge :
    let s := (({ fresh [] ⟨0, 7⟩ with memory := Memory.zero.write 0 0xFF }.setReg 1 62).setReg 2
      3).setReg 3 60
    ∃ t, s.executeAll [0xD121, 0xD321, 0xD121] = .ok t ∧
      t.display = s.display.overlay [s.picture 0xD321] ∧
      ∃ u, t.execute 0xD121 = .ok u ∧ u.reg flagRegister = 1 ∧ u.display.lit 62 3 = false := by
  intro s
  obtain ⟨hcs, hodd, hc, hbefore, hafter⟩ :
      (∀ c ∈ [0xD121, 0xD321, 0xD121], s.Draws c) ∧
      oddOnes [0xD121, 0xD321, (0xD121 : Code)] = [0xD321] ∧ s.Draws 0xD121 ∧
      (s.display.overlay [s.picture 0xD321]).lit 62 3 = true ∧
      (s.display.overlay ((oddOnes [0xD121, 0xD321, 0xD121, 0xD121]).map s.picture)).lit 62 3 =
        false := by
    decide +kernel
  have hmore : ∀ c ∈ [0xD121, 0xD321, 0xD121] ++ [0xD121], s.Draws c := by
    intro c hc'
    rcases List.mem_append.mp hc' with hc' | hc'
    · exact hcs c hc'
    · exact List.mem_singleton.mp hc' ▸ hc
  obtain ⟨t, ht, hdisplay, -, hlast⟩ := draws_combine_by_parity hcs
  obtain ⟨u, hu, hrun, -, hflag, -⟩ := hlast 0xD121 hc
  obtain ⟨u', hu', hdisplay', -⟩ := draws_combine_by_parity hmore
  obtain rfl : u = u' := Except.ok.inj (hu.symm.trans hu')
  rw [hodd] at hdisplay
  have hoff : u.display.lit 62 3 = false := hdisplay' ▸ hafter
  exact ⟨t, ht, hdisplay, u, hrun, hflag.mpr ⟨62, 3, hdisplay ▸ hbefore, hoff⟩, hoff⟩

end State

end Chip8
