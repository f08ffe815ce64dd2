import Chip8.Proofs.Frame

/-!
# Sprites drawn pixel by pixel

The machine draws a sprite at once: it takes the picture of the sprite on a dark
display and flips every pixel that is lit there. The usual way goes through the
rows of the sprite and the columns of each row, and flips one pixel for every bit
that is set, if the display has that pixel (`Canvas.drawSprite`). Both ways give
the same display and the same flag (`State.sprite_drawn_pixel_by_pixel`).

Each turn of either loop lays a picture over the display, one dot or one row, and
the pictures of a loop have no pixel in common. Laying such pictures over a
display one after the other is laying their union over it (`Canvas.foldl_stamp`);
this is used for the columns of a row, and again for the rows.
-/

namespace Chip8

open Layout

namespace Display

/-- The pixel in a column and a row that are any integers, if there is one. -/
def pixel? (x y : Int) : Option (Fin 64 × Fin 32) :=
  if h : (0 ≤ x ∧ x < 64) ∧ 0 ≤ y ∧ y < 32 then
    some (⟨x.toNat, by omega⟩, ⟨y.toNat, by omega⟩)
  else
    none

/-- Flips one pixel. -/
def flip (d : Display) (x : Fin 64) (y : Fin 32) : Display :=
  ofFn fun px py => if px = x ∧ py = y then !d.lit px py else d.lit px py

/-- The picture of one pixel, dark where the display has no such pixel. -/
def dot (x y : Int) : Display :=
  ofFn fun px py => decide ((px.val : Int) = x ∧ (py.val : Int) = y)

/-- The pixels that are lit in some picture of a list. -/
def union (ds : List Display) : Display :=
  ofFn fun px py => ds.any fun d => d.lit px py

/-- Two pictures that have no lit pixel in common. -/
def Apart (d e : Display) : Prop :=
  ∀ x y, d.lit x y = true → e.lit x y = false

@[simp] theorem lit_flip (d : Display) (x px : Fin 64) (y py : Fin 32) :
    (d.flip x y).lit px py = if px = x ∧ py = y then !d.lit px py else d.lit px py := by
  simp [flip]

@[simp] theorem lit_dot {x y : Int} {px : Fin 64} {py : Fin 32} :
    (dot x y).lit px py = true ↔ (px.val : Int) = x ∧ (py.val : Int) = y := by
  simp [dot]

theorem lit_dot_pixel {px px' : Fin 64} {py py' : Fin 32} :
    (dot px.val py.val).lit px' py' = decide (px' = px ∧ py' = py) := by
  rw [Bool.eq_iff_iff, lit_dot, decide_eq_true_iff, Fin.ext_iff, Fin.ext_iff]
  omega

@[simp] theorem lit_union {ds : List Display} {px : Fin 64} {py : Fin 32} :
    (union ds).lit px py = true ↔ ∃ d ∈ ds, d.lit px py = true := by
  simp [union]

theorem lit_union_map {n : Nat} {picture : Nat → Display} {px : Fin 64} {py : Fin 32} :
    (union ((List.range n).map picture)).lit px py = true ↔
      ∃ i < n, (picture i).lit px py = true := by
  simp [union]

theorem pixel?_eq_some_iff {x y : Int} {px : Fin 64} {py : Fin 32} :
    pixel? x y = some (px, py) ↔ (px.val : Int) = x ∧ (py.val : Int) = y := by
  unfold pixel?
  split
  · simp only [Option.some.injEq, Prod.mk.injEq, Fin.ext_iff]
    omega
  · simp only [reduceCtorEq, false_iff]
    omega

end Display

/-- A display that is drawn on, and whether a lit pixel of it went dark. -/
structure Canvas where
  display : Display
  collision : Bool

namespace Canvas

/-- Flips the pixel in a column and a row, if the display has it. -/
def flip (k : Canvas) (x y : Int) : Canvas :=
  match Display.pixel? x y with
  | some (px, py) => ⟨k.display.flip px py, k.collision || k.display.lit px py⟩
  | none => k

/-- Goes through the eight columns of a row that begins at `(x, y)`, the highest
bit on the left. -/
def drawRow (k : Canvas) (x y : Int) (bits : UInt8) : Canvas :=
  (List.range 8).foldl
    (fun k (c : Nat) => if bits.toNat.testBit (7 - c) then k.flip (x + c) y else k) k

/-- Goes through the rows of the sprite at an address, placed with its top left
corner at `(x, y)`. -/
def drawSprite (k : Canvas) (m : Memory) (address height : Nat) (x y : Int) : Canvas :=
  (List.range height).foldl
    (fun k (r : Nat) => k.drawRow x (y + r) (m.read (address + r))) k

/-- Lays a picture over the display at once. -/
def stamp (k : Canvas) (picture : Display) : Canvas :=
  ⟨k.display.xor picture, k.collision || k.display.meets picture⟩

/-- The picture of the bit in one column of a row. -/
def bitPicture (x y : Int) (bits : UInt8) (c : Nat) : Display :=
  if bits.toNat.testBit (7 - c) then .dot (x + c) y else .dark

/-- The picture of a row. -/
def rowPicture (x y : Int) (bits : UInt8) : Display :=
  .union ((List.range 8).map (bitPicture x y bits))

variable {k : Canvas}

theorem ext_lit {k k' : Canvas} (hlit : ∀ px py, k.display.lit px py = k'.display.lit px py)
    (hcollision : k.collision = true ↔ k'.collision = true) : k = k' := by
  have hdisplay : k.display = k'.display := Display.ext_lit hlit
  have hflag : k.collision = k'.collision := Bool.eq_iff_iff.mpr hcollision
  cases k
  cases k'
  simp_all only

/-! ## Pictures laid over a display -/

/-- A dark picture changes nothing. -/
theorem stamp_of_dark {e : Display} (h : ∀ px py, e.lit px py = false) : k.stamp e = k := by
  refine ext_lit (fun px py => ?_) ?_
  · simp [stamp, h]
  · simp [stamp, Display.meets_iff, h]

/-- Of two pictures that are apart, the second meets the display as it was. -/
theorem meets_xor_iff {d e f : Display} (h : e.Apart f) : (d.xor e).meets f ↔ d.meets f := by
  simp only [Display.meets_iff, Display.lit_xor]
  constructor <;>
  · rintro ⟨px, py, hd, hf⟩
    have he : e.lit px py = false := by
      rw [← Bool.not_eq_true]
      exact fun he => by simp [h px py he] at hf
    exact ⟨px, py, by simpa [he] using hd, hf⟩

/-- Two pictures that are apart, one laid over the other, are both at once. -/
theorem stamp_stamp {e f both : Display} (h : e.Apart f)
    (hboth : ∀ px py, both.lit px py = (e.lit px py || f.lit px py)) :
    (k.stamp e).stamp f = k.stamp both := by
  refine ext_lit (fun px py => ?_) ?_
  · show ((k.display.xor e).xor f).lit px py = (k.display.xor both).lit px py
    simp only [Display.lit_xor, hboth]
    cases he : e.lit px py
    · simp
    · simp [h px py he]
  · simp only [stamp, Bool.or_eq_true, meets_xor_iff h, Display.meets_iff, hboth, or_assoc,
      and_or_left, exists_or]

theorem foldl_stamp (pictures : List Display) (h : pictures.Pairwise Display.Apart) :
    pictures.foldl stamp k = k.stamp (.union pictures) := by
  induction pictures generalizing k with
  | nil => exact (stamp_of_dark fun _ _ => by simp [Display.union]).symm
  | cons e rest ih =>
    obtain ⟨hfirst, hrest⟩ := List.pairwise_cons.mp h
    have hapart : e.Apart (.union rest) := by
      intro px py he
      rw [← Bool.not_eq_true, Display.lit_union]
      rintro ⟨f, hf, hlit⟩
      simp [hfirst f hf px py he] at hlit
    rw [List.foldl_cons, ih hrest]
    exact stamp_stamp hapart fun px py => by simp [Display.union]

/-- A loop that lays down one picture a turn, each apart from those before it. -/
theorem foldl_range_stamp (n : Nat) (picture : Nat → Display)
    (h : ∀ i j, i < j → (picture i).Apart (picture j)) :
    (List.range n).foldl (fun k i => k.stamp (picture i)) k =
      k.stamp (.union ((List.range n).map picture)) := by
  rw [← foldl_stamp, List.foldl_map]
  exact List.pairwise_map.mpr (List.pairwise_lt_range.imp fun hlt => h _ _ hlt)

/-! ## The pixel, the row and the sprite -/

theorem flip_eq_stamp (x y : Int) : k.flip x y = k.stamp (.dot x y) := by
  unfold flip
  split
  · rename_i px py hpixel
    obtain ⟨rfl, rfl⟩ := Display.pixel?_eq_some_iff.mp hpixel
    refine ext_lit (fun px' py' => ?_) ?_
    · rw [stamp, Display.lit_flip, Display.lit_xor, Display.lit_dot_pixel]
      by_cases hsame : px' = px ∧ py' = py <;> simp [hsame]
    · simp [stamp, Display.meets_iff, Display.lit_dot_pixel]
  · rename_i hpixel
    refine (stamp_of_dark fun px py => ?_).symm
    rw [← Bool.not_eq_true, Display.lit_dot, ← Display.pixel?_eq_some_iff, hpixel]
    exact nofun

variable {x y : Int} {px : Fin 64} {py : Fin 32}

theorem lit_bitPicture {bits : UInt8} {c : Nat} :
    (bitPicture x y bits c).lit px py = true ↔
      bits.toNat.testBit (7 - c) = true ∧ (px.val : Int) = x + c ∧ (py.val : Int) = y := by
  unfold bitPicture
  split <;> simp_all

theorem lit_rowPicture {bits : UInt8} :
    (rowPicture x y bits).lit px py = true ↔
      ∃ c < 8, bits.toNat.testBit (7 - c) = true ∧ (px.val : Int) = x + c ∧ (py.val : Int) = y := by
  rw [rowPicture, Display.lit_union_map]
  simp only [lit_bitPicture]

theorem drawRow_eq_stamp (x y : Int) (bits : UInt8) :
    k.drawRow x y bits = k.stamp (rowPicture x y bits) := by
  have hturn : ∀ (k : Canvas) (c : Nat),
      (if bits.toNat.testBit (7 - c) then k.flip (x + c) y else k) =
        k.stamp (bitPicture x y bits c) := by
    intro k c
    unfold bitPicture
    split
    · exact flip_eq_stamp _ _
    · exact (stamp_of_dark Display.lit_dark).symm
  simp only [drawRow, hturn]
  refine foldl_range_stamp 8 _ fun i j hlt px py hi => ?_
  rw [← Bool.not_eq_true, lit_bitPicture]
  rw [lit_bitPicture] at hi
  omega

theorem drawSprite_eq_stamp (m : Memory) (address height : Nat) (x y : Int) :
    k.drawSprite m address height x y =
      k.stamp (.union ((List.range height).map fun (r : Nat) =>
        rowPicture x (y + r) (m.read (address + r)))) := by
  simp only [drawSprite, drawRow_eq_stamp]
  refine foldl_range_stamp height _ fun i j hlt px py hi => ?_
  rw [← Bool.not_eq_true, lit_rowPicture]
  rw [lit_rowPicture] at hi
  omega

end Canvas

namespace Sprite

theorem place_of_fits (m : Memory) {address height : Nat} {x y : Int}
    (fits : Fits address x y height) :
    place m address x y height =
      .ok (mask m (.ofInt address) (.ofInt x) (.ofInt y) (.ofInt height)) := by
  obtain ⟨-, hbytes, hcolumns, hrows⟩ := fits
  have hword : ∀ (error : Int → NoWord) (a : Int), -0x80000000 ≤ a ∧ a < 0x80000000 →
      word error a = .ok (.ofInt a) := fun _ _ ha => if_pos ha
  simp only [place]
  rw [hword _ x (by omega), hword _ y (by omega), hword _ height (by omega),
    hword _ address (by omega)]
  rfl

/-- The picture of a whole sprite, in integers. -/
theorem lit_mask_ofInt (m : Memory) {address height : Nat} {x y : Int}
    (fits : Fits address x y height) (px : Fin 64) (py : Fin 32) :
    (mask m (.ofInt address) (.ofInt x) (.ofInt y) (.ofInt height)).lit px py = true ↔
      (0 ≤ px.val - x ∧ px.val - x < 8) ∧ (0 ≤ py.val - y ∧ py.val - y < height) ∧
        (m.read (address + (py.val - y)).toNat).toNat.testBit (7 - (px.val - x).toNat) = true := by
  have hpx := px.isLt
  have hpy := py.isLt
  rw [lit_mask, covers_ofInt m fits (by omega) (by omega)]
  simp only [Bool.and_eq_true, decide_eq_true_eq, and_assoc]

/-- The picture of a whole sprite is that of its rows. -/
theorem mask_eq_union (m : Memory) {address height : Nat} {x y : Int}
    (fits : Fits address x y height) :
    mask m (.ofInt address) (.ofInt x) (.ofInt y) (.ofInt height) =
      .union ((List.range height).map fun (r : Nat) =>
        Canvas.rowPicture x (y + r) (m.read (address + r))) := by
  refine Display.ext_lit fun px py => ?_
  rw [Bool.eq_iff_iff, lit_mask_ofInt m fits, Display.lit_union_map]
  simp only [Canvas.lit_rowPicture]
  constructor
  · rintro ⟨⟨hx, hx8⟩, ⟨hy, hyh⟩, hbit⟩
    have hplace : (address + (py.val - y)).toNat = address + (py.val - y).toNat := by omega
    rw [hplace] at hbit
    exact ⟨(py.val - y).toNat, by omega, (px.val - x).toNat, by omega, hbit, by omega, by omega⟩
  · rintro ⟨r, hr, c, hc, hbit, hx, hy⟩
    have hcolumn : (px.val - x).toNat = c := by omega
    have hplace : (address + (py.val - y)).toNat = address + r := by omega
    rw [hcolumn, hplace]
    exact ⟨by omega, by omega, hbit⟩

end Sprite

namespace State

/-- The sprite of an instruction lies far from the ends of the words, wherever the
index and the registers point. -/
theorem fits_sprite (s : State) (x y height : Fin 16) :
    Sprite.Fits s.index.toNat (s.reg x).toNat (s.reg y).toNat height.val := by
  have hindex := s.index.toNat_lt
  have hx := (s.reg x).toNat_lt
  have hy := (s.reg y).toNat_lt
  constructor <;> omega

theorem draw_eq_drawSprite (s : State) (x y height : Fin 16) :
    let k := Canvas.drawSprite ⟨s.display, false⟩ s.memory s.index.toNat height.val
      (s.reg x).toNat (s.reg y).toNat
    s.draw (s.sprite x y height) = { s with display := k.display }.setFlag k.collision := by
  intro k
  have hk : k = Canvas.stamp ⟨s.display, false⟩ (s.sprite x y height) := by
    show Canvas.drawSprite _ _ _ _ _ _ = _
    rw [Canvas.drawSprite_eq_stamp, ← Sprite.mask_eq_union s.memory (s.fits_sprite x y height)]
    rfl
  rw [hk]
  rfl

/-- **Sprites.** A sprite placed at any integers is lit at the pixels of the display
whose bit in memory is set. An instruction that draws, and whose sprite ends inside
memory, succeeds; it leaves the display and the flag of the loop that starts with no
collision and flips one pixel for each bit that is set, and the other registers as
they were. -/
theorem sprite_drawn_pixel_by_pixel :
    (∀ (m : Memory) (address height : Nat) (x y : Int), Sprite.Fits address x y height →
      ∃ d, Sprite.place m address x y height = .ok d ∧ ∀ px py, d.lit px py = true ↔
        (0 ≤ px.val - x ∧ px.val - x < 8) ∧ (0 ≤ py.val - y ∧ py.val - y < height) ∧
          m.bytes[min (address + (py.val - y)).toNat 4095].toNat.testBit
            (7 - (px.val - x).toNat) = true) ∧
    ∀ (s : State) (c : Code), Op.ofCode? c = some .drw → s.index.toNat + c.n.val ≤ 0x1000 →
      let k := Canvas.drawSprite ⟨s.display, false⟩ s.memory s.index.toNat c.n.val
        (s.reg c.x).toNat (s.reg c.y).toNat
      ∃ s', s.execute c = .ok s' ∧ s'.display = k.display ∧
        s'.reg flagRegister = (if k.collision then 1 else 0) ∧
        ∀ j ≠ flagRegister, s'.reg j = s.reg j := by
  constructor
  · intro m address height x y fits
    exact ⟨_, Sprite.place_of_fits m fits, Sprite.lit_mask_ofInt m fits⟩
  · intro s c hop hbounds k
    have hclear : s.refusal? ⟨.drw, c⟩ s.instructionAddress.toNat = none := by
      refine refusal?_eq_none_iff.mpr ⟨nofun, nofun, fun last hlast => ?_⟩
      have hend : (s.index.toNat + c.n.val - 1 : Int) = last := Option.some.inj hlast
      omega
    have hperform : s.perform ⟨.drw, c⟩ = { s with display := k.display }.setFlag k.collision :=
      draw_eq_drawSprite s c.x c.y c.n
    refine ⟨_, execute_eq_ok_iff.mpr ⟨.drw, hop, hclear, rfl⟩, ?_, ?_, fun j hj => ?_⟩
    · show (s.perform ⟨.drw, c⟩).display = k.display
      rw [hperform]
      rfl
    · show (s.perform ⟨.drw, c⟩).reg flagRegister = _
      rw [hperform, setFlag, reg_setReg, if_pos rfl]
      cases k.collision <;> rfl
    · show (s.perform ⟨.drw, c⟩).reg j = s.reg j
      rw [hperform]
      exact reg_setReg_of_ne hj

/-- A row of eight pixels whose column is in the flag register, two before the right
edge: two pixels are lit, none comes in again on the left, and the flag tells that
nothing went dark. -/
theorem sprite_drawn_pixel_by_pixel_at_edge :
    let s := ({ fresh [] ⟨0, 7⟩ with memory := Memory.zero.write 0 0xFF }.setReg 0xF 62).setReg 1 3
    ∃ s', s.execute 0xDF11 = .ok s' ∧ s'.reg 0xF = 0 ∧
      s'.display.lit 62 3 = true ∧ s'.display.lit 63 3 = true ∧
      s'.display.lit 0 3 = false ∧ s'.display.lit 0 4 = false := by
  intro s
  obtain ⟨s', hrun, hdisplay, hflag, -⟩ :=
    sprite_drawn_pixel_by_pixel.2 s 0xDF11 (by decide +kernel) (by decide +kernel)
  refine ⟨s', hrun, ?_⟩
  rw [hdisplay, show (0xF : Fin 16) = flagRegister from rfl, hflag]
  decide +kernel

end State

end Chip8
