import Chip8.Picture.Render
import Chip8.State
import Mathlib.Tactic.Ring

/-!
# Pictures pixel by pixel

A picture of a display is told by one rule (`Picture.render_pixel_by_pixel`): its
pixel at a row and a column has the colour of the display's pixel at the two
quotients by the scale, the column first. So the display can be read back from the
picture, unless its two colours are equal. Whatever has not the shape of a display,
and then any colour with a component that is no byte, is refused before a pixel is
looked at.

Of all scales below two the picture has one pixel for each of the display. For the
others the rule speaks of pictures of less than `2 ^ 63` bytes; larger ones cannot be
made.
-/

namespace Chip8

namespace Picture

/-! ## Colours -/

/-- Whether a component of a colour is a byte. -/
def IsByte (v : Int) : Prop := 0 ≤ v ∧ v ≤ 255

instance (v : Int) : Decidable (IsByte v) := inferInstanceAs (Decidable (_ ∧ _))

namespace Color

/-- The components of a colour, in the order in which they are checked. -/
def components (c : Color) : List Int := [c.red, c.green, c.blue]

/-- Whether all components of a colour are bytes. -/
def Valid (c : Color) : Prop := ∀ v ∈ c.components, IsByte v

instance (c : Color) : Decidable c.Valid := inferInstanceAs (Decidable (∀ v ∈ _, _))

end Color

theorem component_of_isByte {v : Int} (h : IsByte v) :
    ∃ b : UInt8, component v = .ok b ∧ (b.toNat : Int) = v := by
  obtain ⟨hlow, hhigh⟩ := h
  refine ⟨UInt8.ofNat v.toNat, if_pos ⟨hlow, hhigh⟩, ?_⟩
  rw [UInt8.toNat_ofNat_of_lt' (show v.toNat < 256 by omega)]
  omega

/-- How a number is refused that is no byte. -/
def Refuses {α : Type} (r : Except PictureError α) (v : Int) : Prop :=
  ¬ IsByte v ∧ (r = .error (.component v) ∨ r = .error (.tooWide v))

theorem component_of_not_isByte {v : Int} (h : ¬ IsByte v) : Refuses (component v) v := by
  refine ⟨h, ?_⟩
  have hfails : ¬ (0 ≤ v ∧ v ≤ 255) := h
  rw [component, if_neg hfails]
  split
  · exact .inl rfl
  · exact .inr rfl

/-- A refused number is still refused by what goes on with it. -/
theorem Refuses.bind {α β : Type} {r : Except PictureError α} {v : Int} (h : Refuses r v)
    (f : α → Except PictureError β) : Refuses (r >>= f) v := by
  obtain ⟨hv, rfl | rfl⟩ := h
  · exact ⟨hv, .inl rfl⟩
  · exact ⟨hv, .inr rfl⟩

theorem Color.toRgb_of_valid {c : Color} (h : c.Valid) :
    ∃ p : Rgb, c.toRgb = .ok p ∧ p.toColor = c := by
  obtain ⟨red, hred, hred'⟩ := component_of_isByte (h c.red (by simp [components]))
  obtain ⟨green, hgreen, hgreen'⟩ := component_of_isByte (h c.green (by simp [components]))
  obtain ⟨blue, hblue, hblue'⟩ := component_of_isByte (h c.blue (by simp [components]))
  refine ⟨⟨red, green, blue⟩, ?_, ?_⟩
  · rw [toRgb, hred, hgreen, hblue]
    rfl
  · rw [Rgb.toColor, hred', hgreen', hblue']

/-- Of a colour that is not valid the first component that is no byte is refused. -/
theorem Color.toRgb_of_not_valid {c : Color} (h : ¬ c.Valid) :
    ∃ v ∈ c.components, Refuses c.toRgb v := by
  by_cases hred : IsByte c.red
  · obtain ⟨red, hok, -⟩ := component_of_isByte hred
    by_cases hgreen : IsByte c.green
    · obtain ⟨green, hok', -⟩ := component_of_isByte hgreen
      have hblue : ¬ IsByte c.blue := fun hblue => h (by simp [Valid, components, *])
      refine ⟨c.blue, by simp [components], ?_⟩
      rw [toRgb, hok, hok']
      exact (component_of_not_isByte hblue).bind _
    · refine ⟨c.green, by simp [components], ?_⟩
      rw [toRgb, hok]
      exact (component_of_not_isByte hgreen).bind _
  · exact ⟨c.red, by simp [components], (component_of_not_isByte hred).bind _⟩

/-! ## Sizes -/

namespace Capacity

theorem isWord_natCast {n : Nat} : isWord (n : Int) = true ↔ n < 0x8000000000000000 := by
  simp only [isWord, decide_eq_true_eq]
  omega

theorem size_picture (s : Nat) :
    size [32 * (s : Int), 64 * s, 3] = (3 * (32 * s) * (64 * s) : Nat) := by
  simp only [size, List.foldr]
  push_cast
  ring

/-- The bytes of a picture are at least as many as those of the display with its rows
repeated. -/
theorem rows_le_bytes (s : Nat) : 6144 * s ≤ 3 * (32 * s) * (64 * s) := by
  have hbytes : 3 * (32 * s) * (64 * s) = 6144 * (s * s) := by ring
  have hgrows : s ≤ s * s := Nat.le_mul_self s
  omega

/-- A picture whose bytes can be counted meets no obstacle on the way. -/
theorem overflow?_rows_columns {s : Nat} (hs : 0 < s)
    (room : 3 * (32 * s) * (64 * s) < 0x8000000000000000) :
    overflow? 1 [wrap (32 * s), 64, 3] = none ∧
      overflow? 1 [wrap (32 * s), wrap (64 * s), 3] = none := by
  have hbytes := rows_le_bytes s
  have hwrap : ∀ k : Int, 0 ≤ k ∧ k < 0x8000000000000000 → wrap k = k :=
    fun k hk => Int.bmod_eq_of_le (by omega) (by omega)
  have hrows : 1 * size [32 * (s : Int), 64, 3] < 0x8000000000000000 := by
    simp only [size, List.foldr]
    omega
  have hall : 1 * size [32 * (s : Int), 64 * s, 3] < 0x8000000000000000 := by
    have hsize := size_picture s
    omega
  rw [hwrap (32 * s) (by omega), hwrap (64 * s) (by omega)]
  exact ⟨overflow?_eq_none (by decide) (by simp; omega) hrows,
    overflow?_eq_none (by decide) (by simp; omega) hall⟩

/-- A display can be enlarged if and only if the picture has less than `2 ^ 63` bytes. -/
theorem enlarging?_eq_none_iff {scale : Int} {s : Nat} (hs : s = (max 1 scale).toNat) :
    enlarging? scale = none ↔ 3 * (32 * s) * (64 * s) < 0x8000000000000000 := by
  unfold enlarging?
  split
  · obtain rfl : s = 1 := by omega
    simp
  · obtain rfl : scale = s := by omega
    have hbytes := rows_le_bytes s
    rw [size_picture]
    by_cases room : 3 * (32 * s) * (64 * s) < 0x8000000000000000
    · obtain ⟨hrows, hall⟩ := overflow?_rows_columns (by omega) room
      have hscale : isWord s = true := isWord_natCast.mpr (by omega)
      rw [hscale, hrows, hall, if_pos (isWord_natCast.mpr room)]
      simp [room]
    · -- if nothing else does, the number of the bytes refuses the picture
      rw [if_neg (mt isWord_natCast.mp room)]
      cases isWord s <;> simp [room]

end Capacity

/-! ## Pictures -/

section Render

variable {pixels : Bitmap} {scale : Int} {on off : Color} {image : Image Rgb}

theorem Bitmap.toDisplay_of_shape (h : pixels.shape = [64, 32]) :
    pixels.toDisplay = .ok (.ofFn fun x y => pixels.lit [x.val, y.val]) :=
  if_pos h

theorem render_of_wrong_shape (h : pixels.shape ≠ [64, 32]) :
    render pixels scale on off = .error (.wrongShape pixels.shape) := by
  rw [render, Bitmap.toDisplay, if_neg h]
  rfl

/-- Colours are checked whatever the pixels and the scale are. -/
theorem render_of_not_valid (hshape : pixels.shape = [64, 32]) (h : ¬ (on.Valid ∧ off.Valid)) :
    ∃ v ∈ on.components ++ off.components, Refuses (render pixels scale on off) v := by
  rw [render, Bitmap.toDisplay_of_shape hshape]
  by_cases hon : on.Valid
  · obtain ⟨p, hp, -⟩ := on.toRgb_of_valid hon
    obtain ⟨v, hv, hrefused⟩ := off.toRgb_of_not_valid fun hoff => h ⟨hon, hoff⟩
    rw [hp]
    exact ⟨v, List.mem_append_right _ hv, hrefused.bind _⟩
  · obtain ⟨v, hv, hrefused⟩ := on.toRgb_of_not_valid hon
    exact ⟨v, List.mem_append_left _ hv, hrefused.bind _⟩

theorem render_of_valid (hshape : pixels.shape = [64, 32]) {p q : Rgb} (hp : on.toRgb = .ok p)
    (hq : off.toRgb = .ok q) :
    render pixels scale on off =
      match Capacity.enlarging? scale with
      | some e => .error e
      | none => .ok (Display.image (.ofFn fun x y => pixels.lit [x.val, y.val]) scale p q) := by
  rw [render, Bitmap.toDisplay_of_shape hshape, hp, hq]
  rfl

/-- With good pixels and colours there is a picture unless it would be too large. -/
theorem exists_render_iff (hshape : pixels.shape = [64, 32]) (hon : on.Valid)
    (hoff : off.Valid) :
    3 * (32 * (max 1 scale).toNat) * (64 * (max 1 scale).toNat) < 0x8000000000000000 ↔
      ∃ image, render pixels scale on off = .ok image := by
  obtain ⟨p, hp, -⟩ := on.toRgb_of_valid hon
  obtain ⟨q, hq, -⟩ := off.toRgb_of_valid hoff
  rw [render_of_valid hshape hp hq, ← Capacity.enlarging?_eq_none_iff rfl]
  cases Capacity.enlarging? scale <;> simp

/-- A picture that is made shows the pixels at the quotients by the scale. -/
theorem pixel?_render (hshape : pixels.shape = [64, 32]) (hon : on.Valid) (hoff : off.Valid)
    (h : render pixels scale on off = .ok image) {s : Nat} (hs : s = (max 1 scale).toNat) :
    image.height = 32 * s ∧ image.width = 64 * s ∧
      ∀ row < 32 * s, ∀ column < 64 * s,
        (image.pixel? row column).map Rgb.toColor =
          some (if pixels.lit [column / s, row / s] then on else off) := by
  obtain ⟨p, hp, rfl⟩ := on.toRgb_of_valid hon
  obtain ⟨q, hq, rfl⟩ := off.toRgb_of_valid hoff
  rw [render_of_valid hshape hp hq] at h
  split at h
  · cases h
  · cases h
    subst hs
    refine ⟨rfl, rfl, fun row hrow column hcolumn => ?_⟩
    have hpos : 0 < (max 1 scale).toNat := by omega
    rw [Display.pixel?_image, dif_pos
      ⟨(Nat.div_lt_iff_lt_mul hpos).mpr hrow, (Nat.div_lt_iff_lt_mul hpos).mpr hcolumn⟩,
      Option.map_some, Display.lit_ofFn]
    exact congrArg some (apply_ite Rgb.toColor _ _ _)

end Render

end Picture

/-- The framebuffer has a one where the display is lit. -/
theorem State.framebuffer_eq_one_iff {st : State} {row : Fin 32} {column : Fin 64} :
    (st.framebuffer.get row).get column = 1 ↔ st.display.lit column row = true := by
  have hcell : (st.framebuffer.get row).get column = (st.display.lit column row).toUInt8 := by
    show st.framebuffer[row][column] = _
    simp [framebuffer, Display.lit]
  rw [hcell]
  cases st.display.lit column row <;> decide

namespace Picture

theorem Bitmap.lit_ofDisplay (d : Display) (x : Fin 64) (y : Fin 32) :
    (ofDisplay d).lit [x.val, y.val] = d.lit x y :=
  dif_pos ⟨x.isLt, y.isLt⟩

/-- **Pictures of a display.** Pixels in another shape than that of a display are
refused whatever the colours are, and a colour with a component that is no byte is
refused whether a pixel has it or not. Otherwise there is a picture if and only if its
bytes are less than `2 ^ 63`; it has `s` rows and columns for each of the display, and
each of its pixels has the colour of the display's pixel at the two quotients by `s`.
With one pixel for each, these are the cells of the framebuffer. If the colours differ,
the picture tells the display. -/
theorem render_pixel_by_pixel (pixels : Bitmap) (scale : Int) (on off : Color) :
    let s := (max 1 scale).toNat
    (pixels.shape ≠ [64, 32] →
      render pixels scale on off = .error (.wrongShape pixels.shape)) ∧
    (pixels.shape = [64, 32] → ¬ (on.Valid ∧ off.Valid) →
      ∃ v ∈ on.components ++ off.components, ¬ (0 ≤ v ∧ v ≤ 255) ∧
        (render pixels scale on off = .error (.component v) ∨
          render pixels scale on off = .error (.tooWide v))) ∧
    (pixels.shape = [64, 32] → on.Valid → off.Valid →
      (3 * (32 * s) * (64 * s) < 0x8000000000000000 ↔
        ∃ image, render pixels scale on off = .ok image) ∧
      ∀ image, render pixels scale on off = .ok image →
        image.height = 32 * s ∧ image.width = 64 * s ∧
        (∀ row < 32 * s, ∀ column < 64 * s,
          (image.pixel? row column).map Rgb.toColor =
            some (if pixels.lit [column / s, row / s] then on else off)) ∧
        (∀ st : State, pixels = .ofDisplay st.display → s = 1 →
          ∀ (row : Fin 32) (column : Fin 64),
            (image.pixel? row column).map Rgb.toColor =
              some (if (st.framebuffer.get row).get column = 1 then on else off)) ∧
        (on ≠ off → ∀ pixels' : Bitmap, pixels'.shape = [64, 32] →
          render pixels' scale on off = .ok image →
          ∀ x < 64, ∀ y < 32, pixels.lit [x, y] = pixels'.lit [x, y])) := by
  intro s
  refine ⟨render_of_wrong_shape, render_of_not_valid,
    fun hshape hon hoff => ⟨exists_render_iff hshape hon hoff, ?_⟩⟩
  · intro image h
    obtain ⟨hheight, hwidth, hpixel⟩ := pixel?_render hshape hon hoff h rfl
    refine ⟨hheight, hwidth, hpixel, fun st hst hone row column => ?_, ?_⟩
    · have hcell := hpixel row.val (by omega) column.val (by omega)
      rw [show (max 1 scale).toNat = 1 from hone, Nat.div_one, Nat.div_one, hst,
        Bitmap.lit_ofDisplay] at hcell
      simp only [State.framebuffer_eq_one_iff]
      exact hcell
    · intro hdiffer pixels' hshape' h' x hx y hy
      obtain ⟨-, -, hpixel'⟩ := pixel?_render hshape' hon hoff h' rfl
      -- the first pixel of the square for column `x` and row `y` has both colours
      have hpos : 0 < s := by omega
      have hcell := hpixel (y * s) (Nat.mul_lt_mul_of_pos_right hy hpos) (x * s)
        (Nat.mul_lt_mul_of_pos_right hx hpos)
      have hcell' := hpixel' (y * s) (Nat.mul_lt_mul_of_pos_right hy hpos) (x * s)
        (Nat.mul_lt_mul_of_pos_right hx hpos)
      rw [Nat.mul_div_cancel _ hpos, Nat.mul_div_cancel _ hpos] at hcell hcell'
      have hcolors := Option.some.inj (hcell.symm.trans hcell')
      cases hl : pixels.lit [x, y] <;> cases hl' : pixels'.lit [x, y] <;> simp_all

/-- One lit pixel in the upper right corner, three times as large, and a state that has
the same display: the corner of its framebuffer is one. Turned on its side, or with a
component past a byte, the pixels are refused. -/
theorem render_pixel_by_pixel_corner :
    let corner : Bitmap := ⟨[64, 32], fun i => i = [63, 0]⟩
    let sideways : Bitmap := ⟨[32, 64], fun i => i = [0, 63]⟩
    let on : Color := ⟨255, 176, 0⟩
    let off : Color := ⟨0, 0, 64⟩
    let st := { State.fresh [] ⟨0, 7⟩ with display := .ofFn fun x y => x = 63 && y = 0 }
    (∃ image, render corner 3 on off = .ok image ∧ image.height = 96 ∧ image.width = 192 ∧
      (image.pixel? 2 189).map Rgb.toColor = some on ∧
      (image.pixel? 3 189).map Rgb.toColor = some off ∧
      (image.pixel? 2 188).map Rgb.toColor = some off ∧
      ∀ pixels : Bitmap, pixels.shape = [64, 32] → render pixels 3 on off = .ok image →
        pixels.lit [63, 0] = true ∧ pixels.lit [0, 31] = false) ∧
    (∃ image, render (.ofDisplay st.display) (-2) on off = .ok image ∧
      (image.pixel? 0 63).map Rgb.toColor = some on ∧
      (image.pixel? 31 0).map Rgb.toColor = some off) ∧
    render sideways 3 on ⟨256, 0, 0⟩ = .error (.wrongShape [32, 64]) ∧
    ∃ v, ¬ (0 ≤ v ∧ v ≤ 255) ∧ (render corner 3 on ⟨256, 0, 0⟩ = .error (.component v) ∨
      render corner 3 on ⟨256, 0, 0⟩ = .error (.tooWide v)) := by
  intro corner sideways on off st
  refine ⟨?_, ?_, ?_, ?_⟩
  · obtain ⟨-, -, hpicture⟩ := render_pixel_by_pixel corner 3 on off
    obtain ⟨hmade, hlaw⟩ := hpicture rfl (by decide) (by decide)
    obtain ⟨image, h⟩ := hmade.mp (by decide)
    obtain ⟨hheight, hwidth, hpixel, -, htells⟩ := hlaw image h
    refine ⟨image, h, hheight, hwidth, hpixel 2 (by decide) 189 (by decide),
      hpixel 3 (by decide) 189 (by decide), hpixel 2 (by decide) 188 (by decide), ?_⟩
    intro pixels hshape h'
    have hsame := htells (by decide) pixels hshape h'
    exact ⟨(hsame 63 (by decide) 0 (by decide)).symm, (hsame 0 (by decide) 31 (by decide)).symm⟩
  · obtain ⟨-, -, hpicture⟩ := render_pixel_by_pixel (.ofDisplay st.display) (-2) on off
    obtain ⟨hmade, hlaw⟩ := hpicture rfl (by decide) (by decide)
    obtain ⟨image, h⟩ := hmade.mp (by decide)
    obtain ⟨-, -, -, hcells, -⟩ := hlaw image h
    have hlit : (st.framebuffer.get 0).get 63 = 1 ∧ ¬ (st.framebuffer.get 31).get 0 = 1 := by
      simp only [State.framebuffer_eq_one_iff]
      decide +kernel
    refine ⟨image, h, ?_, ?_⟩
    · exact (hcells st rfl rfl 0 63).trans (congrArg some (if_pos hlit.1))
    · exact (hcells st rfl rfl 31 0).trans (congrArg some (if_neg hlit.2))
  · exact (render_pixel_by_pixel sideways 3 on ⟨256, 0, 0⟩).1 (by decide)
  · obtain ⟨-, hcolor, -⟩ := render_pixel_by_pixel corner 3 on ⟨256, 0, 0⟩
    obtain ⟨v, -, hrefused⟩ := hcolor rfl (by decide)
    exact ⟨v, hrefused⟩

/-- A dark display with two good colours is refused when each of its pixels is to become
`2 ^ 63` wide. -/
theorem render_refuses_scale :
    let on : Color := ⟨0, 255, 0⟩
    let off : Color := ⟨0, 0, 0⟩
    (Bitmap.dark [64, 32]).shape = [64, 32] ∧ on.Valid ∧ off.Valid ∧
      render (.dark [64, 32]) 0x8000000000000000 on off = .error (.tooWide 0x8000000000000000) := by
  intro on off
  exact ⟨rfl, by decide, by decide, rfl⟩

end Picture

end Chip8
