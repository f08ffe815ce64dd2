import Chip8.Display
import Chip8.Picture.Capacity
import Chip8.Picture.Color
import Chip8.Picture.Image

/-!
# The picture of a display

A display becomes an image by giving its pixels two colours and enlarging it.
A host may hand over pixels in any shape; only those of a display are taken.
-/

namespace Chip8

namespace Picture

/-- Pixels in any shape: the lengths of its axes, and whether the pixel at an
index along each axis is lit. A display has two axes, columns first. -/
structure Bitmap where
  shape : List Nat
  lit : List Nat → Bool

namespace Bitmap

/-- A display as pixels. -/
def ofDisplay (d : Display) : Bitmap where
  shape := [64, 32]
  lit
    | [x, y] => if h : x < 64 ∧ y < 32 then d.lit ⟨x, h.1⟩ ⟨y, h.2⟩ else false
    | _ => false

/-- Pixels without a lit one. -/
def dark (shape : List Nat) : Bitmap := ⟨shape, fun _ => false⟩

/-- The display that pixels of the right shape make up. -/
def toDisplay (b : Bitmap) : Except PictureError Display :=
  if b.shape = [64, 32] then .ok (.ofFn fun x y => b.lit [x.val, y.val])
  else .error (.wrongShape b.shape)

theorem toDisplay_ofDisplay (d : Display) : (ofDisplay d).toDisplay = .ok d := by
  rw [toDisplay, if_pos (show (ofDisplay d).shape = [64, 32] from rfl)]
  exact congrArg Except.ok (Display.ext_lit fun x y => by simp [ofDisplay])

end Bitmap

end Picture

open Picture

/-- The scale of an image of one display, unless the host asks for another. -/
def Picture.defaultScale : Int := 8

/-- The image of a display: each pixel a square of `scale` by `scale`, or a
single pixel if the scale is below two. -/
def Display.image (d : Display) (scale : Int) (on off : Rgb) : Image Rgb :=
  (Image.mk 32 64 (d.rows.map fun row => row.map fun lit => if lit then on else off)).upscale
    (max 1 scale).toNat

/-- The image of pixels in the given colours. The shape is checked before the
colours, the colour of lit pixels before that of dark ones, and the scale last;
a colour is checked whether a pixel has it or not. -/
def Picture.render (pixels : Bitmap) (scale : Int) (on off : Color) :
    Except PictureError (Image Rgb) := do
  let d ← pixels.toDisplay
  let on ← on.toRgb
  let off ← off.toRgb
  match Capacity.enlarging? scale with
  | some e => throw e
  | none => return d.image scale on off

/-- The pixel at a row and a column shows the pixel of the display that it is
a part of. -/
theorem Display.pixel?_image (d : Display) (scale : Int) (on off : Rgb) (row column : Nat) :
    (d.image scale on off).pixel? row column =
      if h : row / (max 1 scale).toNat < 32 ∧ column / (max 1 scale).toNat < 64 then
        some (if d.lit ⟨_, h.2⟩ ⟨_, h.1⟩ then on else off)
      else none := by
  rw [image, Image.pixel?_upscale _ (by omega)]
  generalize row / (max 1 scale).toNat = r, column / (max 1 scale).toNat = c
  unfold Image.pixel?
  by_cases h : r < 32 <;> by_cases h' : c < 64 <;> simp [h, h', lit]
  rfl

end Chip8
