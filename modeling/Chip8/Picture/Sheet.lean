import Chip8.Picture.Render

/-!
# Sheets of displays

Many displays on one image, as the tiles of a grid that is as nearly square as
it can be, filled row by row. Between the tiles lies a transparent gap. A gap
below zero makes tiles overlap, and the later one lies on top.

Sizes are integers here, because a host may ask for a scale or a gap below
zero; where that leaves no room for the first tile there is no sheet.
-/

namespace Chip8.Picture.Sheet

/-- The scale of a sheet, unless the host asks for another. -/
def defaultScale : Int := 4

/-- The gap between tiles, unless the host asks for another. -/
def defaultGap : Int := 5

/-- The number of columns for `n` tiles: the least whose square has room for
all of them. -/
def columns (n : Nat) : Nat :=
  ((List.range (n + 1)).find? fun c => n ≤ c * c).getD n

/-- The number of rows for `n` tiles. -/
def rows (n : Nat) : Nat := (n + columns n - 1) / columns n

/-- How long a row of `count` tiles is. -/
def extent (count tile gap : Int) : Int := count * tile + (count - 1) * gap

/-- Where tile `i` of a row starts. -/
def start (i : Nat) (tile gap : Int) : Int := i * (tile + gap)

/-- How much of a length lies before a mark, which counts from the end if it
is negative. -/
def before (length mark : Int) : Nat :=
  if mark < 0 then (length + mark).toNat else (min mark length).toNat

/-- The height of a sheet. -/
def height (n : Nat) (scale gap : Int) : Int := extent (rows n) (32 * scale) gap

/-- The width of a sheet. -/
def width (n : Nat) (scale gap : Int) : Int := extent (columns n) (64 * scale) gap

/-- The size of a tile: a scale below one leaves it as large as the display. -/
def tileSize (scale : Int) : Nat × Nat :=
  ((32 * max 1 scale).toNat, (64 * max 1 scale).toNat)

/-- The size of the place that the first tile finds on the sheet. -/
def firstPlace (n : Nat) (scale gap : Int) : Nat × Nat :=
  (before (height n scale gap) (32 * scale), before (width n scale gap) (64 * scale))

/-- The error of a first tile that does not fit its place, if so. -/
def misfit? (n : Nat) (scale gap : Int) : Option PictureError :=
  if firstPlace n scale gap = tileSize scale then none
  else some (.misfit (tileSize scale) (firstPlace n scale gap))

/-- Why there is no sheet of `n` displays, if so: the sheet comes first, with
four bytes to the pixel, then its first tile. If there is room for the first
tile, there is room for all. -/
def refusal? (n : Nat) (scale gap : Int) : Option PictureError :=
  if n = 0 then some .noDisplays
  else
    (Capacity.refusal? [height n scale gap, width n scale gap, 4]).or
      ((Capacity.enlarging? scale).or (misfit? n scale gap))

/-- Lays a tile, given with its number, on a sheet of so many columns. -/
def lay (columns : Nat) (scale gap : Int) (scheme : Scheme) (sheet : Image Rgba)
    (tile : Display × Nat) : Image Rgba :=
  sheet.paste (start (tile.2 / columns) (32 * scale) gap).toNat
    (start (tile.2 % columns) (64 * scale) gap).toNat
    ((tile.1.image scale scheme.on scheme.off).map Rgb.solid)

/-- Lays displays on an empty sheet, one after the other. -/
def compose (displays : List Display) (scale gap : Int) (scheme : Scheme) : Image Rgba :=
  let n := displays.length
  displays.zipIdx.foldl (lay (columns n) scale gap scheme)
    (.fill (height n scale gap).toNat (width n scale gap).toNat .transparent)

/-- The sheet of some displays in the colours of a named scheme. -/
def render (displays : List Display) (scale : Int) (scheme : String) (gap : Int) :
    Except PictureError (Image Rgba) :=
  match Scheme.ofName scheme with
  | .error e => .error e
  | .ok scheme =>
    match refusal? displays.length scale gap with
    | some e => .error e
    | none => .ok (compose displays scale gap scheme)

example : (List.range 11).map columns = [0, 1, 2, 2, 2, 3, 3, 3, 3, 3, 4] := by decide

end Chip8.Picture.Sheet
