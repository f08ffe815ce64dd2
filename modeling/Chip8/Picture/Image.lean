/-!
# Images

A rectangle of pixels, row by row from the top. `pixel?` is the view: it gives
the pixel at a row and a column, if the image reaches that far, and each
operation is described by the pixels of its result.
-/

namespace Chip8.Picture

/-- A rectangle of pixels. -/
structure Image (α : Type) where
  height : Nat
  width : Nat
  rows : Vector (Vector α width) height

namespace Image

variable {α β : Type}

/-- The pixel at a row and a column. -/
def pixel? (i : Image α) (row column : Nat) : Option α :=
  i.rows[row]?.bind fun r => r[column]?

/-- An image of one colour. -/
def fill (height width : Nat) (a : α) : Image α :=
  ⟨height, width, Vector.replicate height (Vector.replicate width a)⟩

/-- Gives every pixel a new value. -/
def map (f : α → β) (i : Image α) : Image β :=
  ⟨i.height, i.width, i.rows.map fun row => row.map f⟩

/-- Repeats every pixel `k` times in its row and every row `k` times. -/
def upscale (i : Image α) (k : Nat) : Image α :=
  ⟨i.height * k, i.width * k,
    i.rows.flatMap fun row => Vector.replicate k (row.flatMap fun a => Vector.replicate k a)⟩

/-- The pixel of a tile that lies over a row and a column, when the tile's top
left corner lies at `(top, left)`. -/
def over? (tile : Image α) (top left row column : Nat) : Option α :=
  if top ≤ row ∧ left ≤ column then tile.pixel? (row - top) (column - left) else none

/-- Lays a tile over an image; what would stick out is cut off. -/
def paste (i : Image α) (top left : Nat) (tile : Image α) : Image α :=
  ⟨i.height, i.width, i.rows.mapIdx fun row pixels =>
    if row < top ∨ top + tile.height ≤ row then pixels
    else pixels.mapIdx fun column a => (tile.over? top left row column).getD a⟩

theorem pixel?_eq_none_iff {i : Image α} {row column : Nat} :
    i.pixel? row column = none ↔ i.height ≤ row ∨ i.width ≤ column := by
  unfold pixel?
  by_cases h : row < i.height
  · simp [h, Nat.not_le.2 h]
  · simp [h, Nat.not_lt.1 h]

theorem pixel?_fill (height width : Nat) (a : α) (row column : Nat) :
    (fill height width a).pixel? row column =
      if row < height ∧ column < width then some a else none := by
  unfold pixel? fill
  by_cases h : row < height <;> by_cases h' : column < width <;> simp [h, h']

theorem pixel?_map (f : α → β) (i : Image α) (row column : Nat) :
    (i.map f).pixel? row column = (i.pixel? row column).map f := by
  unfold pixel? map
  by_cases h : row < i.height <;> by_cases h' : column < i.width <;> simp [h, h']

theorem pixel?_upscale (i : Image α) {k : Nat} (hk : 0 < k) (row column : Nat) :
    (i.upscale k).pixel? row column = i.pixel? (row / k) (column / k) := by
  unfold pixel? upscale
  have bound (n a : Nat) : a < n * k ↔ a / k < n := (Nat.div_lt_iff_lt_mul hk).symm
  by_cases h : row / k < i.height
  · by_cases h' : column / k < i.width
    · have hr := (bound _ _).2 h
      have hc := (bound _ _).2 h'
      simp [h, h', hr, hc]
    · have hr := (bound _ _).2 h
      have hc := mt (bound _ _).1 h'
      simp [h, h', hr, hc]
  · have hr := mt (bound _ _).1 h
    simp [h, hr]

theorem pixel?_paste (i : Image α) (top left : Nat) (tile : Image α) (row column : Nat) :
    (i.paste top left tile).pixel? row column =
      (i.pixel? row column).map fun a => (tile.over? top left row column).getD a := by
  have above : row < top ∨ top + tile.height ≤ row → tile.over? top left row column = none := by
    intro h
    unfold over?
    split
    · exact pixel?_eq_none_iff.2 (.inl (by omega))
    · rfl
  unfold paste
  unfold pixel?
  by_cases h : row < i.height <;> by_cases h' : column < i.width <;> simp [h, h']
  split <;> simp_all

end Image

end Chip8.Picture
