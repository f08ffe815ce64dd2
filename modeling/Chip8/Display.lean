/-!
# The display

A picture of 64 columns and 32 rows, each pixel lit or dark. The column comes
first in an address, counted from the left, then the row, counted from the
top. `lit` is the view: displays that agree on it are equal (`ext_lit`), and each
operation is described by what is lit in its result. The operations themselves
are sealed, so that a comparison of states never unfolds 2048 pixels.
-/

namespace Chip8

/-- A picture, row by row. -/
structure Display where
  rows : Vector (Vector Bool 64) 32
deriving DecidableEq

namespace Display

/-- Whether a pixel is lit. -/
def lit (d : Display) (x : Fin 64) (y : Fin 32) : Bool := d.rows[y][x]

/-- The picture whose pixels are given by a function. -/
@[irreducible] def ofFn (f : Fin 64 → Fin 32 → Bool) : Display :=
  ⟨Vector.ofFn fun y => Vector.ofFn fun x => f x y⟩

/-- The dark picture. -/
def dark : Display := ofFn fun _ _ => false

/-- Flips in `d` every pixel that is lit in `e`. -/
@[irreducible] def xor (d e : Display) : Display :=
  ofFn fun x y => d.lit x y != e.lit x y

/-- Whether some pixel is lit in both pictures. -/
@[irreducible] def meets (d e : Display) : Bool :=
  (List.finRange 32).any fun y => (List.finRange 64).any fun x => d.lit x y && e.lit x y

@[simp] theorem lit_ofFn (f : Fin 64 → Fin 32 → Bool) (x : Fin 64) (y : Fin 32) :
    (ofFn f).lit x y = f x y := by
  simp [lit, ofFn]

theorem ext_lit {d e : Display} (h : ∀ x y, d.lit x y = e.lit x y) : d = e := by
  obtain ⟨rows⟩ := d
  obtain ⟨rows'⟩ := e
  congr
  ext y hy x hx
  exact h ⟨x, hx⟩ ⟨y, hy⟩

@[simp] theorem lit_dark (x : Fin 64) (y : Fin 32) : dark.lit x y = false := by
  simp [dark]

@[simp] theorem lit_xor (d e : Display) (x : Fin 64) (y : Fin 32) :
    (d.xor e).lit x y = (d.lit x y != e.lit x y) := by
  simp [xor]

theorem meets_iff {d e : Display} : d.meets e ↔ ∃ x y, d.lit x y ∧ e.lit x y := by
  simp only [meets, List.any_eq_true, List.mem_finRange, true_and, Bool.and_eq_true]
  exact ⟨fun ⟨y, x, h⟩ => ⟨x, y, h⟩, fun ⟨x, y, h⟩ => ⟨y, x, h⟩⟩

end Display

end Chip8
