import Chip8.Picture.Sheet
import Chip8.Proofs.DisplayPicture
import Mathlib.Algebra.BigOperators.Group.Finset.Basic
import Mathlib.Data.Finset.Prod
import Mathlib.Order.Interval.Finset.Nat

/-!
# Where the tiles of a sheet lie

The tiles of a sheet fill a grid row by row. The grid has the fewest columns whose
square has room for all tiles, and then the fewest rows. With a scale above zero and a
gap that is not below, no two tiles share a pixel and none sticks out, so each pixel
of the sheet is either that of one tile or transparent, and the order in which the tiles
are laid down does not matter (`Sheet.tiles_laid_out`).

A tile is told from a pixel in it: along each axis tiles come at a fixed distance, so
the pixel's place divided by this distance is the tile's number on that axis
(`Sheet.Covers.unique`). Laying tiles on a sheet is, for a single pixel, a row of values
of which the last one stays (`Sheet.pixel?_foldl_lay`).
-/

namespace Chip8.Picture

namespace Sheet

/-! ## The grid -/

section Grid

variable {n : Nat}

theorem columns_spec (n : Nat) : n ≤ columns n * columns n ∧ ∀ k, n ≤ k * k → columns n ≤ k := by
  -- the search does not run out, as `n` itself has room enough
  have hexists : ((List.range (n + 1)).find? fun c => n ≤ c * c).isSome := by
    rw [List.find?_isSome]
    exact ⟨n, List.mem_range.mpr (Nat.lt_succ_self n), decide_eq_true (Nat.le_mul_self n)⟩
  obtain ⟨c, hc⟩ := Option.isSome_iff_exists.mp hexists
  have hcolumns : columns n = c := by rw [columns, hc, Option.getD_some]
  obtain ⟨hroom, -, hleast⟩ := List.find?_range_eq_some.mp hc
  rw [hcolumns]
  refine ⟨of_decide_eq_true hroom, fun k hk => Nat.le_of_not_lt fun hlt => ?_⟩
  simpa [hk] using hleast k hlt

theorem columns_pos (hn : 0 < n) : 0 < columns n := by
  refine Nat.pos_of_ne_zero fun hzero => ?_
  have hroom := (columns_spec n).1
  rw [hzero] at hroom
  omega

theorem rows_le_iff (hn : 0 < n) {k : Nat} : rows n ≤ k ↔ n ≤ k * columns n := by
  have hpos := columns_pos hn
  rw [rows, ← Nat.lt_succ_iff, Nat.div_lt_iff_lt_mul hpos, Nat.succ_mul]
  omega

theorem le_rows_mul (hn : 0 < n) : n ≤ rows n * columns n :=
  (rows_le_iff hn).mp (Nat.le_refl _)

theorem div_columns_lt {i : Nat} (hi : i < n) : i / columns n < rows n := by
  have hn : 0 < n := Nat.lt_of_le_of_lt (Nat.zero_le i) hi
  exact (Nat.div_lt_iff_lt_mul (columns_pos hn)).mpr (Nat.lt_of_lt_of_le hi (le_rows_mul hn))

theorem exists_in_row {k : Nat} (hk : k < rows n) (hn : 0 < n) : ∃ i < n, i / columns n = k := by
  refine ⟨k * columns n, ?_, Nat.mul_div_cancel _ (columns_pos hn)⟩
  exact Nat.lt_of_not_le fun hle => Nat.not_le.mpr hk ((rows_le_iff hn).mpr hle)

end Grid

/-! ## The places of tiles -/

/-- The first row of pixels of tile `i`, with `c` tiles to a row. -/
def top (c s g i : Nat) : Nat := i / c * (32 * s + g)

/-- The first column of pixels of tile `i`, with `c` tiles to a row. -/
def left (c s g i : Nat) : Nat := i % c * (64 * s + g)

/-- Whether a pixel of the sheet lies in the place of tile `i`. -/
def Covers (c s g i row column : Nat) : Prop :=
  (top c s g i ≤ row ∧ row < top c s g i + 32 * s) ∧
    (left c s g i ≤ column ∧ column < left c s g i + 64 * s)

instance (c s g i row column : Nat) : Decidable (Covers c s g i row column) :=
  inferInstanceAs (Decidable (_ ∧ _))

/-- The pixels in the place of tile `i`. -/
def place (c s g i : Nat) : Finset (Nat × Nat) :=
  Finset.Ico (top c s g i) (top c s g i + 32 * s) ×ˢ
    Finset.Ico (left c s g i) (left c s g i + 64 * s)

section Places

variable {c s g i j row column : Nat}

theorem mem_place {p : Nat × Nat} : p ∈ place c s g i ↔ Covers c s g i p.1 p.2 := by
  simp only [place, Covers, Finset.mem_product, Finset.mem_Ico]

theorem card_place : (place c s g i).card = 2048 * (s * s) := by
  rw [place, Finset.card_product, Nat.card_Ico, Nat.card_Ico, Nat.add_sub_cancel_left,
    Nat.add_sub_cancel_left]
  ring

/-- The number of a tile along an axis, from a pixel in it. -/
theorem div_pitch {k tile x : Nat} (h : k * (tile + g) ≤ x ∧ x < k * (tile + g) + tile) :
    x / (tile + g) = k := by
  refine Nat.div_eq_of_lt_le h.1 ?_
  rw [Nat.succ_mul]
  omega

theorem Covers.unique (hi : Covers c s g i row column) (hj : Covers c s g j row column) :
    i = j := by
  have hrow : i / c = j / c := (div_pitch hi.1).symm.trans (div_pitch hj.1)
  have hcolumn : i % c = j % c := (div_pitch hi.2).symm.trans (div_pitch hj.2)
  rw [← Nat.div_add_mod i c, ← Nat.div_add_mod j c, hrow, hcolumn]

theorem Covers.exists_offset (h : Covers c s g i row column) :
    ∃ down < 32 * s, ∃ right < 64 * s,
      row = top c s g i + down ∧ column = left c s g i + right := by
  obtain ⟨⟨hrow, hrow'⟩, ⟨hcolumn, hcolumn'⟩⟩ := h
  exact ⟨row - top c s g i, by omega, column - left c s g i, by omega, by omega, by omega⟩

/-- Of `count` tiles along an axis none sticks out. -/
theorem place_le {count k tile : Nat} (hk : k < count) :
    k * (tile + g) + tile ≤ count * tile + (count - 1) * g := by
  obtain ⟨count, rfl⟩ : ∃ m, count = m + 1 := ⟨count - 1, by omega⟩
  have hle : k * (tile + g) ≤ count * (tile + g) := Nat.mul_le_mul_right _ (by omega)
  simp only [Nat.add_sub_cancel, Nat.succ_mul, Nat.mul_add] at hle ⊢
  omega

end Places

/-! ## Sizes -/

section Sizes

variable {n s g : Nat}

/-- How long a row of tiles with gaps between them is. -/
def span (count tile g : Nat) : Nat := count * tile + (count - 1) * g

theorem extent_eq_span {count : Nat} (hcount : 0 < count) (tile : Nat) :
    extent count tile g = span count tile g := by
  obtain ⟨count, rfl⟩ : ∃ m, count = m + 1 := ⟨count - 1, by omega⟩
  rw [extent, span, Nat.add_sub_cancel]
  push_cast
  ring

theorem le_span {count tile : Nat} (hcount : 0 < count) : tile ≤ span count tile g :=
  Nat.le_trans (Nat.le_mul_of_pos_left tile hcount) (Nat.le_add_right _ _)

theorem rows_pos (hn : 0 < n) : 0 < rows n := Nat.zero_lt_of_lt (div_columns_lt hn)

theorem height_eq_span (hn : 0 < n) : height n s g = span (rows n) (32 * s) g :=
  extent_eq_span (rows_pos hn) (32 * s)

theorem width_eq_span (hn : 0 < n) : width n s g = span (columns n) (64 * s) g :=
  extent_eq_span (columns_pos hn) (64 * s)

theorem tile_le_span (hn : 0 < n) :
    32 * s ≤ span (rows n) (32 * s) g ∧ 64 * s ≤ span (columns n) (64 * s) g :=
  ⟨le_span (rows_pos hn), le_span (columns_pos hn)⟩

end Sizes

end Sheet

namespace Capacity

/-- A block that is not empty, and has as many bytes as a word cannot count, is
refused. -/
theorem overflow?_eq_some {bytes : Int} {lengths : List Int}
    (hb : 0 < bytes ∧ bytes < 0x8000000000000000) (hl : ∀ n ∈ lengths, 0 < n)
    (full : 0x8000000000000000 ≤ bytes * size lengths) :
    overflow? bytes lengths = some .tooManyBytes := by
  induction lengths generalizing bytes with
  | nil =>
    rw [size, List.foldr_nil, Int.mul_one] at full
    omega
  | cons n lengths ih =>
    have hn : 0 < n := hl n List.mem_cons_self
    have hbn : 0 < bytes * n := Int.mul_pos hb.1 hn
    rw [overflow?, if_neg (by omega), if_neg (by omega)]
    split
    · rfl
    · rename_i hword
      simp only [isWord, Bool.not_eq_true', decide_eq_false_iff_not, Decidable.not_not] at hword
      refine ih ⟨hbn, hword.2⟩ (fun k hk => hl k (List.mem_cons_of_mem _ hk)) ?_
      rw [Int.mul_assoc]
      exact full

theorem size_sheet (h w : Nat) : size [(h : Int), (w : Int), 4] = (4 * h * w : Nat) := by
  simp only [size, List.foldr]
  push_cast
  ring

variable {h w : Nat}

/-- A sheet that is not empty is refused for the number of its bytes only. -/
theorem refusal?_sheet (hh : 0 < h) (hw : 0 < w) (room : 4 * h * w < 0x8000000000000000) :
    refusal? [(h : Int), (w : Int), 4] = none := by
  have hsize := size_sheet h w
  have hheight : h ≤ 4 * h * w := Nat.le_trans (by omega) (Nat.le_mul_of_pos_right (4 * h) hw)
  have hwidth : w ≤ 4 * h * w := Nat.le_mul_of_pos_left w (by omega)
  have hwords : [(h : Int), (w : Int), 4].all isWord = true := by
    simp only [List.all_cons, List.all_nil, isWord, Bool.and_true, Bool.and_eq_true,
      decide_eq_true_eq]
    omega
  rw [refusal?, if_pos hwords]
  exact overflow?_eq_none (by decide) (by simp; omega) (by omega)

theorem refusal?_large_sheet (hh : 0 < h) (hw : 0 < w)
    (full : 0x8000000000000000 ≤ 4 * h * w) :
    refusal? [(h : Int), (w : Int), 4] = some .wideLength ∨
      refusal? [(h : Int), (w : Int), 4] = some .tooManyBytes := by
  have hsize := size_sheet h w
  rw [refusal?]
  split
  · exact .inr (overflow?_eq_some (by decide) (by simp; omega) (by omega))
  · exact .inl rfl

end Capacity

namespace Sheet

section Refusal

variable {n s g : Nat}

/-- Behind the check of its size nothing stands in the way of a sheet. -/
theorem refusal?_eq (hn : 0 < n) (hs : 0 < s) :
    refusal? n s g =
      (Capacity.refusal? [(span (rows n) (32 * s) g : Int), (span (columns n) (64 * s) g : Int),
        4]).or (Capacity.enlarging? s) := by
  obtain ⟨hrow, hcolumn⟩ := tile_le_span (s := s) (g := g) hn
  have hfits : misfit? n s g = none := by
    have hplace : firstPlace n s g = tileSize s := by
      rw [firstPlace, tileSize, height_eq_span hn, width_eq_span hn, before, before,
        if_neg (by omega), if_neg (by omega)]
      refine Prod.ext ?_ ?_ <;> simp only <;> omega
    rw [misfit?, if_pos hplace]
  rw [refusal?, if_neg (by omega), height_eq_span hn, width_eq_span hn, hfits, Option.or_none]

/-- If the bytes of a sheet can be counted, so can those of a tile. -/
theorem enlarging?_eq_none (hn : 0 < n) (hs : 0 < s)
    (room : 4 * span (rows n) (32 * s) g * span (columns n) (64 * s) g < 0x8000000000000000) :
    Capacity.enlarging? s = none := by
  obtain ⟨hrow, hcolumn⟩ := tile_le_span (s := s) (g := g) hn
  have htile : 3 * (32 * s) * (64 * s) ≤
      4 * span (rows n) (32 * s) g * span (columns n) (64 * s) g :=
    Nat.mul_le_mul (Nat.mul_le_mul (by decide) hrow) hcolumn
  exact (Capacity.enlarging?_eq_none_iff (s := s) (by omega)).mpr (by omega)

theorem refusal?_eq_none (hn : 0 < n) (hs : 0 < s)
    (room : 4 * span (rows n) (32 * s) g * span (columns n) (64 * s) g < 0x8000000000000000) :
    refusal? n s g = none := by
  obtain ⟨hrow, hcolumn⟩ := tile_le_span (s := s) (g := g) hn
  rw [refusal?_eq hn hs, Capacity.refusal?_sheet (by omega) (by omega) room,
    enlarging?_eq_none hn hs room]
  rfl

theorem refusal?_of_large (hn : 0 < n) (hs : 0 < s)
    (full : 0x8000000000000000 ≤ 4 * span (rows n) (32 * s) g * span (columns n) (64 * s) g) :
    refusal? n s g = some .wideLength ∨ refusal? n s g = some .tooManyBytes := by
  obtain ⟨hrow, hcolumn⟩ := tile_le_span (s := s) (g := g) hn
  rw [refusal?_eq hn hs]
  rcases Capacity.refusal?_large_sheet (by omega) (by omega) full with h | h
  · rw [h]
    exact .inl rfl
  · rw [h]
    exact .inr rfl

end Refusal

/-! ## Tiles laid on a sheet -/

section Lay

variable {c s g : Nat} {scheme : Scheme} {sheet : Image Rgba} {tiles : List (Display × Nat)}
  {row column : Nat}

/-- What a tile shows of itself over a pixel of the sheet. -/
def shown? (c s g : Nat) (scheme : Scheme) (row column : Nat) (tile : Display × Nat) :
    Option Rgba :=
  ((tile.1.image s scheme.on scheme.off).map Rgb.solid).over? (top c s g tile.2) (left c s g tile.2)
    row column

theorem toNat_start (k tile : Nat) : (start k tile g).toNat = k * (tile + g) := by
  have hcast : start k tile g = (k * (tile + g) : Nat) := by
    rw [start]
    push_cast
    rfl
  rw [hcast, Int.toNat_natCast]

theorem pixel?_lay (tile : Display × Nat) :
    (lay c s g scheme sheet tile).pixel? row column =
      (sheet.pixel? row column).map fun a => (shown? c s g scheme row column tile).getD a := by
  have htop : (start (tile.2 / c) (32 * s) g).toNat = top c s g tile.2 := toNat_start _ (32 * s)
  have hleft : (start (tile.2 % c) (64 * s) g).toNat = left c s g tile.2 := toNat_start _ (64 * s)
  rw [lay, Image.pixel?_paste, htop, hleft]
  rfl

/-- Of the tiles laid over a pixel the last one shows. -/
theorem pixel?_foldl_lay :
    (tiles.foldl (lay c s g scheme) sheet).pixel? row column =
      (sheet.pixel? row column).map fun a =>
        tiles.foldl (fun a tile => (shown? c s g scheme row column tile).getD a) a := by
  induction tiles generalizing sheet with
  | nil => simp
  | cons tile rest ih => rw [List.foldl_cons, ih, pixel?_lay, Option.map_map]; rfl

theorem size_foldl_lay : (tiles.foldl (lay c s g scheme) sheet).height = sheet.height ∧
    (tiles.foldl (lay c s g scheme) sheet).width = sheet.width := by
  induction tiles generalizing sheet with
  | nil => exact ⟨rfl, rfl⟩
  | cons tile rest ih => exact ih

/-- A picture has as many rows and columns for a pixel of the display as its scale says. -/
theorem size_image (hs : 0 < s) (d : Display) (on off : Rgb) :
    (d.image s on off).height = 32 * s ∧ (d.image s on off).width = 64 * s := by
  have hscale : (max 1 (s : Int)).toNat = s := by omega
  show 32 * (max 1 (s : Int)).toNat = _ ∧ 64 * (max 1 (s : Int)).toNat = _
  rw [hscale]
  exact ⟨rfl, rfl⟩

theorem pixel?_image_isSome (hs : 0 < s) (d : Display) (on off : Rgb) (hrow : row < 32 * s)
    (hcolumn : column < 64 * s) : ((d.image s on off).pixel? row column).isSome := by
  obtain ⟨hheight, hwidth⟩ := size_image hs d on off
  rw [Option.isSome_iff_ne_none, Ne, Image.pixel?_eq_none_iff]
  omega

/-- A tile shows nothing of itself outside its place. -/
theorem shown?_of_not_covers {tile : Display × Nat} (hs : 0 < s)
    (h : ¬ Covers c s g tile.2 row column) : shown? c s g scheme row column tile = none := by
  obtain ⟨hheight, hwidth⟩ := size_image hs tile.1 scheme.on scheme.off
  rw [shown?, Image.over?]
  split
  · rw [Image.pixel?_map, Option.map_eq_none_iff, Image.pixel?_eq_none_iff]
    simp only [Covers] at h
    omega
  · rfl

/-- Inside its place a tile shows the pixel at the same offset of its picture. -/
theorem shown?_of_offset {tile : Display × Nat} {p : Rgb}
    (h : (tile.1.image s scheme.on scheme.off).pixel? row column = some p) :
    shown? c s g scheme (top c s g tile.2 + row) (left c s g tile.2 + column) tile =
      some p.solid := by
  rw [shown?, Image.over?, if_pos ⟨Nat.le_add_right _ _, Nat.le_add_right _ _⟩,
    Nat.add_sub_cancel_left, Nat.add_sub_cancel_left, Image.pixel?_map, h]
  rfl

end Lay

section Last

variable {α β : Type} {f : β → Option α} {l : List β} {a b : α} {t : β}

/-- Values that are all missing leave the first one. -/
theorem foldl_getD_of_none (h : ∀ u ∈ l, f u = none) :
    l.foldl (fun a u => (f u).getD a) a = a := by
  induction l with
  | nil => rfl
  | cons u rest ih =>
    rw [List.foldl_cons, h u List.mem_cons_self, Option.getD_none]
    exact ih fun w hw => h w (List.mem_cons_of_mem _ hw)

/-- Of values of which only one is there, this one stays. -/
theorem foldl_getD_of_unique (ht : t ∈ l) (hf : f t = some b) (h : ∀ u ∈ l, u ≠ t → f u = none) :
    l.foldl (fun a u => (f u).getD a) a = b := by
  induction l generalizing a with
  | nil => cases ht
  | cons u rest ih =>
    rw [List.foldl_cons]
    have hothers : ∀ w ∈ rest, w ≠ t → f w = none := fun w hw => h w (List.mem_cons_of_mem _ hw)
    by_cases hrest : t ∈ rest
    · exact ih hrest hothers
    · obtain rfl : t = u := (List.mem_cons.mp ht).resolve_right hrest
      rw [hf, Option.getD_some]
      exact foldl_getD_of_none fun w hw => hothers w hw fun heq => hrest (heq ▸ hw)

end Last

/-! ## The whole sheet -/

section Compose

variable {displays : List Display} {d : Display} {s g i row column : Nat} {scheme : Scheme}

theorem size_compose (scheme : Scheme) (hn : 0 < displays.length) :
    (compose displays s g scheme).height = span (rows displays.length) (32 * s) g ∧
      (compose displays s g scheme).width = span (columns displays.length) (64 * s) g := by
  rw [compose, size_foldl_lay.1, size_foldl_lay.2, Image.fill, height_eq_span hn, width_eq_span hn]
  exact ⟨Int.toNat_natCast _, Int.toNat_natCast _⟩

theorem pixel?_compose (hn : 0 < displays.length)
    (hrow : row < span (rows displays.length) (32 * s) g)
    (hcolumn : column < span (columns displays.length) (64 * s) g) :
    (compose displays s g scheme).pixel? row column =
      some (displays.zipIdx.foldl (fun a tile =>
        (shown? (columns displays.length) s g scheme row column tile).getD a) .transparent) := by
  rw [compose, pixel?_foldl_lay, Image.pixel?_fill, height_eq_span hn, width_eq_span hn,
    Int.toNat_natCast, Int.toNat_natCast, if_pos ⟨hrow, hcolumn⟩, Option.map_some]

theorem pixel?_compose_of_gap (hs : 0 < s)
    (hrow : row < span (rows displays.length) (32 * s) g)
    (hcolumn : column < span (columns displays.length) (64 * s) g)
    (hgap : ∀ i < displays.length, ¬ Covers (columns displays.length) s g i row column)
    (hn : 0 < displays.length) :
    (compose displays s g scheme).pixel? row column = some .transparent := by
  rw [pixel?_compose hn hrow hcolumn, foldl_getD_of_none]
  intro tile htile
  have hmem := List.mem_zipIdx_iff_getElem?.mp htile
  obtain ⟨hi, -⟩ := List.getElem?_eq_some_iff.mp hmem
  exact shown?_of_not_covers hs (hgap tile.2 hi)

theorem covers_offset (c s g i : Nat) (hrow : row < 32 * s) (hcolumn : column < 64 * s) :
    Covers c s g i (top c s g i + row) (left c s g i + column) :=
  ⟨⟨Nat.le_add_right _ _, Nat.add_lt_add_left hrow _⟩,
    ⟨Nat.le_add_right _ _, Nat.add_lt_add_left hcolumn _⟩⟩

theorem place_le_span (hi : i < displays.length) :
    top (columns displays.length) s g i + 32 * s ≤ span (rows displays.length) (32 * s) g ∧
      left (columns displays.length) s g i + 64 * s ≤ span (columns displays.length) (64 * s) g :=
  ⟨place_le (div_columns_lt hi),
    place_le (Nat.mod_lt i (columns_pos (Nat.lt_of_le_of_lt (Nat.zero_le i) hi)))⟩

/-- A pixel in the place of a tile is that of its picture. -/
theorem pixel?_compose_of_covers (hs : 0 < s) {p : Rgb} (hd : displays[i]? = some d)
    (hrow : row < 32 * s) (hcolumn : column < 64 * s)
    (hp : (d.image s scheme.on scheme.off).pixel? row column = some p) :
    (compose displays s g scheme).pixel? (top (columns displays.length) s g i + row)
      (left (columns displays.length) s g i + column) = some p.solid := by
  obtain ⟨hi, -⟩ := List.getElem?_eq_some_iff.mp hd
  obtain ⟨hinside, hinside'⟩ := place_le_span (s := s) (g := g) hi
  have hcovers := covers_offset (columns displays.length) s g i hrow hcolumn
  have hmem : (d, i) ∈ displays.zipIdx := List.mk_mem_zipIdx_iff_getElem?.mpr hd
  rw [pixel?_compose (Nat.lt_of_le_of_lt (Nat.zero_le i) hi) (by omega) (by omega),
    foldl_getD_of_unique hmem (shown?_of_offset hp) fun tile htile hne => ?_]
  -- another tile over the same pixel would have the same number, and so be this one
  refine shown?_of_not_covers hs fun hother => hne ?_
  have hnumber : tile.2 = i := hother.unique hcovers
  have hmem' := List.mem_zipIdx_iff_getElem?.mp htile
  rw [hnumber, hd] at hmem'
  exact Prod.ext (Option.some.inj hmem').symm hnumber

/-- The pixels of a sheet that hide what lies below them. -/
def solidPixels (sheet : Image Rgba) : Finset (Nat × Nat) :=
  (Finset.range sheet.height ×ˢ Finset.range sheet.width).filter fun p =>
    (sheet.pixel? p.1 p.2).any fun a => a.alpha == 255

/-- The pixels that hide what lies below are those in the places of tiles. -/
theorem solidPixels_compose (hs : 0 < s) (hn : 0 < displays.length) :
    solidPixels (compose displays s g scheme) =
      (Finset.range displays.length).biUnion (place (columns displays.length) s g) := by
  obtain ⟨hheight, hwidth⟩ := size_compose (s := s) (g := g) scheme hn
  ext ⟨row, column⟩
  simp only [solidPixels, Finset.mem_filter, Finset.mem_product, Finset.mem_range,
    Finset.mem_biUnion, mem_place, hheight, hwidth]
  constructor
  · rintro ⟨⟨hrow, hcolumn⟩, hsolid⟩
    by_contra hgap
    rw [pixel?_compose_of_gap hs hrow hcolumn (fun i hi hc => hgap ⟨i, hi, hc⟩) hn] at hsolid
    cases hsolid
  · rintro ⟨i, hi, hcovers⟩
    obtain ⟨down, hdown, right, hright, rfl, rfl⟩ := hcovers.exists_offset
    obtain ⟨hinside, hinside'⟩ := place_le_span (s := s) (g := g) hi
    obtain ⟨p, hp⟩ := Option.isSome_iff_exists.mp
      (pixel?_image_isSome hs displays[i] scheme.on scheme.off hdown hright)
    refine ⟨⟨by omega, by omega⟩, ?_⟩
    rw [pixel?_compose_of_covers hs (List.getElem?_eq_getElem hi) hdown hright hp]
    rfl

/-- Of a tile no pixel is lost to another. -/
theorem card_solidPixels (hs : 0 < s) (hn : 0 < displays.length) :
    (solidPixels (compose displays s g scheme)).card = displays.length * (2048 * (s * s)) := by
  rw [solidPixels_compose hs hn, Finset.card_biUnion]
  -- as many for each tile, and no pixel counted twice
  · rw [Finset.sum_const_nat fun i _ => card_place, Finset.card_range]
  · intro i _ j _ hne
    refine Finset.disjoint_left.mpr fun p hi hj => hne ?_
    exact (mem_place.mp hi).unique (mem_place.mp hj)

end Compose

/-! ## The sheet that is handed over -/

section Render

variable {displays : List Display} {d : Display} {n s g : Nat} {scheme : Scheme}
  {image : Image Rgba}

theorem render_of_refusal?_eq_some {e : PictureError} (h : refusal? displays.length s g = some e) :
    render displays s scheme.name g = .error e := by
  rw [render, Scheme.ofName_name]
  simp only [h]

theorem render_of_refusal?_eq_none (h : refusal? displays.length s g = none) :
    render displays s scheme.name g = .ok (compose displays s g scheme) := by
  rw [render, Scheme.ofName_name]
  simp only [h]

theorem render_of_large (scheme : Scheme) (hn : 0 < displays.length) (hs : 0 < s)
    (full : 0x8000000000000000 ≤
      4 * span (rows displays.length) (32 * s) g * span (columns displays.length) (64 * s) g) :
    render displays s scheme.name g = .error .wideLength ∨
      render displays s scheme.name g = .error .tooManyBytes := by
  rcases refusal?_of_large hn hs full with hrefused | hrefused
  · exact .inl (render_of_refusal?_eq_some hrefused)
  · exact .inr (render_of_refusal?_eq_some hrefused)

/-- A sheet that is made is the composed one, and its bytes could be counted. -/
theorem eq_compose_of_render (hn : 0 < displays.length) (hs : 0 < s)
    (h : render displays s scheme.name g = .ok image) :
    image = compose displays s g scheme ∧
      4 * span (rows displays.length) (32 * s) g * span (columns displays.length) (64 * s) g <
        0x8000000000000000 := by
  -- a larger sheet would have been refused
  have room := Nat.lt_of_not_le fun full => by
    rcases render_of_large scheme hn hs full with hrefused | hrefused <;>
      cases h.symm.trans hrefused
  rw [render_of_refusal?_eq_none (refusal?_eq_none hn hs room)] at h
  exact ⟨(Except.ok.inj h).symm, room⟩

/-- The picture of a display that has a tile on a sheet. -/
theorem render_tile (hn : 0 < n) (hs : 0 < s)
    (room : 4 * span (rows n) (32 * s) g * span (columns n) (64 * s) g < 0x8000000000000000) :
    Picture.render (.ofDisplay d) s scheme.on.toColor scheme.off.toColor =
      .ok (d.image s scheme.on scheme.off) := by
  rw [Picture.render, Bitmap.toDisplay_ofDisplay, Rgb.toRgb_toColor, Rgb.toRgb_toColor,
    enlarging?_eq_none hn hs room]
  rfl

end Render

/-- **The layout of a sheet.** The tiles of `n` displays lie in a grid of `c` columns and
`r` rows, which is no wider and no higher than it has to be and has no empty row. They
lie inside the sheet and apart from each other. A sheet of less than `2 ^ 63` bytes is
made, a larger one is refused. On a sheet that is made each tile has the pixels of its
display's picture at the same offsets, without holes, and all that is not in a tile is
transparent; no tile loses a pixel. -/
theorem tiles_laid_out (displays : List Display) (scheme : Scheme) (s g : Nat)
    (hdisplays : displays ≠ []) (hs : 0 < s) :
    let n := displays.length
    let c := columns n
    let r := rows n
    let height := r * (32 * s) + (r - 1) * g
    let width := c * (64 * s) + (c - 1) * g
    (n ≤ c * c ∧ ∀ k, n ≤ k * k → c ≤ k) ∧
    (n ≤ r * c ∧ ∀ k, n ≤ k * c → r ≤ k) ∧
    (∀ k < r, ∃ i < n, i / c = k) ∧
    (∀ i < n, top c s g i + 32 * s ≤ height ∧ left c s g i + 64 * s ≤ width) ∧
    (∀ i < n, ∀ j < n, i ≠ j → ∀ row column,
      ¬ (Covers c s g i row column ∧ Covers c s g j row column)) ∧
    (4 * height * width < 0x8000000000000000 →
      ∃ image, render displays s scheme.name g = .ok image) ∧
    (0x8000000000000000 ≤ 4 * height * width →
      render displays s scheme.name g = .error .wideLength ∨
        render displays s scheme.name g = .error .tooManyBytes) ∧
    ∀ image, render displays s scheme.name g = .ok image →
      image.height = height ∧ image.width = width ∧
      (∀ i d, displays[i]? = some d →
        ∃ tile,
          Picture.render (.ofDisplay d) s scheme.on.toColor scheme.off.toColor = .ok tile ∧
          ∀ row < 32 * s, ∀ column < 64 * s, ∃ p, tile.pixel? row column = some p ∧
            image.pixel? (top c s g i + row) (left c s g i + column) = some p.solid) ∧
      (∀ row < height, ∀ column < width, (∀ i < n, ¬ Covers c s g i row column) →
        image.pixel? row column = some .transparent) ∧
      (solidPixels image).card = n * (2048 * (s * s)) := by
  intro n c r height width
  have hn : 0 < n := List.length_pos_iff.mpr hdisplays
  refine ⟨columns_spec n, ⟨le_rows_mul hn, fun k hk => (rows_le_iff hn).mpr hk⟩,
    fun k hk => exists_in_row hk hn, fun i hi => place_le_span hi,
    fun i _ j _ hne row column h => hne (h.1.unique h.2),
    fun room => ⟨_, render_of_refusal?_eq_none (refusal?_eq_none hn hs room)⟩,
    render_of_large scheme hn hs, ?_⟩
  intro image h
  obtain ⟨rfl, room⟩ := eq_compose_of_render hn hs h
  refine ⟨(size_compose scheme hn).1, (size_compose scheme hn).2, fun i d hd => ?_, ?_,
    card_solidPixels hs hn⟩
  · refine ⟨_, render_tile hn hs room, fun row hrow column hcolumn => ?_⟩
    obtain ⟨p, hp⟩ := Option.isSome_iff_exists.mp
      (pixel?_image_isSome hs d scheme.on scheme.off hrow hcolumn)
    exact ⟨p, hp, pixel?_compose_of_covers hs hd hrow hcolumn hp⟩
  · intro row hrow column hcolumn hgap
    exact pixel?_compose_of_gap hs hrow hcolumn hgap hn

/-- Three displays with a gap of two make two rows of two places, the last of them empty.
The corner of the third tile shows the lit corner of its display. -/
theorem tiles_laid_out_three :
    let corner : Display := .ofFn fun x y => x = 0 && y = 0
    [.dark, .dark, corner] ≠ ([] : List Display) ∧ 0 < 1 ∧
    ∃ image, render [.dark, .dark, corner] 1 "amber" 2 = .ok image ∧
      image.height = 66 ∧ image.width = 130 ∧
      image.pixel? 34 0 = some (Rgb.solid ⟨255, 176, 0⟩) ∧
      image.pixel? 34 66 = some .transparent ∧
      (solidPixels image).card = 6144 := by
  intro corner
  have hdisplays : [.dark, .dark, corner] ≠ ([] : List Display) := by simp
  have hcolumns : columns [.dark, .dark, corner].length = 2 := by decide
  have hrows : rows [.dark, .dark, corner].length = 2 := by decide
  obtain ⟨-, -, -, -, -, hmade, -, hlaw⟩ :=
    tiles_laid_out [.dark, .dark, corner] .amber 1 2 hdisplays (by decide)
  rw [hcolumns, hrows] at hmade hlaw
  obtain ⟨image, h⟩ := hmade (by decide)
  obtain ⟨hheight, hwidth, htile, hgap, hcount⟩ := hlaw image h
  obtain ⟨tile, hpicture, hpixels⟩ := htile 2 corner rfl
  obtain ⟨p, hp, hshown⟩ := hpixels 0 (by decide) 0 (by decide)
  have hcorner : p = ⟨255, 176, 0⟩ := by
    obtain rfl : corner.image 1 Scheme.amber.on Scheme.amber.off = tile :=
      Except.ok.inj ((render_tile (s := 1) (g := 2) (n := 3) (by decide) (by decide)
        (by decide)).symm.trans hpicture)
    rw [Display.pixel?_image] at hp
    simpa [corner, Scheme.on] using hp.symm
  rw [hcorner] at hshown
  exact ⟨hdisplays, by decide, image, h, hheight, hwidth, hshown,
    hgap 34 (by decide) 66 (by decide) (by decide), hcount.trans (by decide)⟩

/-- Two displays are refused when the gap between them is to be `2 ^ 63` wide. -/
theorem render_refuses_gap :
    render [.dark, .dark] 1 "classic" 0x8000000000000000 = .error .wideLength :=
  rfl

end Sheet

end Chip8.Picture
