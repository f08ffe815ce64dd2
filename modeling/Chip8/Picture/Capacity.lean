import Chip8.Picture.Error

/-!
# How large a picture may be

The lengths of a block of bytes and the number of its bytes are signed words of
64 bits. Blocks that would be larger are refused before they are made.
-/

namespace Chip8.Picture.Capacity

/-- Whether a length is a signed word of 64 bits. -/
def isWord (n : Int) : Bool := -0x8000000000000000 ≤ n ∧ n < 0x8000000000000000

/-- Why there is no block with these lengths, if so, when the lengths before
them have room for `bytes` bytes. A length of zero does not count. -/
def overflow? (bytes : Int) : List Int → Option PictureError
  | [] => none
  | n :: lengths =>
    if n = 0 then overflow? bytes lengths
    else if n < 0 then some .negativeSize
    else if !isWord (bytes * n) then some .tooManyBytes
    else overflow? (bytes * n) lengths

/-- Why there is no block with these lengths, if so. -/
def refusal? (lengths : List Int) : Option PictureError :=
  if lengths.all isWord then overflow? 1 lengths else some .wideLength

/-- How many bytes a block with these lengths holds. -/
def size (lengths : List Int) : Int := lengths.foldr (· * ·) 1

/-- A number as a signed word of 64 bits, what lies beyond cut off. -/
def wrap (n : Int) : Int := n.bmod 0x10000000000000000

/-- Why a display cannot be enlarged, if so: first its rows are repeated, then
its columns, in blocks of three bytes to the pixel. A length that wraps around can
be that of a small block again, but there is no picture of the length that was
meant, so the bytes of that one are counted too. -/
def enlarging? (scale : Int) : Option PictureError :=
  if scale ≤ 1 then none
  else if !isWord scale then some (.tooWide scale)
  else
    ((overflow? 1 [wrap (32 * scale), 64, 3]).or
      (overflow? 1 [wrap (32 * scale), wrap (64 * scale), 3])).or
      (if isWord (size [32 * scale, 64 * scale, 3]) then none else some .tooManyBytes)

theorem size_pos {lengths : List Int} (h : ∀ n ∈ lengths, 0 < n) : 0 < size lengths := by
  induction lengths with
  | nil => decide
  | cons n lengths ih =>
    exact Int.mul_pos (h n (by simp)) (ih fun k hk => h k (by simp [hk]))

/-- A block that is not empty is refused for the number of its bytes only. -/
theorem overflow?_eq_none {bytes : Int} {lengths : List Int} (hb : 0 < bytes)
    (hl : ∀ n ∈ lengths, 0 < n) (room : bytes * size lengths < 0x8000000000000000) :
    overflow? bytes lengths = none := by
  induction lengths generalizing bytes with
  | nil => rfl
  | cons n lengths ih =>
    have hn : 0 < n := hl n (by simp)
    have rest : ∀ k ∈ lengths, 0 < k := fun k hk => hl k (by simp [hk])
    have hbn : 0 < bytes * n := Int.mul_pos hb hn
    have pos := size_pos rest
    have room : bytes * n * size lengths < 0x8000000000000000 := by
      rw [Int.mul_assoc]
      exact room
    have grows : bytes * n * 1 ≤ bytes * n * size lengths :=
      Int.mul_le_mul_of_nonneg_left pos (by omega)
    have word : isWord (bytes * n) = true := by
      simp only [isWord, decide_eq_true_eq]
      omega
    rw [overflow?, if_neg (by omega), if_neg (by omega), word]
    exact ih hbn rest room

end Chip8.Picture.Capacity
