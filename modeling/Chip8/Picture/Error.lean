import Chip8.Text.Choice
import Chip8.Text.Decimal

/-!
# Errors of picture making
-/

namespace Chip8.Picture

open Text

/-- Why there is no picture. -/
inductive PictureError where
  /-- The pixels do not have the shape of a display. -/
  | wrongShape (shape : List Nat)
  /-- A component of a colour does not fit a byte. -/
  | component (value : Int)
  /-- A component of a colour, or a scale, does not even fit a signed word of
  64 bits. -/
  | tooWide (value : Int)
  /-- There is no colour scheme of that name. -/
  | unknownScheme (given : String) (known : List String)
  /-- A sheet of no displays has no columns to share its rows among. -/
  | noDisplays
  /-- A picture would have less than no rows or columns. -/
  | negativeSize
  /-- The height or the width of a sheet does not fit a signed word of 64
  bits. -/
  | wideLength
  /-- The number of bytes of a picture does not fit a signed word of 64 bits. -/
  | tooManyBytes
  /-- The place of a tile on a sheet has another size than the tile; both are
  given as rows and columns. -/
  | misfit (tile place : Nat × Nat)
deriving DecidableEq, Repr

/-- The text of a shape: its lengths in parentheses, a single one with a comma
behind it. -/
def shapeText : List Nat → String
  | [a] => "(" ++ decimal a ++ ",)"
  | shape => "(" ++ ", ".intercalate (shape.map fun (a : Nat) => decimal a) ++ ")"

/-- The text of the shape of a block of pixels with three colours. -/
def blockText (size : Nat × Nat) : String :=
  "(" ++ decimal size.1 ++ "," ++ decimal size.2 ++ ",3)"

/-- The text of an error. -/
def PictureError.message : PictureError → String
  | wrongShape shape => "Expected display shape (64, 32), got " ++ shapeText shape
  | component value => "Color component " ++ decimal value ++ " is not a byte"
  | tooWide value => "Number " ++ decimal value ++ " is not a word of 64 bits"
  | unknownScheme given known =>
    "Unknown color scheme '" ++ given ++ "'. Available: " ++ choices known
  | noDisplays => "division by zero"
  | negativeSize => "negative dimensions are not allowed"
  | wideLength => "Maximum allowed dimension exceeded"
  | tooManyBytes =>
    "array is too big; `arr.size * arr.dtype.itemsize` is larger than the maximum possible size."
  | misfit tile place =>
    "could not broadcast input array from shape " ++ blockText tile ++ " into shape " ++
      blockText place

end Chip8.Picture
