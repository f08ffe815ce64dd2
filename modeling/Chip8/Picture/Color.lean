import Chip8.Picture.Error

/-!
# Colours

A host gives a colour as three integers, which are checked before they become
the bytes of a pixel. Four pairs of colours have names.
-/

namespace Chip8.Picture

/-- A colour as a host gives it. -/
structure Color where
  red : Int
  green : Int
  blue : Int
deriving DecidableEq, Repr

/-- A pixel of an opaque picture. -/
structure Rgb where
  red : UInt8
  green : UInt8
  blue : UInt8
deriving DecidableEq, Repr, Inhabited

/-- A pixel of a picture that may be transparent. -/
structure Rgba where
  red : UInt8
  green : UInt8
  blue : UInt8
  alpha : UInt8
deriving DecidableEq, Repr, Inhabited

/-- The pixel of the same colour that hides what lies below it. -/
def Rgb.solid (c : Rgb) : Rgba := ⟨c.red, c.green, c.blue, 255⟩

/-- The pixel that shows nothing. -/
def Rgba.transparent : Rgba := ⟨0, 0, 0, 0⟩

/-- A component as a byte. It is read as a signed word of 64 bits first, so one
that is not even that is an error of its own. -/
def component (value : Int) : Except PictureError UInt8 :=
  if 0 ≤ value ∧ value ≤ 255 then .ok (UInt8.ofNat value.toNat)
  else if -0x8000000000000000 ≤ value ∧ value < 0x8000000000000000 then .error (.component value)
  else .error (.tooWide value)

/-- A colour as a pixel; the first component that is no byte is the error. -/
def Color.toRgb (c : Color) : Except PictureError Rgb := do
  let red ← component c.red
  let green ← component c.green
  let blue ← component c.blue
  return ⟨red, green, blue⟩

/-- A pixel as a colour. -/
def Rgb.toColor (c : Rgb) : Color := ⟨c.red.toNat, c.green.toNat, c.blue.toNat⟩

theorem Rgb.toRgb_toColor (c : Rgb) : c.toColor.toRgb = .ok c := by
  have byte (b : UInt8) : component b.toNat = .ok b := by
    have := b.toNat_lt
    simp [component]
    omega
  simp [Color.toRgb, toColor, byte, bind, Except.bind, pure, Except.pure]

/-- The colours of lit and dark pixels under a name. -/
inductive Scheme where
  | classic | amber | white | blue
deriving DecidableEq, Repr

namespace Scheme

/-- All schemes. -/
def all : List Scheme := [classic, amber, white, blue]

/-- The scheme in use unless the host asks for another. -/
def default : Scheme := classic

/-- The name of a scheme. -/
def name : Scheme → String
  | classic => "classic"
  | amber => "amber"
  | white => "white"
  | blue => "blue"

/-- The colour of lit pixels. -/
def on : Scheme → Rgb
  | classic => ⟨0, 255, 0⟩
  | amber => ⟨255, 176, 0⟩
  | white => ⟨255, 255, 255⟩
  | blue => ⟨0, 255, 255⟩

/-- The colour of dark pixels. -/
def off : Scheme → Rgb
  | blue => ⟨0, 0, 64⟩
  | _ => ⟨0, 0, 0⟩

/-- The scheme of a name. -/
def ofName (name : String) : Except PictureError Scheme :=
  match all.find? (·.name = name) with
  | some scheme => .ok scheme
  | none => .error (.unknownScheme name (all.map Scheme.name))

theorem ofName_name (s : Scheme) : ofName s.name = .ok s := by
  cases s <;> rfl

end Scheme

end Chip8.Picture
