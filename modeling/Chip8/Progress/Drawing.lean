import Chip8.Progress.Face
import Chip8.Progress.Meter

/-!
# Drawing a bar

A bar in sight is drawn when it is opened and when it is closed; a loop is over
too soon for more. Where a bar cannot be drawn, its host gets an error instead
of it (`Meter.run`).
-/

namespace Chip8.Progress

namespace Style

/-- Draws a bar on a line, unless it is not its turn or there is no room. -/
def drawOn (s : Style) (line : Quantity) (notes : Value) (r : Reading) :
    Except BarError Unit := do
  match ← s.place line with
  | .none => return
  | .last => s.goTo line
  | .free => do
    s.goTo line
    (← r.face s).draw s notes
  if s.bytes then throw .bytes

/-- Draws a bar when it is opened. -/
def openBar (s : Style) (line : Quantity) (notes : Value) (r : Reading) :
    Except BarError Unit := do
  if !s.elsewhere then
    if (← s.isPrompt) && !s.yields then s.drawOn line notes r

/-- Draws a bar when it is closed: on the first line, if it stays, and nothing
in its place otherwise. -/
def closeBar (s : Style) (line : Quantity) (notes : Value) (r : Reading) :
    Except BarError Unit := do
  if (← s.isOver) && !s.elsewhere then
    if s.bytes then throw .bytes
    if s.remains line then s.drawOn (.whole 0) notes r
    else if (← s.place line) ≠ .none then s.goTo line

end Style

namespace Meter

variable {α : Type} [Add α] [Sub α] [Count α]

/-- What is known of a bar that was started somewhere. -/
def reading (m : Meter α) (title : String) (start : α) (running : Bool) : Reading :=
  ⟨title, m.total, Count.quantity start, Count.quantity m.position, running⟩

/-- Opens a bar and draws it. -/
def opened (m : Meter α) (title : String) (style : Style) : Except BarError Unit := do
  if m.shown then
    let notes ← noteField style.notes
    style.openBar (← style.lineNumber) notes (m.reading title m.position false)

/-- Closes a bar that was started somewhere and draws it. -/
def closed (m : Meter α) (title : String) (style : Style) (start : α) : Except BarError Unit := do
  if m.shown then
    let notes ← noteField style.notes
    style.closeBar (← style.lineNumber) notes (m.reading title start true)

/-- A bar beside a loop that runs through some rounds and ends: what happens to
it, or the first error. -/
def run (m : Meter α) (title : String) (style : Style) (rounds : List Int) :
    Except BarError (List (Event α)) := do
  m.opened title style
  if rounds.any fun i => m.moves i && !Count.holds α (i + 1) then throw .number
  (rounds.foldl update m).closed title style m.position
  return m.events rounds

end Meter

end Chip8.Progress
