import Chip8.Progress.Opening
import Chip8.Progress.Style

/-!
# The face of a bar

What a bar shows when it is drawn: how many rounds are done and how many there
are, the pace, and the time that the others will take. A loop is over in next to
no time; how long it takes is not known, and only whether a pace is nothing,
finite or infinite ever decides anything (`elapsed`).

Whole numbers of rounds have a finite pace and take a finite time, so all that
can go wrong with them is that one of them is too large for a double.
-/

namespace Chip8.Progress

/-- What is known of a bar when it is drawn. -/
structure Reading where
  title : String
  total : Int
  start : Quantity
  position : Quantity
  /-- Whether the loop has run. -/
  running : Bool

/-- The face of a bar. -/
structure Face where
  title : String
  position : Quantity
  positionText : String
  /-- The number of rounds, unless the bar has passed it. -/
  total : Option Quantity
  totalText : String
  seconds : Quantity
  /-- The rounds in a second. -/
  pace : Option Float
  /-- The seconds that the other rounds will take. -/
  left : Quantity
  leftText : String
  /-- The share of the rounds that are done. -/
  share : Option Float

/-- How many loops are over in a second. -/
def perSecond : Nat := 10000

/-- The seconds that a loop takes. -/
def elapsed : Float := 1 / Float.ofNat perSecond

namespace Style

/-- Whether numbers are written short. -/
def isShort (s : Style) : Bool :=
  match Quantity.ofValue? s.scale with
  | some (.whole n) => n = 1
  | some (.real x) => x == 1
  | none => false

/-- What numbers are multiplied by, if not written short. -/
def factor? (s : Style) : Option Quantity :=
  if s.isShort then none else (Quantity.ofValue? s.scale).filter fun q => !q.isZero

end Style

/-- A number in the largest of some units that it has one of, with three digits.
-/
def shortText (divisor : Value) : List String → Quantity → Except BarError String
  | [], q => .ok (q.placed 3 1 ++ "Y")
  | unit :: units, q =>
    if q.sizeBelow 9.995 then .ok (q.placed 1 2 ++ unit)
    else if q.sizeBelow 99.95 then .ok (q.placed 2 1 ++ unit)
    else if q.sizeBelow 999.5 then .ok (q.placed 3 0 ++ unit)
    else
      match Quantity.ofValue? divisor with
      | some d => do shortText divisor units (.real (← q.div d))
      | none => .error (.operands "/=" q.value.kind divisor.kind)

/-- The units of short numbers, each a thousand of the one before. -/
def units : List String := ["", "k", "M", "G", "T", "P", "E", "Z"]

/-- The least number with too many digits to be written. -/
def digitLimit : Nat := Nat.pow 10 4300

/-- A number in the style of a bar. -/
def Style.numberText (s : Style) (q : Quantity) : Except BarError String :=
  if s.isShort then shortText s.divisor units q
  else
    match q with
    | .whole n => if n.natAbs < digitLimit then .ok (Text.decimal n) else .error .digits
    | .real x => .ok (Text.shortest x)

/-- A number of seconds as minutes and seconds, behind the hours if there are
any. -/
def timeText (seconds : Int) : String :=
  let n := seconds.natAbs
  let two (n : Nat) : List Char := (Nat.toDigits 10 n).leftpad 2 '0'
  let minutes := two (n / 60 % 60) ++ ':' :: two (n % 60)
  let hours := if n / 3600 = 0 then [] else Nat.toDigits 10 (n / 3600) ++ [':']
  String.ofList (Text.signed (seconds < 0) (hours ++ minutes))

/-- The seconds that the rounds to come take at the pace of those that are done,
and how many of them are whole. -/
def timeFor (left done : Quantity) : Except BarError (Quantity × Int) :=
  match left, done with
  | .whole l, .whole d =>
    if fitsDouble l then .ok (.real (nearest l (d * perSecond)), l.tdiv (d * perSecond))
    else .error .number
  | left, done => do
    let seconds := (← left.toFloat) / ((← done.toFloat) / elapsed)
    return (.real seconds, ← checkWhole seconds)

namespace Reading

/-- The number of rounds, unless the bar has passed it by half a round or more;
a number of none cannot be passed. -/
def total? (r : Reading) : Except BarError (Option Quantity) :=
  if r.total = 0 then .ok (some (.whole 0))
  else do
    let total ← (Quantity.whole r.total).toFloat
    return if r.position.atLeast (.real (total + 0.5)) then none else some (.whole r.total)

/-- The rounds done in the loop. They are divided by a time, for which they have
to have a place among the doubles. -/
def done (r : Reading) (position : Quantity) : Except BarError Quantity :=
  if r.running then do
    let done ← position.sub r.start
    if done.fits then return done else throw .number
  else .ok (.whole 0)

/-- The rounds in a second. -/
def pace (r : Reading) (done : Quantity) : Option Float :=
  if r.running then done.toFloat.toOption.map (· / elapsed) else none

/-- The share of the rounds that are done, if there are rounds. -/
def share? (position : Quantity) (total : Option Quantity) : Except BarError (Option Float) :=
  match total with
  | none => .ok none
  | some total => if total.isZero then .ok none else (position.div total).map some

/-- The time that the other rounds take, and its text, if any have been done. -/
def left (done position : Quantity) (total : Option Quantity) :
    Except BarError (Quantity × String) :=
  if done.isZero then .ok (.whole 0, "?")
  else
    match total.filter fun total => !total.isZero with
    | none => .ok (.whole 0, timeText 0)
    | some total => do
      let (left, seconds) ← timeFor (← total.sub position) done
      return (left, timeText seconds)

/-- What a bar shows in a style. -/
def face (r : Reading) (s : Style) : Except BarError Face := do
  if !r.running && (Quantity.ofValue? s.smoothing).isNone then
    throw (.operands "-" "int" s.smoothing.kind)
  let total ← r.total?
  let (total, position) ←
    match s.factor? with
    | none => pure (total, r.position)
    | some factor => do
      let total ← total.mapM fun total => if total.isZero then pure total else total.mul factor
      pure (total, ← r.position.mul factor)
  let done ← r.done position
  let positionText ← s.numberText position
  let totalText ← (total.mapM s.numberText).map (·.getD "?")
  let (left, leftText) ← left done position total
  return {
    title := r.title
    position, positionText, total, totalText
    seconds := if r.running then .real elapsed else .whole 0
    pace := r.pace done
    left, leftText
    share := ← share? position total }

end Reading

namespace Face

/-- The title and what separates it from the rest. -/
def head (f : Face) : String :=
  if f.title.isEmpty ∨ f.title.endsWith ": " then f.title else f.title ++ ": "

/-- The rounds in a second, if it is not nothing. -/
def speed (f : Face) : Option Float := f.pace.filter fun x => !(x == 0)

/-- The seconds for a round. -/
def slowness (f : Face) : Option Float := f.speed.map (1 / ·)

/-- Whether a round takes more than a second. -/
def isSlow (f : Face) : Bool := f.slowness.any (1 < ·)

/-- A number of rounds in a second, or of seconds for a round. -/
def paceText (s : Style) (pace : Option Float) (unit : String) : String :=
  let number :=
    match pace with
    | none => "?"
    | some x =>
      if s.isShort then (shortText (.whole 1000) units (.real x)).toOption.getD ""
      else Text.fixed 5 2 x
  number ++ unit

/-- The rounds in a second with their unit. -/
def speedText (f : Face) (s : Style) : String := paceText s f.speed (roundUnit ++ "/s")

/-- The seconds for a round with their unit. -/
def slownessText (f : Face) (s : Style) : String := paceText s f.slowness ("s/" ++ roundUnit)

/-- The left side of a bar. -/
def leftSide (f : Face) : String :=
  match f.share with
  | some share => f.head ++ Text.fixed 3 0 (share * 100) ++ "%|"
  | none => f.head ++ "|"

/-- The right side of a bar. -/
def rightSide (f : Face) (s : Style) (notes : Value) : String :=
  "| " ++ f.positionText ++ "/" ++ f.totalText ++ " [" ++ timeText 0 ++ "<" ++ f.leftText ++ ", " ++
    (if f.isSlow then f.slownessText s else f.speedText s) ++ notes.plain ++ "]"

/-- The fields that a pattern has. -/
def fields (f : Face) (s : Style) (notes : Value) : List (String × Value) :=
  let ofFloat (x : Option Float) : Value := (x.map Value.real).getD .nothing
  [("n", f.position.value), ("n_fmt", .text f.positionText),
    ("total", (f.total.map Quantity.value).getD .nothing), ("total_fmt", .text f.totalText),
    ("elapsed", .text (timeText 0)), ("elapsed_s", f.seconds.value),
    ("ncols", s.columns), ("nrows", s.rows), ("desc", .text f.title), ("unit", .text roundUnit),
    ("rate", ofFloat (if f.isSlow then f.slowness else f.pace)),
    ("rate_fmt", .text (if f.isSlow then f.slownessText s else f.speedText s)),
    ("rate_noinv", ofFloat f.pace), ("rate_noinv_fmt", .text (f.speedText s)),
    ("rate_inv", ofFloat f.slowness), ("rate_inv_fmt", .text (f.slownessText s)),
    ("postfix", notes), ("unit_divisor", s.divisor), ("colour", s.colour),
    ("remaining", .text f.leftText), ("remaining_s", f.left.value),
    ("l_bar", .text f.leftSide), ("r_bar", .text (f.rightSide s notes)),
    ("eta", .moment "1970-01-01 00:00:00+00:00"),
    ("percentage", (f.share.map fun share => .real (share * 100)).getD (.whole 0)),
    ("bar", .gauge)]

/-- The share of a gauge: between nothing and all. -/
def gaugeShare (f : Face) : Quantity :=
  match f.share with
  | none => .whole 0
  | some x => if 0 ≤ x ∧ x ≤ 1 then .real x else if x < 0 then .whole 0 else .whole 1

/-- The length of the gauge beside so many other characters; ten if the line has
no end. -/
def gaugeLength (s : Style) (others : Nat) : Except BarError Quantity :=
  if !s.columns.isTrue then .ok (.whole 10)
  else
    match Quantity.ofValue? s.columns with
    | some columns => do
      let rest ← columns.sub (.whole others)
      return if (Quantity.whole 1).atLeast rest then .whole 1 else rest
    | none => .error (.operands "-" s.columns.kind "int")

/-- The gauge beside so many other characters. -/
def gauge (f : Face) (s : Style) (others : Nat) : Except BarError Gauge := do
  let length ← gaugeLength s others
  let symbols := if f.share.isSome then s.gaugeSymbols else .ok blankSymbols
  return ⟨f.gaugeShare, length, symbols, ← colourCode? s.colour⟩

/-- Cuts a line with a gauge off where its room ends; one with colours is cut off
in another way. -/
def cutOff (s : Style) (gauges : List Drawn) : Except BarError Unit :=
  match s.columns with
  | .real x => if x == 0 || gauges.any (·.colour.isSome) then .ok () else .error .cut
  | _ => .ok ()

/-- Draws a bar after a pattern, first without the gauge, to see how many
characters there are beside it. -/
def drawPattern (f : Face) (s : Style) (notes : Value) (pattern : String) :
    Except BarError Unit := do
  let fields := f.fields s notes
  let bare ← Pattern.fill fields (fun _ => .ok ()) (fun _ => "") 2 pattern.toList
  let others := if s.columns.isTrue then (Pattern.text (fun _ => "") bare).length else 0
  let draw (spec : List Char) : Except BarError Drawn := do (← f.gauge s others).draw spec
  let filled ← Pattern.fill fields draw Drawn.text 2 pattern.toList
  let gauges := filled.filterMap fun
    | .gauge drawn => some drawn
    | _ => none
  unless gauges.isEmpty do cutOff s gauges

/-- Draws a bar between its sides. -/
def drawPlain (f : Face) (s : Style) (notes : Value) : Except BarError Unit := do
  let others := if s.columns.isTrue then f.leftSide.length + (f.rightSide s notes).length else 0
  cutOff s [← (← f.gauge s others).draw []]

/-- Draws a bar, or says why it cannot be drawn. A bar without rounds, or past
them, has a gauge only if its host has a pattern; one without room for a gauge
has none. -/
def draw (f : Face) (s : Style) (notes : Value) : Except BarError Unit := do
  if f.share.isSome then
    if (Quantity.ofValue? s.columns).any (·.isZero) then return
    match ← s.patternText !f.title.isEmpty with
    | some pattern => f.drawPattern s notes pattern
    | none => f.drawPlain s notes
  else if let some pattern ← s.patternText true then f.drawPattern s notes pattern

end Face

end Chip8.Progress
