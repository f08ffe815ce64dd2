import Chip8.Progress.Quantity
import Chip8.Text.Case
import Chip8.Text.Numeral

/-!
# Specifiers

A specifier says how a field is written: what fills it up and on which side,
the sign, the width, the mark between groups of digits, the places, and a code
for the notation. `Value.specify` reads one for a value, or refuses it;
`Value.written` is the text of a value whose specifier was not refused.
-/

namespace Chip8.Progress

/-- How a field is written. -/
structure Spec where
  fill : Char := ' '
  /-- The side that is filled up: `<` the end, `>` the start, `^` both, and `=`
  between a sign and its number. -/
  align : Option Char := none
  /-- What stands before a number that is not negative, if not nothing. -/
  sign : Option Char := none
  /-- A zero has no sign. -/
  unsignedZero : Bool := false
  /-- The other form: with a mark of the base, or always with a point. -/
  otherForm : Bool := false
  width : Nat := 0
  /-- The mark between groups of digits. -/
  mark : Option Char := none
  places : Option Nat := none
  code : Option Char := none
deriving DecidableEq, Repr

namespace Spec

/-- The first character, if it is of a kind, and what follows it. -/
def take? (p : Char → Bool) : List Char → Option Char × List Char
  | c :: rest => if p c then (some c, rest) else (none, c :: rest)
  | [] => (none, [])

/-- The largest number in a specifier. -/
def largest : Nat := 0x7FFFFFFFFFFFFFFF

/-- The number at the start, if there is a digit, and what follows it. -/
def number (n : Nat) : List Char → Except SpecError (Nat × List Char)
  | [] => .ok (n, [])
  | c :: rest =>
    match Text.decimalDigit? c with
    | none => .ok (n, c :: rest)
    | some d => if largest < 10 * n + d then .error .digits else number (10 * n + d) rest

def isAlign (c : Char) : Bool := ['<', '>', '=', '^'].contains c

def isSign (c : Char) : Bool := [' ', '+', '-'].contains c

/-- What fills a field up, if it is given, on which side, and what follows. -/
def filling : List Char → Option Char × Option Char × List Char
  | c :: a :: rest =>
    if isAlign a then (some c, some a, rest)
    else if isAlign c then (none, some c, a :: rest)
    else (none, none, c :: a :: rest)
  | [c] => if isAlign c then (none, some c, []) else (none, none, [c])
  | [] => (none, none, [])

/-- Whether a mark between groups of digits goes with a code: the low line also
with the codes of other bases. -/
def goesWith (mark : Char) : Option Char → Bool
  | none => true
  | some code =>
    "defgEG%F".toList.contains code || (mark = '_' && "boxX".toList.contains code)

/-- Reads a specifier for a value of a kind, a text or a number. -/
def read (ofText : Bool) (kind : String) (spec : List Char) : Except SpecError Spec := do
  let (fill, align, rest) := filling spec
  let (sign, rest) := take? isSign rest
  let (unsignedZero, rest) := take? (· = 'z') rest
  let (otherForm, rest) := take? (· = '#') rest
  let (zero, rest) := if fill.isNone then take? (· = '0') rest else (none, rest)
  let (width, rest) ← number 0 rest
  let (comma, rest) := take? (· = ',') rest
  let (line, rest) := take? (· = '_') rest
  if line.isSome && (comma.isSome || rest.head? = some ',') then throw .marks
  let (point, rest) := take? (· = '.') rest
  let (places, after) ← if point.isSome then number 0 rest else pure (0, rest)
  if point.isSome && after.length = rest.length then throw .noPlaces
  if 1 < after.length then throw (.malformed (String.ofList spec) kind)
  let mark := comma.or line
  let code := after.head?
  if let some m := mark then
    let code := if ofText then some (code.getD 's') else code
    if !goesWith m code then throw (.mark m (code.getD 'd'))
  return {
    fill := fill.getD (zero.getD ' ')
    align := if align.isNone && zero.isSome && !ofText then some '=' else align
    sign, unsignedZero := unsignedZero.isSome, otherForm := otherForm.isSome, width, mark
    places := if point.isSome then some places else none
    code }

/-- The length that no text has. -/
def tooLong : Nat := 0x4000000000

/-- Why a text cannot be written so. -/
def textRefusal? (s : Spec) : Option SpecError :=
  if (s.code.getD 's') ≠ 's' then some (.code (s.code.getD 's') "str")
  else if s.sign.isSome then some (.textSign (s.sign = some ' '))
  else if s.unsignedZero then some (.zeroSign true)
  else if s.otherForm then some .textForm
  else if s.align = some '=' then some .textFill
  else if tooLong < s.width then some .memory
  else none

/-- Why a double cannot be written so. -/
def realRefusal? (s : Spec) (kind : String) : Option SpecError :=
  if !(s.code.all fun code => "eEfFgGn%".toList.contains code) then
    some (.code (s.code.getD ' ') kind)
  else if 0x7FFFFFFF < s.places.getD 0 then some .places
  else if tooLong < s.width then some .memory
  else none

/-- Why a whole number cannot be written so. -/
def wholeRefusal? (s : Spec) (kind : String) (n : Int) : Option SpecError :=
  let code := s.code.getD 'd'
  if "eEfFgG%".toList.contains code then
    if fitsDouble n then s.realRefusal? kind else some .number
  else if !"bcdoxXn".toList.contains code then some (.code code kind)
  else if s.places.isSome then some .wholePlaces
  else if s.unsignedZero then some (.zeroSign false)
  else if code = 'c' && s.sign.isSome then some .characterSign
  else if code = 'c' && s.otherForm then some .characterForm
  else if code = 'c' && (n < -0x8000000000000000 || 0x8000000000000000 ≤ n) then some (.word n)
  else if code = 'c' && (n < 0 || 0x110000 ≤ n) then some .character
  else if tooLong < s.width then some .memory
  else none

/-- Digits, the least significant first, with a mark after every so many of
them that have another digit behind them. -/
def grouped (mark : Char) (size : Nat) : Nat → List Char → List Char
  | _, [] => []
  | 0, c :: digits => mark :: c :: grouped mark size (size - 1) digits
  | n + 1, c :: digits => c :: grouped mark size n digits

/-- Digits in groups, and zeros before them up to a width. A mark is never the
first character. -/
def groups (mark : Char) (size width : Nat) (digits : List Char) : List Char :=
  let whole := width - (width - 1) / (size + 1)
  (grouped mark size size (digits.leftpad whole '0').reverse).reverse

/-- A text filled up to the width, behind its sign if that is asked for. -/
def filled (s : Spec) (align : Char) (sign body : List Char) : List Char :=
  let missing := s.width - (sign.length + body.length)
  let gap (n : Nat) : List Char := List.replicate n s.fill
  match s.align.getD align with
  | '<' => sign ++ body ++ gap missing
  | '^' => gap (missing / 2) ++ sign ++ body ++ gap (missing - missing / 2)
  | '=' => sign ++ gap missing ++ body
  | _ => gap missing ++ sign ++ body

/-- A number filled up to the width: its sign and the mark of its base, the
digits, and what follows them. -/
def aligned (s : Spec) (before digits after : List Char) : List Char :=
  let size := if "boxX".toList.contains (s.code.getD 'd') then 4 else 3
  let zeros := if s.fill = '0' && s.align = some '=' then s.width else 0
  let digits :=
    match digits, s.mark with
    | [], _ | _, none => digits
    | digits, some mark => groups mark size (zeros - before.length - after.length) digits
  s.filled '>' before (digits ++ after)

/-- The sign of a number. -/
def signOf (s : Spec) (negative : Bool) : List Char :=
  if negative then ['-'] else (s.sign.filter (· ≠ '-')).toList

/-- A text as the specifier asks. -/
def text (s : Spec) (chars : List Char) : List Char :=
  s.filled '<' [] (match s.places with
    | some places => chars.take places
    | none => chars)

/-- The size of a double as the specifier asks, a fraction; of hundredths if it
asks for a percentage. -/
def magnitude (s : Spec) (num den : Nat) (short : Text.Written) : Text.Written :=
  let places := s.places.getD 6
  let general (mark : Char) : Text.Written :=
    let w := Text.general mark (max 1 places) (max 1 places) num den
    if s.otherForm then w else w.trimmed
  match s.code, s.places with
  | some 'e', _ => Text.scientific 'e' places num den
  | some 'E', _ => Text.scientific 'E' places num den
  | some 'f', _ | some 'F', _ => Text.placed places num den
  | some '%', _ => { Text.placed places num den with tail := ['%'] }
  | some 'G', _ => general 'E'
  | some _, _ => general 'e'
  | none, none => short
  | none, some places =>
    let w := Text.general 'e' (max 1 places) (max 1 places - 1) num den
    let w := if s.otherForm then w else w.trimmed
    if w.places.isEmpty && w.tail.isEmpty then { w with places := ['0'] } else w

/-- A double as the specifier asks. -/
def real (s : Spec) (x : Float) : List Char :=
  let named (name : String) : List Char :=
    let percent := if s.code = some '%' then ['%'] else []
    (if ("EFG".toList.contains (s.code.getD 'e')) then Text.upper name else name).toList ++ percent
  let x := if s.code = some '%' then x * 100 else x
  match Text.Double.ofBits x.toBits.toNat with
  | .nan => s.aligned (s.signOf false) [] (named "nan")
  | .infinite negative => s.aligned (s.signOf negative) [] (named "inf")
  | .finite negative mantissa exponent =>
    let (num, den) := Text.binaryFraction mantissa exponent
    let w := s.magnitude num den (Text.shortestWritten mantissa exponent)
    let isZero := (w.whole ++ w.places).all (· = '0')
    let after := { w with whole := [] }.chars s.otherForm
    s.aligned (s.signOf (negative && !(s.unsignedZero && isZero))) w.whole after

/-- A whole number as the specifier asks. -/
def whole (s : Spec) (n : Int) : List Char :=
  let code := s.code.getD 'd'
  let inBase (base : Nat) (mark : List Char) : List Char :=
    let digits := Nat.toDigits base n.natAbs
    s.aligned (s.signOf (n < 0) ++ if s.otherForm then mark else [])
      (if code = 'X' then digits.map Char.toUpper else digits) []
  if "eEfFgG%".toList.contains code then s.real (Float.ofInt n)
  else if code = 'c' then s.filled '>' [] [Char.ofNat n.toNat]
  else if code = 'b' then inBase 2 ['0', 'b']
  else if code = 'o' then inBase 8 ['0', 'o']
  else if code = 'x' then inBase 16 ['0', 'x']
  else if code = 'X' then inBase 16 ['0', 'X']
  else inBase 10 []

example : (read false "int" "*^+9,d".toList).toOption =
    some ⟨'*', some '^', some '+', false, false, 9, some ',', none, some 'd'⟩ := by decide +kernel
example : (read false "int" "xx".toList).toOption = none := by decide +kernel
example : whole { fill := '0', align := some '=', width := 8, mark := some ',' } 1234 =
    "0,001,234".toList := by decide +kernel
example : text { width := 5, places := some 3 } "title".toList = "tit  ".toList := by decide +kernel

end Spec

namespace Value

/-- Reads a specifier for a value; an empty one asks for nothing. -/
def specify (v : Value) (spec : List Char) : Except SpecError (Option Spec) :=
  let checked (ofText : Bool) (refusal? : Spec → Option SpecError) :
      Except SpecError (Option Spec) := do
    let s ← Spec.read ofText v.kind spec
    if let some e := refusal? s then throw e
    return some s
  if spec.isEmpty then .ok none
  else
    match v with
    | text _ => checked true (·.textRefusal?)
    | flag b => checked false (·.wholeRefusal? v.kind (if b then 1 else 0))
    | whole n => checked false (·.wholeRefusal? v.kind n)
    | real _ => checked false (·.realRefusal? v.kind)
    | moment _ | gauge => .ok none
    | nothing | list _ | table _ => .error (.kind v.kind)

/-- The text of a value as its specifier asks. -/
def written (v : Value) : Option Spec → String
  | none => v.plain
  | some s =>
    match v with
    | text chars => String.ofList (s.text chars.toList)
    | flag b => String.ofList (s.whole (if b then 1 else 0))
    | whole n => String.ofList (s.whole n)
    | real x => String.ofList (s.real x)
    | v => v.plain

end Value

end Chip8.Progress
