import Chip8.Text.Fixed

/-!
# Notations of a number

Next to a given number of decimal places (`placed`), a number is written with
one digit before the point and a power of ten (`scientific`), or with a given
number of digits in whichever of both is the shorter (`general`); a tie goes to
the even neighbour. `shortest` takes the fewest digits that read back as the
same double.
-/

namespace Chip8.Text

/-- Digits of a number, and the power of ten that the first of them counts. -/
structure Leading where
  digits : List Char
  power : Int
deriving DecidableEq, Repr

/-- Whether a fraction is at least a power of ten. -/
def atLeast (num den : Nat) (power : Int) : Bool :=
  den * Nat.pow 10 power.toNat ≤ num * Nat.pow 10 (-power).toNat

/-- The power of ten that the first digit of a positive fraction counts: the
difference of the lengths, or one less. -/
def leadingPower (num den : Nat) : Int :=
  let power : Int := (Nat.toDigits 10 num).length - (Nat.toDigits 10 den).length
  if atLeast num den power then power else power - 1

/-- A fraction in units of a power of ten, as a fraction again. -/
def inUnits (num den : Nat) (power : Int) : Nat × Nat :=
  (num * Nat.pow 10 (-power).toNat, den * Nat.pow 10 power.toNat)

/-- The first digits of a fraction, rounded. -/
def leading (count : Nat) (num den : Nat) : Leading :=
  if num = 0 then ⟨List.replicate count '0', 0⟩
  else
    let power := leadingPower num den
    let (n, d) := inUnits num den (power - count + 1)
    let rounded := roundDiv n d
    if rounded = Nat.pow 10 count then ⟨'1' :: List.replicate (count - 1) '0', power + 1⟩
    else ⟨(Nat.toDigits 10 rounded).leftpad count '0', power⟩

/-- Digits around the point. -/
def Leading.positional (l : Leading) : Written :=
  if l.power < 0 then ⟨['0'], List.replicate (-l.power - 1).toNat '0' ++ l.digits, []⟩
  else
    let size := l.power.toNat + 1
    ⟨l.digits.take size ++ List.replicate (size - l.digits.length) '0', l.digits.drop size, []⟩

/-- The mark of a power of ten, its sign, and two digits at least. -/
def powerOfTen (mark : Char) (power : Int) : List Char :=
  mark :: (if power < 0 then '-' else '+') :: (Nat.toDigits 10 power.natAbs).leftpad 2 '0'

/-- One digit before the point, the others after it, and the power of ten. -/
def Leading.scientific (mark : Char) (l : Leading) : Written :=
  ⟨l.digits.take 1, l.digits.drop 1, powerOfTen mark l.power⟩

/-- A written number without zeros at the end of its places. -/
def Written.trimmed (w : Written) : Written :=
  { w with places := (w.places.reverse.dropWhile (· = '0')).reverse }

/-- A fraction with one digit before the point and so many after it. -/
def scientific (mark : Char) (places : Nat) (num den : Nat) : Written :=
  (leading (places + 1) num den).scientific mark

/-- A fraction with so many digits, around the point if its power of ten is
neither below `-4` nor at the limit. -/
def general (mark : Char) (count : Nat) (limit : Int) (num den : Nat) : Written :=
  let l := leading count num den
  if -4 ≤ l.power ∧ l.power < limit then l.positional else l.scientific mark

/-- The digits in `count` places that read back as a positive double, if there
are such: of the two neighbours of the double on that decimal grid, those that
lie between the middles to the next doubles, the nearer one first. The next
double below a power of two is half as far away as the one above. A middle
belongs to the double with the even mantissa. -/
def readingBack? (mantissa : Nat) (exponent : Int) (count : Nat) : Option Leading :=
  let (num, den) := binaryFraction mantissa exponent
  let step := Nat.pow 2 exponent.toNat
  let low := 4 * num - (if mantissa = 0x10000000000000 ∧ -1074 < exponent then step else 2 * step)
  let high := 4 * num + 2 * step
  let power := leadingPower num den - count + 1
  let (n, d) := inUnits num den power
  let near (units : Nat) : Bool :=
    let (value, unit) := (4 * units * den * Nat.pow 10 power.toNat, Nat.pow 10 (-power).toNat)
    if mantissa % 2 = 0 then low * unit ≤ value && value ≤ high * unit
    else low * unit < value && value < high * unit
  let units :=
    match near (n / d), near (n / d + 1) with
    | true, true => some (roundDiv n d)
    | true, false => some (n / d)
    | false, true => some (n / d + 1)
    | false, false => none
  units.map fun units =>
    let digits := Nat.toDigits 10 units
    ⟨digits, power + digits.length - 1⟩

/-- The fewest digits that read back as a positive double; seventeen do. -/
def shortestDigits (mantissa : Nat) (exponent : Int) : Leading :=
  let (num, den) := binaryFraction mantissa exponent
  ((List.range 17).findSome? fun count => readingBack? mantissa exponent (count + 1)).getD
    (leading 17 num den)

/-- The fewest digits, around the point from a ten-thousandth to ten to the
sixteenth, with a place after the point at least, and with a power of ten
otherwise. -/
def shortestWritten (mantissa : Nat) (exponent : Int) : Written :=
  if mantissa = 0 then ⟨['0'], ['0'], []⟩
  else
    let l := shortestDigits mantissa exponent
    if -4 ≤ l.power ∧ l.power < 16 then
      let w := l.positional.trimmed
      if w.places.isEmpty then { w with places := ['0'] } else w
    else (l.scientific 'e').trimmed

/-- The shortest text that reads back as the same double. -/
def shortest (x : Float) : String :=
  String.ofList ((Double.ofBits x.toBits.toNat).written fun mantissa exponent =>
    (shortestWritten mantissa exponent).chars false)

example : (scientific 'e' 2 12345 1).chars false = "1.23e+04".toList := by decide +kernel
example : ((general 'e' 3 3 12345 1).chars false, (general 'e' 3 3 1 8).chars false) =
    ("1.23e+04".toList, "0.125".toList) := by decide +kernel
example : (shortestWritten 1 (-1074)).chars false = "5e-324".toList := by decide +kernel
example : (shortestWritten 0x1999999999999A (-56)).chars false = "0.1".toList := by decide +kernel

end Chip8.Text
