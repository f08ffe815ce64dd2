import Chip8.Progress.Value

/-!
# Errors of a bar

A bar is refused for an option that there is not, and for a drawing that cannot
be made: a number that is too large, a pattern that is no pattern, a field that
cannot be written as the pattern asks. Each error is a cause with its text.
-/

namespace Chip8.Progress

/-- A character in an error: by its code if it is not seen in ASCII. -/
def named (seen : Nat) (c : Char) : String :=
  if 32 < c.toNat ∧ c.toNat < seen then String.singleton c
  else "\\x" ++ String.ofList (Nat.toDigits 16 c.toNat)

/-- Why a value cannot be written as a specifier asks. -/
inductive SpecError where
  /-- A number in it has too many digits. -/
  | digits
  /-- Both marks are to separate groups of digits. -/
  | marks
  /-- A mark does not go with a code. -/
  | mark (mark code : Char)
  /-- A point, but no number of places. -/
  | noPlaces
  /-- Something is left over. -/
  | malformed (spec kind : String)
  /-- The code is none of the kind. -/
  | code (code : Char) (kind : String)
  /-- A text is to have a sign or a blank in its place. -/
  | textSign (blank : Bool)
  /-- A text, or a whole number, is to lose the sign of zero. -/
  | zeroSign (ofText : Bool)
  /-- A text is to be written in the other form. -/
  | textForm
  /-- A text is to be filled up behind its sign. -/
  | textFill
  /-- A whole number is to have places. -/
  | wholePlaces
  /-- A character is to have a sign. -/
  | characterSign
  /-- A character is to be written in the other form. -/
  | characterForm
  /-- There is no character of this number. -/
  | character
  /-- The number of a character is no word of 64 bits. -/
  | word (n : Int)
  /-- There are too many places. -/
  | places
  /-- A whole number is too large for a double. -/
  | number
  /-- The kind is never written by a specifier. -/
  | kind (kind : String)
  /-- The text is longer than any memory. -/
  | memory
deriving DecidableEq, Repr

/-- The text of an error. -/
def SpecError.message : SpecError → String
  | digits => "Too many decimal digits in format string"
  | marks => "Cannot specify both ',' and '_'."
  | mark m c => "Cannot specify '" ++ String.singleton m ++ "' with '" ++ named 128 c ++ "'."
  | noPlaces => "Format specifier missing precision"
  | malformed spec k =>
    "Invalid format specifier '" ++ spec ++ "' for object of type '" ++ k ++ "'"
  | code c k => "Unknown format code '" ++ named 128 c ++ "' for object of type '" ++ k ++ "'"
  | textSign blank =>
    (if blank then "Space" else "Sign") ++ " not allowed in string format specifier"
  | zeroSign ofText =>
    "Negative zero coercion (z) not allowed in " ++ (if ofText then "string" else "integer") ++
      " format specifier"
  | textForm => "Alternate form (#) not allowed in string format specifier"
  | textFill => "'=' alignment not allowed in string format specifier"
  | wholePlaces => "Precision not allowed in integer format specifier"
  | characterSign => "Sign not allowed with integer format specifier 'c'"
  | characterForm => "Alternate form (#) not allowed with integer format specifier 'c'"
  | character => "%c arg not in range(0x110000)"
  | word n => "int " ++ Text.decimal n ++ " too large to convert to a word"
  | places => "precision too big"
  | number => "int too large to convert to float"
  | kind k => "unsupported format string passed to " ++ k ++ ".__format__"
  | memory => ""

/-- Why a pattern cannot be filled in. -/
inductive PatternError where
  /-- An opening brace at the end. -/
  | opening
  /-- A closing brace without an opening one. -/
  | closing
  /-- A field without an end. -/
  | unclosed
  /-- A field within the name of a field. -/
  | nested
  /-- A specifier without an end. -/
  | unclosedSpec
  /-- No conversion after its mark. -/
  | noConversion
  /-- Something after a conversion. -/
  | afterConversion
  /-- A conversion that there is not. -/
  | conversion (c : Char)
  /-- A field in a specifier in a specifier. -/
  | depth
  /-- A field that is called by its place. -/
  | place (n : Nat)
  /-- A field that there is not. -/
  | field (name : String)
  /-- Something after a bracket. -/
  | afterBracket
  /-- A part without a name. -/
  | unnamed
  /-- A kind of value without this part. -/
  | part (kind name : String)
  /-- A kind of value without items. -/
  | noItems (kind : String)
  /-- An item of a text, or of a list, that is not called by its place. -/
  | itemName (ofText : Bool)
  /-- A place past the end of a text, or of a list. -/
  | pastEnd (ofText : Bool)
  /-- A member that there is not. -/
  | noMember (key : String)
  /-- A field that cannot be written as its specifier asks. -/
  | spec (e : SpecError)
deriving DecidableEq, Repr

/-- The text of an error. -/
def PatternError.message : PatternError → String
  | opening => "Single '\x7b' encountered in format string"
  | closing => "Single '\x7d' encountered in format string"
  | unclosed => "expected '\x7d' before end of string"
  | nested => "unexpected '\x7b' in field name"
  | unclosedSpec => "unmatched '\x7b' in format spec"
  | noConversion => "end of string while looking for conversion specifier"
  | afterConversion => "expected ':' after conversion specifier"
  | conversion c => "Unknown conversion specifier " ++ named 127 c
  | depth => "Max string recursion exceeded"
  | place n =>
    "Replacement index " ++ Text.decimal n ++ " out of range for positional args tuple"
  | field name => Text.quoted name
  | afterBracket => "Only '.' or '[' may follow ']' in format field specifier"
  | unnamed => "Empty attribute in format string"
  | part kind name => "'" ++ kind ++ "' object has no attribute '" ++ name ++ "'"
  | noItems kind => "'" ++ kind ++ "' object is not subscriptable"
  | itemName true => "string indices must be integers, not 'str'"
  | itemName false => "list indices must be integers or slices, not str"
  | pastEnd ofText => (if ofText then "string" else "list") ++ " index out of range"
  | noMember key => key
  | spec e => e.message

/-- Why there is no bar, or no drawing of it. -/
inductive BarError where
  /-- An option that a bar had once. -/
  | nested
  /-- Options that there are not. -/
  | unknown (options : List (String × Value))
  /-- A whole number is too large for a double. -/
  | number
  /-- A quotient of whole numbers is too large for a double. -/
  | quotient
  /-- A division by zero, of whole numbers or not. -/
  | zero (ofWhole : Bool)
  /-- A single symbol, which leaves no steps between empty and full. -/
  | symbols
  /-- A time without end. -/
  | endless
  /-- A time that is no number. -/
  | noTime
  /-- A length that is no word of 64 bits. -/
  | length
  /-- A text that is longer than any memory. -/
  | memory
  /-- A number with too many digits to be written. -/
  | digits
  /-- A text that is no whole number in a base. -/
  | numeral (base : Nat) (s : String)
  /-- A note with too many parts, or with so many too few. -/
  | note (parts : Option Nat)
  /-- The host's stream does not take bytes. -/
  | bytes
  /-- An operation that there is not for two kinds of values. -/
  | operands (operation left right : String)
  /-- A kind of values that have no opposite. -/
  | opposite (kind : String)
  /-- A kind of values that are not compared with zero. -/
  | order (kind : String)
  /-- A kind of values that have no size. -/
  | size (kind : String)
  /-- Something is to be repeated a fraction of times. -/
  | fraction
  /-- A text is to be cut off at a fraction of a character. -/
  | cut
  /-- The host's pattern cannot be filled in. -/
  | pattern (e : PatternError)

/-- The text of an error. -/
def BarError.message : BarError → String
  | nested => "`nested` is deprecated and automated.\nUse `position` instead for manual control.\n"
  | unknown options =>
    Text.quoted ("Unknown argument(s): " ++ (Value.table options).literal)
  | number => "int too large to convert to float"
  | quotient => "integer division result too large for a float"
  | zero ofWhole => if ofWhole then "division by zero" else "float division by zero"
  | symbols => "integer division or modulo by zero"
  | endless => "cannot convert float infinity to integer"
  | noTime => "cannot convert float NaN to integer"
  | length => "cannot fit 'int' into an index-sized integer"
  | memory => ""
  | digits => "Exceeds the limit (4300 digits) for integer string conversion; " ++
      "use sys.set_int_max_str_digits() to increase the limit"
  | numeral base s => "invalid literal for int() with base " ++ Text.decimal base ++ ": " ++
      Text.quoted s
  | note none => "too many values to unpack (expected 2)"
  | note (some 1) => "need more than 1 value to unpack"
  | note (some parts) => "need more than " ++ Text.decimal parts ++ " values to unpack"
  | bytes => "write() argument must be str, not bytes"
  | operands operation left right =>
    "unsupported operand type(s) for " ++ operation ++ ": '" ++ left ++ "' and '" ++ right ++ "'"
  | opposite kind => "bad operand type for unary -: '" ++ kind ++ "'"
  | order kind => "'<=' not supported between instances of '" ++ kind ++ "' and 'int'"
  | size kind => "object of type '" ++ kind ++ "' has no len()"
  | fraction => "can't multiply sequence by non-int of type 'float'"
  | cut => "slice indices must be integers or None or have an __index__ method"
  | pattern e => e.message

end Chip8.Progress
