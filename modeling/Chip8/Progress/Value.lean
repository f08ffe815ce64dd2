import Chip8.Text.Decimal
import Chip8.Text.Notation
import Chip8.Text.Quoted

/-!
# Values of options

A host chooses an option of a bar by any value: a number, a text, a list, a
table. A value has a kind, counts as true or not, and is written in two ways: as
it is shown (`Value.plain`) and as it is told apart in a message
(`Value.literal`).
-/

namespace Chip8.Progress

/-- A value of an option, or of a field of a bar. -/
inductive Value where
  | nothing
  | flag (b : Bool)
  | whole (n : Int)
  | real (x : Float)
  | text (s : String)
  | list (items : List Value)
  | table (members : List (String × Value))
  /-- A date with a time. -/
  | moment (s : String)
  /-- The bar itself. -/
  | gauge

instance : Inhabited Value := ⟨.nothing⟩

namespace Value

/-- The name of a value's kind. -/
def kind : Value → String
  | nothing => "NoneType"
  | flag _ => "bool"
  | whole _ => "int"
  | real _ => "float"
  | text _ => "str"
  | list _ => "list"
  | table _ => "dict"
  | moment _ => "datetime.datetime"
  | gauge => "FormatReplace"

/-- Whether a value counts as true: what is nothing, zero or empty does not. -/
def isTrue : Value → Bool
  | nothing => false
  | flag b => b
  | whole n => n != 0
  | real x => !(x == 0)
  | text s => !s.isEmpty
  | list items => !items.isEmpty
  | table members => !members.isEmpty
  | moment _ => true
  | gauge => true

mutual

/-- A value in a message, its texts quoted by a rule. -/
def literalBy (quote : String → String) : Value → String
  | nothing => "None"
  | flag b => if b then "True" else "False"
  | whole n => Text.decimal n
  | real x => Text.shortest x
  | text s => quote s
  | list items => "[" ++ ", ".intercalate (literalsBy quote items) ++ "]"
  | table members => "\x7b" ++ ", ".intercalate (membersBy quote members) ++ "\x7d"
  | moment s => s
  | gauge => ""

/-- The items of a list in a message. -/
def literalsBy (quote : String → String) : List Value → List String
  | [] => []
  | v :: items => literalBy quote v :: literalsBy quote items

/-- The members of a table in a message. -/
def membersBy (quote : String → String) : List (String × Value) → List String
  | [] => []
  | (key, v) :: members =>
    (quote key ++ ": " ++ literalBy quote v) :: membersBy quote members

end

/-- A value in a message. -/
def literal (v : Value) : String := literalBy Text.quoted v

/-- A value as it is shown: a text without quotes. -/
def plain : Value → String
  | text s => s
  | v => v.literal

/-- A member of a table; one that is nothing counts as missing. -/
def member? (members : List (String × Value)) (key : String) : Option Value :=
  match members.lookup key with
  | some nothing => none
  | v => v

example : (table [("a", list [whole (-1), flag true, nothing]), ("b'", text "é")]).literal =
    "\x7b'a': [-1, True, None], \"b'\": 'é'\x7d" := by decide +kernel

end Value

end Chip8.Progress
